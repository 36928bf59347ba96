import SchemaGen.Catalog.Closure
import SchemaGen.File.SchemaFile

/-!
# Listing references

The names that a schema can use, each with the schema that exports it.
-/

set_option autoImplicit false

namespace SchemaGen

/-- The names that a schema can use. -/
structure References where
  schema : String
  /-- The schemas of its catalog, itself first. -/
  origins : List String
  /-- Every name in increasing order, with the schema it belongs to. -/
  entries : List (String × String)
deriving Repr, DecidableEq, Inhabited

/-- Lists the references of the schema in a file. -/
def listReferences (s : FileStore) (path : String) (strict : Bool) : Report References :=
  let path := Text.trim path
  if path = "" then .fail .noSchemaFile
  else match s.loadSchema path with
    | .error fault => .fail fault
    | .ok schema =>
      (Catalog.build s.loader strict schema).andThen fun c =>
        .done { schema := schema.name, origins := c.origins.map (·.schema), entries := c.entries }

end SchemaGen
