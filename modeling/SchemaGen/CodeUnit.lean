import SchemaGen.Catalog.Closure
import SchemaGen.Definition.Build
import SchemaGen.Plugin.Apply
import SchemaGen.Version.Constraint

/-!
# Code units

The whole way of one schema: its version is checked, its catalog is built, then its declarations,
then its definitions, and then plugins extend both. The result is a code unit: two trees that are printed as two files.
-/

set_option autoImplicit false

namespace SchemaGen

open SchemaGen.Text (snake headerGuard)

/-- What a caller decides about a code unit. -/
structure UnitOptions where
  decls : DeclOptions := {}
  /-- Whether a name that two references export is a fault. -/
  strict : Bool := false
  /-- The constraint on the version; blank for none. -/
  version : String := ""
deriving Repr, DecidableEq, Inhabited

/-- What comes of a schema: the includes of both files, and the trees that they print. -/
structure CodeUnit where
  schema : Schema
  rootGroup : String
  header : Preamble
  source : Preamble
  world : World
  declRoot : NodeId
  defnRoot : NodeId

/-- The trees of a schema before plugins extend them. -/
def CodeUnit.ofTrees (s : Schema) (d : Declarations) (i : Definitions) : CodeUnit where
  schema := s
  rootGroup := d.rootGroup
  header := d.header
  source := i.source
  world := { decls := ({} : Forest Decl).plant d.tree,
             defns := ({} : Forest Defn).plant (i.tree.number 0).1 }
  declRoot := d.tree.label.id
  defnRoot := 0

/-- Runs plugins on a code unit. -/
def CodeUnit.extend (t : CodeUnit) (plugins : Registry) : Report CodeUnit :=
  let (world, report) := plugins.apply (some t.declRoot) (some t.defnRoot) t.world
  report.andThen fun _ => .done { t with world }

/-- The code unit of a schema as it is when plugins take over. -/
def buildTrees (loader : Loader) (o : UnitOptions) (s : Schema) : Report CodeUnit :=
  (checkVersion s o.version).andThen fun _ =>
  (Catalog.build loader o.strict s).andThen fun c =>
  (buildDeclarations c s o.decls).andThen fun d =>
  (buildDefinitions c s.name (d.container.map Prod.fst) d.scope).andThen fun i =>
  .done (.ofTrees s d i)

/-- The code unit of a schema. Without a registry no plugin runs. -/
def compile (loader : Loader) (plugins : Option Registry) (o : UnitOptions) (s : Schema) :
    Report CodeUnit :=
  ((buildTrees loader o s).andThen fun t =>
    ((plugins.map t.extend).getD (.done t)).andThen fun t =>
    (Report.say .unitComplete).andThen fun _ => .done t).inSchema s.name

/-! ## Files -/

/-- The two files of a schema. -/
structure RenderedUnit where
  schema : String := ""
  headerFile : String := ""
  header : String := ""
  sourceFile : String := ""
  source : String := ""
deriving Repr, DecidableEq, Inhabited

/-- The note that every header carries. -/
def generatedNote : String :=
  "/// @note  This file has been auto-generated. Local changes will not be saved!"

namespace CodeUnit

/-- The text of the declarations. -/
def declText (t : CodeUnit) : String :=
  ((t.world.decls.outline? t.declRoot).map renderDecl).getD ""

/-- The text of the definitions. -/
def defnText (t : CodeUnit) : String :=
  ((t.world.defns.outline? t.defnRoot).map (renderDefn t.world.decls)).getD ""

/-- The header: its guard around its includes, the note and the declarations. -/
def headerText (t : CodeUnit) : String :=
  let guard := headerGuard t.schema.name
  "\n".intercalate
    (["#ifndef " ++ guard, "#define " ++ guard] ++ t.header.lines
      ++ [generatedNote, t.declText, "#endif", ""])

/-- The source: its includes, an empty line and the definitions. -/
def sourceText (t : CodeUnit) : String :=
  "\n".intercalate (t.source.lines ++ ["", t.defnText, ""])

/-- The two files. -/
def render (t : CodeUnit) : RenderedUnit where
  schema := t.schema.name
  headerFile := snake t.schema.name ++ ".h"
  header := t.headerText
  sourceFile := snake t.schema.name ++ ".cpp"
  source := t.sourceText

end CodeUnit

end SchemaGen
