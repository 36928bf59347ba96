import SchemaGen.Catalog.Loader
import SchemaGen.File.Store
import SchemaGen.Schema.Document

/-!
# Schema files

A schema file is named after its schema, with one of three endings. An identifier refers to the
file of that name next to the file that uses it; where several endings would do, the first counts.
-/

set_option autoImplicit false

namespace SchemaGen

open SchemaGen.Text

/-- The endings of schema files, in the order in which they are tried. -/
def schemaEndings : List String :=
  [".schema.yaml", ".schema.yml", ".schema.json"]

/-- The name of the schema in a file: the name of the file without its ending, or without its
extension if it has no ending of a schema file. -/
def schemaName (path : String) : String :=
  let base := Path.baseName path
  match schemaEndings.find? (endsWith base ·) with
  | some ending => dropEnd base ending
  | none => dropEnd base (Path.extension base)

namespace FileStore

/-- Reads the schema at a path. It remembers where it was, seen from the root. -/
def loadSchema (s : FileStore) (path : String) : Except Fault Schema :=
  match s.read path with
  | none => .error (.unreadableSchema path)
  | some text =>
    match SchemaDocument.readObjects path text with
    | .error fault => .error fault
    | .ok objects => .ok { name := schemaName path, path := s.absolute path, objects }

/-- The path of the file that an identifier refers to in the file at `source`. -/
def resolveReference (s : FileStore) (source identifier : String) : Except Fault String :=
  let identifier := trim identifier
  if identifier = "" then .error (.emptyReference source)
  else
    let candidates := schemaEndings.map fun ending =>
      Path.join (Path.dirName source) (identifier ++ ending)
    match candidates.find? s.isFile with
    | some path => .ok path
    | none => .error (.unresolvedReference identifier source)

/-- The paths of all files, seen from the root. -/
def allPaths (s : FileStore) : List String :=
  s.files.map fun f => pathOf f.1

/-- Reads the schema at a path that is given from the root. -/
def loadRooted (s : FileStore) (path : String) : Except Fault Schema :=
  if s.allPaths.contains path then s.loadSchema path else .error (.unreadableSchema path)

theorem mem_allPaths_of_loadRooted {s : FileStore} {path : String} {schema : Schema}
    (h : s.loadRooted path = .ok schema) : path ∈ s.allPaths := by
  unfold loadRooted at h
  split at h
  next hmem => simpa using hmem
  next => cases h

/-- The files as a loader. A schema that was read from a file knows its path from the root, and so
do those it refers to. -/
def loader (s : FileStore) : Loader where
  resolve := s.resolveReference
  load := s.loadRooted
  paths := s.allPaths
  mem_paths := mem_allPaths_of_loadRooted

end FileStore

end SchemaGen
