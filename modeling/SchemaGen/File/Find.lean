import SchemaGen.Fault
import SchemaGen.File.Glob
import SchemaGen.File.Store

/-!
# Finding schema files

The files below a directory that a pattern matches, in increasing order of their paths. Directories
that hold what was built or installed are passed over.
-/

set_option autoImplicit false

namespace SchemaGen

/-- The pattern that matches every schema file. -/
def defaultPattern : String := "**/*.schema.\x7byaml,yml,json\x7d"

/-- The directories whose files do not count. -/
def skippedDirs : List String :=
  ["build", "install", ".git", "node_modules"]

/-- Whether a file lies in a directory whose files do not count. -/
def isSkipped (names : List String) : Bool :=
  names.dropLast.any (skippedDirs.contains ·)

namespace FileStore

/-- The paths of the files below `root` that a pattern matches. -/
def matchesBelow (s : FileStore) (root pattern : String) (dir : Place) : List String :=
  let names := (s.filesBelow dir).filter fun names =>
    Glob.matchesFile pattern names && !isSkipped names
  (names.map fun names => Path.join root ("/".intercalate names)).mergeSort fun a b => !(b < a)

/-- The files below a directory that a pattern matches. The empty pattern is the default one. -/
def findSchemas (s : FileStore) (root pattern : String) : Except Fault (List String) :=
  let pattern := if pattern = "" then defaultPattern else pattern
  if root = "" then .error .emptySchemaDir
  else if !Glob.isValid pattern then .error (.badPattern pattern)
  else match s.locate root with
    | some dir =>
      if s.isDir dir then .ok (s.matchesBelow root pattern dir) else .error (.noSchemaDir root)
    | none => .error (.noSchemaDir root)

end FileStore

end SchemaGen
