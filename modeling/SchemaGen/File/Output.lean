import SchemaGen.File.Store
import SchemaGen.CodeUnit

/-!
# Writing units

The two files of a unit are written one after the other, the header first. What was written before
a failure stays, and so do the directories that were made for it. Nothing but directories and files
in the way makes a write fail (see `SchemaGen.File.Store`).
-/

set_option autoImplicit false

namespace SchemaGen

/-- What came of writing: the files as they are then, the paths written, and the fault if there was
one. -/
structure Written where
  store : FileStore
  paths : List String := []
  fault : Option Fault := none

namespace FileStore

/-- Writes one file into a directory, which is made if it is missing. -/
def writeInto (s : FileStore) (dir name text : String) : FileStore × Except Fault String :=
  if dir = "" then (s, .error .emptyOutputDir)
  else match s.makeDirs dir with
    | .error s => (s, .error .cannotCreateOutput)
    | .ok s =>
      let path := Path.join dir name
      match s.write path text with
      | none => (s, .error (.cannotWrite path))
      | some s => (s, .ok path)

/-- Writes files into a directory, up to the first that fails. -/
def writeAll (dir : String) : List (String × String) → Written → Written
  | [], w => w
  | (name, text) :: rest, w =>
    match w.store.writeInto dir name text with
    | (store, .error fault) => { w with store, fault := some fault }
    | (store, .ok path) => writeAll dir rest { store, paths := w.paths ++ [path] }

/-- Writes the files of a unit into a directory. -/
def writeUnit (s : FileStore) (dir : String) (u : RenderedUnit) : Written :=
  if u.headerFile = "" || u.sourceFile = "" then
    { store := s, fault := some (.unnamedUnit u.schema) }
  else writeAll dir [(u.headerFile, u.header), (u.sourceFile, u.source)] { store := s }

end FileStore

end SchemaGen
