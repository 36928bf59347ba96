import SchemaGen.CommandLine.Run

/-!
# The program

A run on the files of the machine. What the run can come across is read beforehand: the files below the
working directory, those next to the config file of the user, and those around every path that the
arguments or the environment name. The run itself is `run`, on that value, and afterwards the files
that it changed are written.
-/

set_option autoImplicit false

namespace SchemaGen.Program

open SchemaGen.Text

/-- Directories are not entered deeper than this, as one may lead back into itself. -/
def maxDepth : Nat := 32

/-- The place of a path that starts at the root. -/
def placeOf (path : String) : Place :=
  Path.cleanParts true (Path.parts path)

/-- Adds the file at a path, or all files below a directory. What cannot be read is left out. -/
def addFrom (path : String) : (depth : Nat) → FileStore → IO FileStore
  | 0, s => pure s
  | depth + 1, s => do
    let root := (← IO.currentDir) / path
    if ← root.isDir then
      let mut s := { s with dirs := placeOf path :: s.dirs }
      let listed ← try root.readDir catch _ => pure #[]
      for entry in listed do
        s ← addFrom (Path.join path entry.fileName) depth s
      return s
    else if ← root.pathExists then
      try
        let text ← IO.FS.readFile root
        return s.put (placeOf path) text
      catch _ => return s
    else return s

/-- The texts among arguments that may be paths: the arguments, and the values given with flags. -/
def mentionedPaths (args : List String) : List String :=
  args ++ args.filterMap fun arg => (Arguments.nameAndValue arg).2

/-- The variables that a run looks at. -/
def environmentSeen : IO (List (String × String)) := do
  let names := "HOME" :: defaultSettings.map fun setting => variableName setting.1
  let found ← names.mapM fun name => do
    return (← IO.getEnv name).map (name, ·)
  return found.filterMap id

/-- The files that a run can come across. -/
def snapshot (cwd home : String) (mentioned : List String) : IO FileStore := do
  let seen := mentioned.map (Path.absolute cwd)
  let outside := seen.filter fun path => !startsWith path (cwd ++ "/") && path != cwd && path != "/"
  let around ← outside.filterMapM fun (path : String) => do
    let root := (← IO.currentDir) / path
    if ← root.isDir then return some path
    else if ← root.pathExists then return some (Path.dirName path)
    else return none
  let config := Path.absolute cwd (home ++ "/.config/" ++ programName)
  let mut s : FileStore := { cwd := placeOf cwd }
  for path in config :: around ++ [cwd].filter (· != "/") do
    s ← addFrom path maxDepth s
  return s

/-- Writes the files of one value that another does not have or has otherwise. -/
def writeChanges (before after : FileStore) : IO Unit := do
  for dir in after.dirs.reverse do
    unless before.isDir dir do IO.FS.createDirAll (FileStore.pathOf dir)
  for (place, text) in after.files do
    unless before.fileAt? place == some text do IO.FS.writeFile (FileStore.pathOf place) text

end SchemaGen.Program

open SchemaGen SchemaGen.Program in
/-- Runs the program with the arguments of the command line. -/
def main (args : List String) : IO UInt32 := do
  let environment ← environmentSeen
  let cwd := toString (← IO.currentDir)
  let home := (environment.lookup "HOME").getD ""
  let before ← snapshot cwd home (mentionedPaths args ++ environment.map Prod.snd)
  let (after, outcome) := run environment args before
  writeChanges before after
  IO.print outcome.output
  if outcome.status ≠ 0 then IO.eprintln outcome.message
  return outcome.status.toUInt32
