import SchemaGen.Text.Words

/-!
# Paths

Paths as texts, their parts divided by slashes. What is done to a path here looks at its text only
and not at any files: cleaning removes parts that say nothing and lets `..` cancel the part before
it.
-/

set_option autoImplicit false

namespace SchemaGen.Path

open SchemaGen.Text

/-- The parts of a path, empty ones included. -/
def parts (path : String) : List String :=
  splitOnChar '/' path

/-- Whether a path starts at the root. -/
def isRooted (path : String) : Bool :=
  path.toList.head? == some '/'

/-! ## Cleaning -/

/-- Adds a part to the clean parts before it, of which the last comes first. Above the root there is
nothing. -/
def push (rooted : Bool) (before : List String) (part : String) : List String :=
  if part = "" || part = "." then before
  else if part = ".." then
    match before with
    | [] => if rooted then [] else [".."]
    | ".." :: _ => ".." :: before
    | _ :: rest => rest
  else part :: before

/-- The parts that are left after cleaning. -/
def cleanParts (rooted : Bool) (ps : List String) : List String :=
  (ps.foldl (push rooted) []).reverse

/-- The text of clean parts. -/
def ofParts (rooted : Bool) (ps : List String) : String :=
  let text := "/".intercalate ps
  if rooted then "/" ++ text else if text = "" then "." else text

/-- The shortest path that means the same. -/
def clean (path : String) : String :=
  ofParts (isRooted path) (cleanParts (isRooted path) (parts path))

/-- A path seen from another, cleaned. -/
def join (base path : String) : String :=
  if base = "" && path = "" then ""
  else if base = "" then clean path
  else clean (base ++ "/" ++ path)

/-- A path seen from the working directory. -/
def absolute (cwd path : String) : String :=
  if isRooted path then clean path else join cwd path

/-! ## Parts with a meaning -/

/-- The directory that a path lies in. -/
def dirName (path : String) : String :=
  clean ("/".intercalate ((parts path).dropLast ++ [""]))

/-- The last part of a path; slashes after it do not count. -/
def baseName (path : String) : String :=
  if path = "" then "."
  else match ((parts path).filter (· ≠ "")).getLast? with
    | some part => part
    | none => "/"

/-- The last dot of a path's last part, and what follows it. -/
def extension (path : String) : String :=
  let last := ((parts path).getLast?.getD "").toList
  if last.contains '.' then "." ++ String.ofList (afterLast ['.'] last) else ""

end SchemaGen.Path
