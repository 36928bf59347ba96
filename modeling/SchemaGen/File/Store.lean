import SchemaGen.File.Path

/-!
# Files and directories

The files that a run can see, as a value. A place is the list of names that lead to it from the
root. A directory need not be listed if something lies below it.

A path is followed name by name: what it passes through must be a directory at that moment, and so
`x/..` leads nowhere if there is no `x`.

There are no permissions here, and a file is written whole or not at all. So a file can be written
exactly if its directory is there and it is no directory itself: that a system refuses more than
this, or stops in the middle of a text, is not described.
-/

set_option autoImplicit false

namespace SchemaGen

/-- The names that lead to a file or directory. -/
abbrev Place := List String

/-- Files and directories. -/
structure FileStore where
  /-- The texts of the files, by place. -/
  files : List (Place × String) := []
  /-- Directories that may be empty. -/
  dirs : List Place := []
  /-- The working directory. -/
  cwd : Place := []
deriving Repr, Inhabited

namespace FileStore

/-! ## Places -/

/-- The text of a file. -/
def fileAt? (s : FileStore) (p : Place) : Option String :=
  s.files.lookup p

/-- Whether a place is a directory. -/
def isDir (s : FileStore) (p : Place) : Bool :=
  p.isEmpty || p.isPrefixOf s.cwd || s.dirs.any (p.isPrefixOf ·) ||
    s.files.any fun f => p.isPrefixOf f.1 && p ≠ f.1

/-- The path of a place. -/
def pathOf (p : Place) : String :=
  Path.ofParts true p

/-- Follows names from a place that has to be a directory whenever there are more to follow. -/
def follow (s : FileStore) : (here : Place) → List String → Option Place
  | here, [] => some here
  | here, name :: rest =>
    if !s.isDir here then none
    else if name = "" || name = "." then s.follow here rest
    else if name = ".." then s.follow here.dropLast rest
    else s.follow (here ++ [name]) rest

/-- Where a path starts. -/
def start (s : FileStore) (path : String) : Place :=
  if Path.isRooted path then [] else s.cwd

/-- The place that a path leads to, whether or not anything is there. The empty path leads
nowhere. -/
def locate (s : FileStore) (path : String) : Option Place :=
  if path = "" then none else s.follow (s.start path) (Path.parts path)

/-! ## Asking -/

/-- The text of the file at a path. -/
def read (s : FileStore) (path : String) : Option String :=
  (s.locate path).bind s.fileAt?

/-- Whether a path leads to a file. -/
def isFile (s : FileStore) (path : String) : Bool :=
  (s.read path).isSome

/-- Whether a path leads to a directory. -/
def isDirectory (s : FileStore) (path : String) : Bool :=
  ((s.locate path).map s.isDir).getD false

/-- The path of the working directory. -/
def cwdPath (s : FileStore) : String :=
  pathOf s.cwd

/-- A path seen from the root. -/
def absolute (s : FileStore) (path : String) : String :=
  Path.absolute s.cwdPath path

/-- The names that lead from one place to another below it. -/
def below? (dir place : Place) : Option (List String) :=
  if dir.isPrefixOf place then some (place.drop dir.length) else none

/-- The files below a directory, by the names that lead to them from there. -/
def filesBelow (s : FileStore) (dir : Place) : List (List String) :=
  s.files.filterMap fun f => below? dir f.1

/-! ## Changing -/

/-- Puts a text at a place, in the stead of what the file there held. -/
def put (s : FileStore) (p : Place) (text : String) : FileStore :=
  { s with files := (p, text) :: s.files.filter (·.1 ≠ p) }

/-- Writes a file. Its directory has to be there, and it must not be a directory itself. -/
def write (s : FileStore) (path text : String) : Option FileStore :=
  (s.locate path).bind fun p => if s.isDir p then none else some (s.put p text)

/-- Follows names and makes the directories that are missing. A file in the way is not passed: the
error holds what there is then, with the directories made before. -/
def makeAlong (s : FileStore) : (here : Place) → List String → Except FileStore FileStore
  | _, [] => .ok s
  | here, name :: rest =>
    if name = "" || name = "." then s.makeAlong here rest
    else if name = ".." then s.makeAlong here.dropLast rest
    else
      let next := here ++ [name]
      if s.isDir next then s.makeAlong next rest
      else if (s.fileAt? next).isSome then .error s
      else { s with dirs := next :: s.dirs }.makeAlong next rest

/-- Makes a directory and those above it that are missing. -/
def makeDirs (s : FileStore) (path : String) : Except FileStore FileStore :=
  if path = "" then .error s else s.makeAlong (s.start path) (Path.parts path)

/-! ## Small lemmas -/

theorem fileAt?_put_self (s : FileStore) (p : Place) (text : String) :
    (s.put p text).fileAt? p = some text := by
  simp [put, fileAt?]

theorem lookup_filter_ne {p q : Place} (h : q ≠ p) :
    ∀ files : List (Place × String),
      (files.filter (·.1 ≠ p)).lookup q = files.lookup q
  | [] => rfl
  | (r, text) :: rest => by
    have ih := lookup_filter_ne h rest
    by_cases hr : r = p
    · subst hr
      have hq : (q == r) = false := by simpa using h
      rw [List.filter_cons_of_neg (by simp), List.lookup_cons, hq]
      exact ih
    · rw [List.filter_cons_of_pos (by simp [hr]), List.lookup_cons, List.lookup_cons, ih]

theorem fileAt?_put_of_ne {p q : Place} (h : q ≠ p) (s : FileStore) (text : String) :
    (s.put p text).fileAt? q = s.fileAt? q := by
  have hq : (q == p) = false := by simp [h]
  simp only [put, fileAt?, List.lookup_cons, hq]
  exact lookup_filter_ne h s.files

end FileStore

end SchemaGen
