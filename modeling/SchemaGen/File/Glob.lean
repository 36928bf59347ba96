import SchemaGen.Text.Words

/-!
# Glob patterns

Patterns that select files below a directory. Alternatives in braces are written out first, and what
is left is matched part by part: `*` is any run of characters of one name, `?` is one character,
brackets are a class of characters, and a part that is just `**` is any number of directories.

The parts before the first wild card are a path and are taken as one. So they must not be empty,
`.` or `..`, but for a single `.` in front; parts after it are compared with names, and an empty one
among them is no part at all.
-/

set_option autoImplicit false

namespace SchemaGen.Glob

open SchemaGen.Text

/-! ## Valid patterns -/

/-- What follows a class of characters, from its first member on; `none` if it has no end. -/
def afterClass? : List Char → Option (List Char)
  | [] => none
  | '\\' :: [] => none
  | '\\' :: _ :: rest => afterClass? rest
  | ']' :: rest => some rest
  | _ :: rest => afterClass? rest

theorem length_afterClass?_lt :
    ∀ {cs rest : List Char}, afterClass? cs = some rest → rest.length < cs.length := by
  intro cs
  induction cs using afterClass?.induct with
  | case1 => intro rest h; simp [afterClass?] at h
  | case2 => intro rest h; simp [afterClass?] at h
  | case3 c tail ih =>
    intro rest h
    have := ih (by simpa [afterClass?] using h)
    simp only [List.length_cons]
    omega
  | case4 tail =>
    intro rest h
    simp only [afterClass?, Option.some.injEq] at h
    simp [h]
  | case5 c tail h₁ h₂ h₃ ih =>
    intro rest h
    rw [afterClass?.eq_5 c tail h₁ h₂ h₃] at h
    have := ih h
    simp only [List.length_cons]
    omega

/-- The members of a class, without the mark that turns it around. -/
def classBody : List Char → List Char
  | c :: rest => if c == '^' || c == '!' then rest else c :: rest
  | [] => []

theorem length_classBody_le (cs : List Char) : (classBody cs).length ≤ cs.length := by
  unfold classBody
  split
  · split <;> simp
  · simp

/-- Whether brackets, braces and backslashes of a pattern are complete; `depth` braces are open. -/
def isValidFrom (depth : Nat) (cs : List Char) : Bool :=
  match cs with
  | [] => depth == 0
  | '\\' :: rest =>
    match rest with
    | [] => false
    | _ :: rest => isValidFrom depth rest
  | '[' :: rest =>
    if (classBody rest).head? == some ']' then false
    else match _h : afterClass? (classBody rest) with
      | none => false
      | some after => isValidFrom depth after
  | '{' :: rest => isValidFrom (depth + 1) rest
  | '}' :: rest =>
    match depth with
    | 0 => false
    | depth + 1 => isValidFrom depth rest
  | _ :: rest => isValidFrom depth rest
termination_by cs.length
decreasing_by
  all_goals simp only [List.length_cons]
  all_goals first
    | omega
    | (have h₁ := length_afterClass?_lt _h
       have h₂ := length_classBody_le rest
       omega)

/-- Whether a text is a pattern. -/
def isValid (pattern : String) : Bool :=
  isValidFrom 0 pattern.toList

/-! ## Alternatives -/

/-- The text up to the brace that closes the innermost open one, and what follows it. -/
def closeBrace : (depth : Nat) → List Char → Option (List Char × List Char)
  | _, [] => none
  | depth, '\\' :: c :: rest =>
    (closeBrace depth rest).map fun (inner, after) => ('\\' :: c :: inner, after)
  | depth, '{' :: rest =>
    (closeBrace (depth + 1) rest).map fun (inner, after) => ('{' :: inner, after)
  | 0, '}' :: rest => some ([], rest)
  | depth + 1, '}' :: rest =>
    (closeBrace depth rest).map fun (inner, after) => ('}' :: inner, after)
  | depth, c :: rest => (closeBrace depth rest).map fun (inner, after) => (c :: inner, after)

/-- The first alternatives of a pattern: what precedes them, what is between the braces, and what
follows. -/
def braces? : List Char → Option (List Char × List Char × List Char)
  | [] => none
  | '\\' :: c :: rest => (braces? rest).map fun (before, group) => ('\\' :: c :: before, group)
  | '{' :: rest => (closeBrace 0 rest).map fun (inner, after) => ([], inner, after)
  | c :: rest => (braces? rest).map fun (before, group) => (c :: before, group)

/-- The pieces between the commas that are not in braces of their own. -/
def splitChoices : (depth : Nat) → List Char → List (List Char)
  | _, [] => [[]]
  | depth, '\\' :: c :: rest =>
    match splitChoices depth rest with
    | [] => [['\\', c]]
    | piece :: more => ('\\' :: c :: piece) :: more
  | depth, c :: rest =>
    let depth' := if c == '{' then depth + 1 else if c == '}' then depth - 1 else depth
    if c == ',' && depth == 0 then [] :: splitChoices depth rest
    else match splitChoices depth' rest with
      | [] => [[c]]
      | piece :: more => (c :: piece) :: more

/-- The choices between braces; an empty one at the end is none. -/
def choices (inner : List Char) : List (List Char) :=
  let all := splitChoices 0 inner
  if all.getLast? == some [] then all.dropLast else all

/-- The patterns without braces that a pattern stands for. -/
def expand : (fuel : Nat) → List Char → List (List Char)
  | 0, cs => [cs]
  | fuel + 1, cs =>
    match braces? cs with
    | none => [cs]
    | some (before, inner, after) =>
      (choices inner).flatMap fun choice => expand fuel (before ++ choice ++ after)

/-! ## Parts -/

/-- A member of a class of characters. -/
inductive ClassItem where
  | one (c : Char)
  | range (first last : Char)
deriving Repr, DecidableEq

/-- A piece of a pattern for one name. -/
inductive Piece where
  | run
  | any
  | literal (c : Char)
  | oneOf (negated : Bool) (items : List ClassItem)
deriving Repr

/-- Reads the members of a class up to its end. -/
def classItems : (fuel : Nat) → (previous : Option Char) → List Char → List ClassItem × List Char
  | 0, _, cs => ([], cs)
  | _ + 1, _, [] => ([], [])
  | _ + 1, _, ']' :: rest => ([], rest)
  | fuel + 1, previous, c :: rest =>
    match previous, c, rest with
    | some first, '-', d :: rest' =>
      if d == ']' then
        let (items, after) := classItems fuel (some '-') rest
        (.one '-' :: items, after)
      else
        let (last, rest') := match d, rest' with
          | '\\', e :: rest'' => (e, rest'')
          | _, _ => (d, rest')
        let (items, after) := classItems fuel none rest'
        (.range first last :: items, after)
    | _, '\\', d :: rest' =>
      let (items, after) := classItems fuel (some d) rest'
      (.one d :: items, after)
    | _, _, _ =>
      let (items, after) := classItems fuel (some c) rest
      (.one c :: items, after)

/-- Reads the pieces of a part. -/
def pieces : (fuel : Nat) → List Char → List Piece
  | 0, _ => []
  | _ + 1, [] => []
  | fuel + 1, '*' :: rest => .run :: pieces fuel rest
  | fuel + 1, '?' :: rest => .any :: pieces fuel rest
  | fuel + 1, '\\' :: c :: rest => .literal c :: pieces fuel rest
  | fuel + 1, '[' :: rest =>
    let negated := rest.head? == some '^' || rest.head? == some '!'
    let (items, after) := classItems (rest.length + 1) none (classBody rest)
    .oneOf negated items :: pieces fuel after
  | fuel + 1, c :: rest => .literal c :: pieces fuel rest

/-- Whether a character is a member of a class. -/
def ClassItem.holds (c : Char) : ClassItem → Bool
  | one d => c == d
  | range first last => first ≤ c && c ≤ last

/-- Whether pieces match a whole name. -/
def matchPieces : List Piece → List Char → Bool
  | [], name => name.isEmpty
  | .run :: ps, [] => matchPieces ps []
  | .run :: ps, c :: name => matchPieces ps (c :: name) || matchPieces (.run :: ps) name
  | .any :: ps, _ :: name => matchPieces ps name
  | .literal d :: ps, c :: name => c == d && matchPieces ps name
  | .oneOf negated items :: ps, c :: name =>
    items.any (·.holds c) != negated && matchPieces ps name
  | _, [] => false
termination_by ps name => ps.length + name.length

/-- Whether a part matches a name. -/
def matchName (part name : List Char) : Bool :=
  matchPieces (pieces part.length part) name

/-- Whether a part holds a wild card. -/
def hasWildcard : List Char → Bool
  | [] => false
  | '\\' :: _ :: rest => hasWildcard rest
  | c :: rest => c == '*' || c == '?' || c == '[' || hasWildcard rest

/-- A part without its backslashes. -/
def unescape : List Char → List Char
  | [] => []
  | '\\' :: c :: rest => c :: unescape rest
  | c :: rest => c :: unescape rest

/-- The parts of a pattern, cut at slashes that no backslash precedes. -/
def cutParts : List Char → List (List Char)
  | [] => [[]]
  | '\\' :: c :: rest =>
    match cutParts rest with
    | [] => [['\\', c]]
    | part :: more => ('\\' :: c :: part) :: more
  | '/' :: rest => [] :: cutParts rest
  | c :: rest =>
    match cutParts rest with
    | [] => [[c]]
    | part :: more => (c :: part) :: more

/-! ## Matching -/

/-- Whether parts match the names that lead to a file. -/
def matchParts : List (List Char) → List (List Char) → Bool
  | [], _ => false
  | _, [] => false
  | part :: parts, name :: names =>
    if part == ['*', '*'] then
      parts.isEmpty || matchParts parts (name :: names) || matchParts (part :: parts) names
    else if part.isEmpty then matchParts parts (name :: names)
    else if parts.isEmpty then names.isEmpty && matchName part name
    else matchName part name && matchParts parts names
termination_by parts names => parts.length + names.length

/-- Whether a part may stand in a path. -/
def isPathPart (part : List Char) : Bool :=
  part != [] && part != ['.'] && part != ['.', '.']

/-- Whether a pattern without braces matches the names that lead to a file. -/
def matchesExpanded (pattern : List Char) (names : List (List Char)) : Bool :=
  let parts := cutParts pattern
  let leading := (parts.takeWhile (!hasWildcard ·)).map unescape
  if leading.length == parts.length then leading.all isPathPart && leading == names
  else if leading == [['.']] then matchParts (parts.drop 1) names
  else leading.all isPathPart && matchParts parts names

/-- Whether a pattern matches the names that lead to a file. -/
def matchesFile (pattern : String) (names : List String) : Bool :=
  let cs := pattern.toList
  (expand cs.length cs).any fun p => matchesExpanded p (names.map String.toList)

end SchemaGen.Glob
