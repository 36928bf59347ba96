import SchemaGen.Text.Words

/-!
# The text of a data type

The cuts that reading a data type expression makes, as functions on characters: its first
alternative, the name inside its decoration, a sub-selection, the constraint that drives a selector.
None of them knows what a name means. That is the resolver's part.
-/

set_option autoImplicit false

namespace SchemaGen.TypeExpr

open SchemaGen.Text

/-! ## Alternatives -/

/-- The opening brackets. -/
def isOpening (c : Char) : Bool :=
  c == '[' || c == '\x7b' || c == '<' || c == '('

/-- The closing brackets. -/
def isClosing (c : Char) : Bool :=
  c == ']' || c == '\x7d' || c == '>' || c == ')'

/-- The text before the first slash outside of brackets. The four kinds of bracket count as one,
so a text need not be well nested; without such a slash there is no answer. -/
def beforeSlash? (depth : Int) : List Char → Option (List Char)
  | [] => none
  | c :: cs =>
    if isOpening c then (beforeSlash? (depth + 1) cs).map (c :: ·)
    else if isClosing c then (beforeSlash? (depth - 1) cs).map (c :: ·)
    else if c == '/' && depth == 0 then some []
    else (beforeSlash? depth cs).map (c :: ·)

/-- The first of several alternatives, as in `[Numeric]/Null`; a text without alternatives is
left as it is. -/
def firstAlternative (cs : List Char) : List Char :=
  match beforeSlash? 0 cs with
  | some first => trimChars first
  | none => cs

theorem length_beforeSlash?_le {first : List Char} :
    ∀ {cs : List Char} {depth : Int}, beforeSlash? depth cs = some first →
      first.length ≤ cs.length
  | [], _, h => by cases h
  | c :: cs, depth, h => by
    unfold beforeSlash? at h
    split at h
    · obtain ⟨rest, hrest, rfl⟩ := Option.map_eq_some_iff.1 h
      simpa using length_beforeSlash?_le hrest
    · split at h
      · obtain ⟨rest, hrest, rfl⟩ := Option.map_eq_some_iff.1 h
        simpa using length_beforeSlash?_le hrest
      · split at h
        · cases h; simp
        · obtain ⟨rest, hrest, rfl⟩ := Option.map_eq_some_iff.1 h
          simpa using length_beforeSlash?_le hrest

theorem length_firstAlternative_le (cs : List Char) :
    (firstAlternative cs).length ≤ cs.length := by
  unfold firstAlternative
  split
  next first h => exact Nat.le_trans (length_trimChars_le _) (length_beforeSlash?_le h)
  · exact Nat.le_refl _

/-! ## Decorated names -/

/-- The text between an opening and a closing bracket that enclose the whole of `cs`. -/
def enclosed? (opening closing : Char) (cs : List Char) : Option (List Char) :=
  match cs with
  | [] => none
  | c :: rest =>
    if c = opening ∧ rest.getLast? = some closing then some rest.dropLast else none

theorem length_enclosed?_lt {opening closing : Char} {cs inner : List Char}
    (h : enclosed? opening closing cs = some inner) : inner.length < cs.length := by
  unfold enclosed? at h
  split at h
  · cases h
  next c rest =>
    split at h
    · cases h
      simp only [List.length_dropLast, List.length_cons]
      omega
    · cases h

/-- The name inside braces or angle brackets; an undecorated text is its own name. Decoration
does not reach over a line end. -/
def referenceName (cs : List Char) : List Char :=
  let inside opening closing := (enclosed? opening closing cs).filter (!·.contains '\n')
  match inside '\x7b' '\x7d' with
  | some inner => trimChars inner
  | none =>
    match inside '<' '>' with
    | some inner => trimChars inner
    | none => cs

/-- The characters that a plain name does not have. -/
def isReserved (c : Char) : Bool :=
  isOpening c || isClosing c || c == '/' || c == '='

/-! ## Sub-selections -/

/-- A non-empty run of word characters at the start, and what follows it. -/
def word? (cs : List Char) : Option (List Char × List Char) :=
  match cs.takeWhile isWordChar with
  | [] => none
  | c :: w => some (c :: w, cs.dropWhile isWordChar)

/-- What follows the character `c` at the start. -/
def skip? (c : Char) (cs : List Char) : Option (List Char) :=
  match cs with
  | [] => none
  | b :: rest => if b = c then some rest else none

/-- A reference with a fixed sub-selection, `name(key = value)`. -/
structure SubSelection where
  name : String
  key : String
  value : String
deriving Repr, DecidableEq

/-- Reads a sub-selection. Name, key and value are non-empty words; blanks may stand around key
and value and nowhere else. -/
def subSelection? (cs : List Char) : Option SubSelection := do
  let (name, cs) ← word? cs
  let cs ← skip? '(' cs
  let (key, cs) ← word? (cs.dropWhile isBlank)
  let cs ← skip? '=' (cs.dropWhile isBlank)
  let (value, cs) ← word? (cs.dropWhile isBlank)
  let cs ← skip? ')' (cs.dropWhile isBlank)
  if cs.isEmpty then
    some ⟨String.ofList name, String.ofList key, String.ofList value⟩
  else none

/-! ## Selectors -/

/-- Reads a constraint of the form `key(E1, E2, ...)`: the key, and the text between the first
opening and the last closing parenthesis, which is one line. -/
def selectorConstraint? (s : String) : Option (String × String) := do
  let (key, cs) ← word? (s.toList.dropWhile isBlank)
  let inner ← enclosed? '(' ')' (dropEndWhile isBlank (cs.dropWhile isBlank))
  if inner.contains '\n' then none else some (String.ofList key, String.ofList inner)

/-- The text between the parentheses of a selector type `(T1, T2, ...)`. -/
def selectorChoices? (s : String) : Option String :=
  (enclosed? '(' ')' s.toList).map String.ofList

/-- A type stripped of all decoration: its letters and digits. -/
def bareType (s : String) : String :=
  String.ofList (s.toList.filter fun c => isLetter c || isDigit c)

end SchemaGen.TypeExpr
