import SchemaGen.Text.CharClass

/-!
# Words of a text

Splitting and trimming. Everything here is a function on lists of characters with a thin
`String` face, since that is where induction works; the lemmas say that cutting a text never
makes it longer, which is what the readers of nested expressions end by.
-/

set_option autoImplicit false

namespace SchemaGen.Text

/-! ## Trimming -/

/-- Drops the characters of class `p` at the end. -/
def dropEndWhile (p : Char → Bool) (cs : List Char) : List Char :=
  (cs.reverse.dropWhile p).reverse

/-- Drops the characters of class `p` at both ends. -/
def stripWhile (p : Char → Bool) (cs : List Char) : List Char :=
  dropEndWhile p (cs.dropWhile p)

/-- Drops white space at both ends. -/
def trimChars (cs : List Char) : List Char :=
  stripWhile isSpace cs

/-- Drops white space at both ends. -/
def trim (s : String) : String :=
  String.ofList (trimChars s.toList)

/-- A text with nothing but white space in it. -/
def isBlankText (s : String) : Bool :=
  s.toList.all isSpace

theorem length_dropWhile_le {α : Type} (p : α → Bool) (l : List α) :
    (l.dropWhile p).length ≤ l.length :=
  (List.dropWhile_sublist p).length_le

theorem length_dropEndWhile_le (p : Char → Bool) (cs : List Char) :
    (dropEndWhile p cs).length ≤ cs.length := by
  have h := length_dropWhile_le p cs.reverse
  simpa [dropEndWhile] using h

theorem length_trimChars_le (cs : List Char) : (trimChars cs).length ≤ cs.length :=
  Nat.le_trans (length_dropEndWhile_le _ _) (length_dropWhile_le _ _)

/-! ## Splitting -/

/-- The pieces between the separators, empty pieces included: one more than there are
separators. -/
def splitAll (sep : Char → Bool) : List Char → List (List Char)
  | [] => [[]]
  | c :: cs =>
    if sep c then [] :: splitAll sep cs
    else match splitAll sep cs with
      | [] => [[c]]
      | piece :: rest => (c :: piece) :: rest

/-- The non-empty pieces between the separators. -/
def fields (sep : Char → Bool) (cs : List Char) : List (List Char) :=
  (splitAll sep cs).filter (!·.isEmpty)

/-- The pieces of a text between occurrences of one character, empty pieces included. -/
def splitOnChar (sep : Char) (s : String) : List String :=
  (splitAll (· == sep) s.toList).map String.ofList

/-- The entries of a comma separated list, trimmed, blank ones left out. -/
def commaList (s : String) : List String :=
  ((splitOnChar ',' s).map trim).filter (· ≠ "")

/-- The maximal runs of identifier characters, in order. -/
def identifiers (s : String) : List String :=
  (fields (fun c => !isIdentChar c) s.toList).map String.ofList

/-- The lines of a text, cut at line feeds; a final line feed leaves a last empty line. -/
def lines (s : String) : List String :=
  splitOnChar '\n' s

/-! ## Prefixes and suffixes -/

/-- What follows `p` in `s`, if `s` starts with it. -/
def stripStart? (p s : List Char) : Option (List Char) :=
  match p, s with
  | [], s => some s
  | _ :: _, [] => none
  | a :: p, b :: s => if a = b then stripStart? p s else none

/-- Whether `s` starts with `p`. -/
def startsWith (s p : String) : Bool :=
  (stripStart? p.toList s.toList).isSome

/-- What precedes `p` in `s`, if `s` ends with it. -/
def stripEnd? (p s : List Char) : Option (List Char) :=
  (stripStart? p.reverse s.reverse).map List.reverse

/-- Whether `s` ends with `p`. -/
def endsWith (s p : String) : Bool :=
  (stripEnd? p.toList s.toList).isSome

/-- `s` without the leading `p`, or `s` itself. -/
def dropStart (s p : String) : String :=
  ((stripStart? p.toList s.toList).map String.ofList).getD s

/-- `s` without the trailing `p`, or `s` itself. -/
def dropEnd (s p : String) : String :=
  ((stripEnd? p.toList s.toList).map String.ofList).getD s

/-- The part of `cs` before the first occurrence of `p`, or all of it. -/
def beforeFirst (p : List Char) : List Char → List Char
  | [] => []
  | c :: cs => if (stripStart? p (c :: cs)).isSome then [] else c :: beforeFirst p cs

/-- The part of `cs` after the last occurrence of `p`, or all of it. -/
def afterLast (p : List Char) (cs : List Char) : List Char :=
  (beforeFirst p.reverse cs.reverse).reverse

end SchemaGen.Text
