/-!
# Places in a document

A cursor is a place in a YAML text: what is left to read, and the line, column and index of the
next character. Columns decide nesting in YAML, so everything that reads moves a cursor and nothing
reads past it.

Lines may end in five ways. All but two of the ends stand for a line feed; the line and the
paragraph separator stand for themselves.
-/

set_option autoImplicit false

namespace SchemaGen.Yaml

/-! ## Characters -/

/-- A character that ends a line. -/
def isBreak (c : Char) : Bool :=
  c == '\n' || c == '\r' || c == '\u0085' || c == '\u2028' || c == '\u2029'

/-- A space or a tab. -/
def isGap (c : Char) : Bool :=
  c == ' ' || c == '\t'

/-- A character of a name: an ASCII letter or digit, a hyphen or an underscore. -/
def isNameChar (c : Char) : Bool :=
  c.isAlphanum || c == '-' || c == '_'

/-- The mark that may stand at the start of a text to say how it is encoded. -/
def byteOrderMark : Char := '\ufeff'

/-- The characters that a document may hold. -/
def isAdmissible (c : Char) : Bool :=
  let n := c.toNat
  n == 0x09 || n == 0x0a || n == 0x0d || (0x20 ≤ n && n ≤ 0x7e) || n == 0x85 ||
    (0xa0 ≤ n && n ≤ 0xfffd) || 0x10000 ≤ n

/-- Whether a text is at its end, or at the end of a line. -/
def atLineEnd : List Char → Bool
  | [] => true
  | c :: _ => isBreak c

/-- Whether a text is at its end, or at the end of a line or of a word. -/
def atWordEnd : List Char → Bool
  | [] => true
  | c :: _ => isGap c || isBreak c

/-- Whether a text starts with three times a character and a word end. -/
def isRuler (c : Char) : List Char → Bool
  | a :: b :: d :: rest => a == c && b == c && d == c && atWordEnd rest
  | _ => false

/-! ## Cursors -/

/-- A place in a text. -/
structure Cursor where
  rest : List Char
  line : Nat := 0
  column : Nat := 0
  /-- How many characters stand before this place. -/
  index : Nat := 0
  /-- Whether nothing but gaps stand between the last line end and this place. -/
  fresh : Bool := false
deriving Inhabited

namespace Cursor

/-- The next character. -/
def head? (c : Cursor) : Option Char :=
  c.rest.head?

/-- Whether the next character is `x`. -/
def isAt (c : Cursor) (x : Char) : Bool :=
  c.rest.head? == some x

/-- Whether the next character is a space or a tab. -/
def atGap (c : Cursor) : Bool :=
  (c.rest.head?.map isGap).getD false

/-- Whether the next character ends a line. -/
def atBreak (c : Cursor) : Bool :=
  (c.rest.head?.map isBreak).getD false

/-- Whether a document marker stands here: three hyphens or three dots at the start of a line. -/
def atMarker (c : Cursor) : Bool :=
  c.column == 0 && (isRuler '-' c.rest || isRuler '.' c.rest)

/-- Past the next character, which does not end a line. -/
def next (c : Cursor) : Cursor :=
  { c with
    rest := c.rest.tail, column := c.column + 1, index := c.index + 1
    fresh := c.fresh && c.atGap }

/-- Past several characters, none of which ends a line. -/
def skip : Nat → Cursor → Cursor
  | 0, c => c
  | n + 1, c => skip n c.next

/-- Past all next characters of a class, none of which ends a line. -/
def skipWhile (p : Char → Bool) (c : Cursor) : Cursor :=
  c.skip (c.rest.takeWhile p).length

/-- The next characters of a class, none of which ends a line, and the place after them. -/
def spanWhile (p : Char → Bool) (c : Cursor) : List Char × Cursor :=
  (c.rest.takeWhile p, c.skipWhile p)

/-- Past gaps. -/
def skipGaps (c : Cursor) : Cursor :=
  c.skipWhile isGap

/-- The characters up to the end of the line. -/
def spanLine (c : Cursor) : List Char × Cursor :=
  c.spanWhile (!isBreak ·)

/-- Past the characters up to the end of the line. -/
def skipToLineEnd (c : Cursor) : Cursor :=
  c.skipWhile (!isBreak ·)

/-- The start of the next line, given what is left there and how many characters ended this one. -/
def newLine (c : Cursor) (rest : List Char) (width : Nat) : Cursor :=
  { rest, line := c.line + 1, column := 0, index := c.index + width, fresh := true }

/-- What the end of the line stands for, and the start of the next line. Elsewhere than at the end
of a line nothing is read. -/
def takeBreak (c : Cursor) : List Char × Cursor :=
  match c.rest with
  | '\r' :: '\n' :: rest => (['\n'], c.newLine rest 2)
  | x :: rest =>
    if x == '\u2028' || x == '\u2029' then ([x], c.newLine rest 1)
    else if isBreak x then (['\n'], c.newLine rest 1)
    else ([], c)
  | [] => ([], c)

/-- Past the end of the line. -/
def skipBreak (c : Cursor) : Cursor :=
  c.takeBreak.2

end Cursor

end SchemaGen.Yaml
