import SchemaGen.Text.Letters
import SchemaGen.Text.Printables
import SchemaGen.Text.Cases

/-!
# Character classes

The classes of characters that naming, word splitting and quoting ask about. Each is decided
directly on ASCII and by a table of runs above it. Three narrower classes that know ASCII only
stand beside them, because type expressions are written with those: `isWordChar` (the
characters of a key or of an enumerator) and `isBlank` (the blanks allowed around them).
-/

set_option autoImplicit false

namespace SchemaGen.Text

/-- A letter of any script. -/
def isLetter (c : Char) : Bool :=
  if c.toNat < 0x80 then c.isAlpha else inRuns letterRuns c.toNat

/-- A decimal digit of any script. -/
def isDigit (c : Char) : Bool :=
  if c.toNat < 0x80 then c.isDigit else inRuns digitRuns c.toNat

/-- An upper case letter of any script. -/
def isUpper (c : Char) : Bool :=
  if c.toNat < 0x80 then c.isUpper else inRuns upperRuns c.toNat

/-- A lower case letter of any script. -/
def isLower (c : Char) : Bool :=
  if c.toNat < 0x80 then c.isLower else inRuns lowerRuns c.toNat

/-- White space of any script, line ends and the no-break spaces included. -/
def isSpace (c : Char) : Bool :=
  let n := c.toNat
  n == 0x20 || (0x09 ≤ n && n ≤ 0x0d) || n == 0x85 || n == 0xa0 || n == 0x1680 ||
    (0x2000 ≤ n && n ≤ 0x200a) || n == 0x2028 || n == 0x2029 || n == 0x202f ||
    n == 0x205f || n == 0x3000

/-- A character that a literal shows as itself: of all white space only the ASCII space. -/
def isPrintable (c : Char) : Bool :=
  let n := c.toNat
  if n < 0x80 then 0x20 ≤ n && n < 0x7f else inRuns printableRuns n

/-- A character of an identifier: a letter, a digit or an underscore. -/
def isIdentChar (c : Char) : Bool :=
  isLetter c || isDigit c || c == '_'

/-- An ASCII letter, an ASCII digit or an underscore. -/
def isWordChar (c : Char) : Bool :=
  c.isAlphanum || c == '_'

/-- A tab, line feed, form feed, carriage return or space; not the vertical tab. -/
def isBlank (c : Char) : Bool :=
  c == ' ' || c == '\t' || c == '\n' || c == '\r' || c == '\x0c'

/-- The upper case partner of a character, or the character itself. -/
def toUpper (c : Char) : Char :=
  if c.toNat < 0x80 then c.toUpper else Char.ofNat (mapRuns toUpperRuns c.toNat)

/-- The lower case partner of a character, or the character itself. -/
def toLower (c : Char) : Char :=
  if c.toNat < 0x80 then c.toLower else Char.ofNat (mapRuns toLowerRuns c.toNat)

/-- A text in upper case, character by character. -/
def upper (s : String) : String :=
  String.ofList (s.toList.map toUpper)

/-- A text in lower case, character by character. -/
def lower (s : String) : String :=
  String.ofList (s.toList.map toLower)

end SchemaGen.Text
