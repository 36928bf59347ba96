import SchemaGen.Text.Base64
import SchemaGen.Text.Decimal
import SchemaGen.Text.Pattern
import SchemaGen.Text.Words
import SchemaGen.Yaml.Timestamp

/-!
# Tags

What a scalar is taken for. A plain scalar means what its text looks like: nothing, a truth value,
a moment, a whole number, a decimal number, or else text. A tag in the document overrides that, and
must then go with the text.
-/

set_option autoImplicit false

namespace SchemaGen.Yaml

open SchemaGen.Text

/-- What a scalar is taken for. -/
inductive Tag where
  | null
  | bool
  | int
  | float
  | timestamp
  | text
  /-- Bytes in base64. -/
  | binary
  /-- The key that takes over the entries of another mapping. -/
  | merge
  | other (name : String)
deriving Repr, DecidableEq, Inhabited

/-! ## Texts that look like values -/

/-- The spellings of nothing. -/
def nullWords : List String :=
  ["", "~", "null", "Null", "NULL"]

/-- The spellings of the truth values. -/
def boolWords : List (String × Bool) :=
  [("true", true), ("True", true), ("TRUE", true),
    ("false", false), ("False", false), ("FALSE", false)]

/-- The spellings of the numbers that have no digits. -/
def specialNumbers : List (String × Number) :=
  let spell (words : List String) (n : Number) := words.map (·, n)
  spell [".nan", ".NaN", ".NAN"] .undefined
    ++ spell [".inf", ".Inf", ".INF", "+.inf", "+.Inf", "+.INF"] (.infinite false)
    ++ spell ["-.inf", "-.Inf", "-.INF"] (.infinite true)

/-- The value of one or more digits of a base. -/
def readDigits (base : Nat) (cs : List Char) : Option Nat :=
  if cs.isEmpty then none
  else cs.foldl (fun value c => do
    let n ← value
    let d ← digitValue? c
    if d < base then some (n * base + d) else none) (some 0)

/-- Reads a whole number without sign: a leading zero says the base, alone for eight, or with a
letter after it. -/
def readUnsigned (cs : List Char) : Option Nat :=
  match cs with
  | '0' :: x :: rest =>
    if x == 'x' || x == 'X' then readDigits 16 rest
    else if x == 'o' || x == 'O' then readDigits 8 rest
    else if x == 'b' || x == 'B' then readDigits 2 rest
    else readDigits 8 (x :: rest)
  | _ => readDigits 10 cs

/-- Reads a whole number of 64 bits, with a sign or without; underscores between its characters do
not count. -/
def readInteger? (s : String) : Option Int :=
  match s.toList.filter (· != '_') with
  | '-' :: cs => (readUnsigned cs).bind fun n =>
    if n ≤ Integer.signedBound then some (-(n : Int)) else none
  | '+' :: cs => (readUnsigned cs).bind fun n =>
    if n < Integer.signedBound then some (n : Int) else none
  | cs => (readUnsigned cs).bind fun n =>
    if n < Integer.unsignedBound then some (n : Int) else none

/-- Whether a text starts like a number: with a digit, or with a sign. -/
def startsNumber (s : String) : Bool :=
  match s.toList with
  | c :: _ => c.isDigit || c == '+' || c == '-'
  | [] => false

/-- Decimal digits, one or more. -/
def digitRow : Pattern :=
  .many1 (.one Char.isDigit)

/-- A power of ten after a decimal number. -/
def exponentPart : Pattern :=
  .opt (.inRow [.one fun c => c == 'e' || c == 'E', .opt (.one fun c => c == '+' || c == '-'),
    digitRow])

/-- A decimal number that starts with its point. -/
def pointNumber : Pattern :=
  .inRow [.literal ".", digitRow, exponentPart]

/-- A decimal number. -/
def decimalNumber : Pattern :=
  .inRow
    [.opt (.one fun c => c == '+' || c == '-'),
      .alt (.seq (.literal ".") digitRow)
        (.seq digitRow (.opt (.seq (.literal ".") (.many (.one Char.isDigit))))),
      exponentPart]

/-- Whether a pattern matches a whole text. -/
def matchesWhole (p : Pattern) (cs : List Char) : Bool :=
  (p.ends cs).any (·.isEmpty)

/-- Whether a text is a decimal number; underscores between its characters do not count unless it
starts with its point. -/
def isDecimal (s : String) : Bool :=
  (specialNumbers.lookup s).isSome || matchesWhole pointNumber s.toList ||
    (startsNumber s && matchesWhole decimalNumber (s.toList.filter (· != '_')))

/-! ## Tags of scalars -/

namespace Tag

/-- What a plain scalar without a tag is taken for. -/
def ofPlain (s : String) : Tag :=
  if s == "<<" then merge
  else if nullWords.contains s then null
  else if (boolWords.lookup s).isSome then bool
  else if (Moment.ofText? s).isSome then timestamp
  else if startsNumber s && (readInteger? s).isSome then int
  else if isDecimal s then float
  else text

/-- How the names of the tags of the format itself start when they are written out. -/
def coreStart : String := "tag:yaml.org,2002:"

/-- The tag of a name, written out or not. -/
def ofName (name : String) : Tag :=
  let short := match stripStart? coreStart.toList name.toList with
    | some rest => "!!" ++ String.ofList rest
    | none => name
  match short with
  | "!!null" => null
  | "!!bool" => bool
  | "!!int" => int
  | "!!float" => float
  | "!!timestamp" => timestamp
  | "!!str" => text
  | "!!binary" => binary
  | "!!merge" => merge
  | _ => other short

/-- Whether a tag goes with a text: that of a value asks for a text that looks like one. A tag that
is not known goes with any text. -/
def accepts (t : Tag) (s : String) : Bool :=
  match t with
  | null | bool | int | timestamp => ofPlain s == t
  | float => ofPlain s == float || ofPlain s == int
  | binary => (Base64.bytes? s).isSome
  | text | merge | other _ => true

end Tag

end SchemaGen.Yaml
