import SchemaGen.Text.Decimal
import SchemaGen.Text.Words

/-!
# Values of settings

A setting has a value of any kind, and is asked for as a text, as texts, as a truth value or as a whole
number. A value of another kind is converted where that makes sense; where it does not, the answer
is the empty one of the kind asked for: no text, false, zero.
-/

set_option autoImplicit false

namespace SchemaGen

open SchemaGen.Text

/-- The value of a setting. -/
inductive SettingValue where
  /-- No value, as if the setting were left out. -/
  | nothing
  | truth (value : Bool)
  | integer (value : Int)
  | number (value : Number)
  /-- A moment, as it is written out. -/
  | moment (written : String)
  | text (value : String)
  | list (items : List SettingValue)
  | table (entries : List (String × SettingValue))
deriving Repr, Inhabited

namespace SettingValue

/-- A value as a text. Lists and tables have none. -/
def text? : SettingValue → Option String
  | nothing => some ""
  | truth b => some (if b then "true" else "false")
  | integer n => some (Integer.text n)
  | number n => some n.text
  | moment s | text s => some s
  | list _ | table _ => none

/-- A value as a text. -/
def asText (v : SettingValue) : String :=
  v.text?.getD ""

/-- A value as texts. A text is cut at white space; a list must be one of values that have texts. -/
def asTexts : SettingValue → List String
  | nothing | table _ => []
  | text s => (fields isSpace s.toList).map String.ofList
  | list items => (items.mapM text?).getD []
  | v => [v.asText]

/-- A value as a truth value. -/
def asTruth : SettingValue → Bool
  | truth b => b
  | integer n => n != 0
  | number n => !n.isZero
  | text s => (readTruth? s).getD false
  | nothing | moment _ | list _ | table _ => false

/-- The whole part of a number in decimal digits; any other text is left alone. -/
def wholePart (s : String) : String :=
  let (_, cs) := Integer.signAnd s.toList
  let sign := s.toList.take (s.toList.length - cs.length)
  let whole := cs.takeWhile Char.isDigit
  let isNumber := match cs.dropWhile Char.isDigit with
    | [] => true
    | c :: rest => c == '.' && rest.all Char.isDigit
  if isNumber then String.ofList (sign ++ if whole.isEmpty then ['0'] else whole) else s

/-- A value as a whole number. -/
def asInteger : SettingValue → Int
  | truth b => if b then 1 else 0
  | integer n => n
  | number n => n.truncate
  | text s => if s = "" then 0 else (Integer.read (wholePart s)).toOption.getD 0
  | nothing | moment _ | list _ | table _ => 0

/-- A list of texts as a value. -/
def ofTexts (items : List String) : SettingValue :=
  list (items.map text)

/-- Whether a value is one. -/
def isSome : SettingValue → Bool
  | nothing => false
  | _ => true

/-- What a path leads to through nested tables. -/
def at? : List String → SettingValue → Option SettingValue
  | [], v => some v
  | name :: rest, table entries => (entries.lookup name).bind (at? rest)
  | _ :: _, _ => none

end SettingValue

end SchemaGen
