import SchemaGen.Text.CharClass

/-!
# String literals

The double-quoted form in which generated code carries a text. Printable characters stand for
themselves; a quote and a backslash are escaped by a backslash; the named control characters
have one-letter escapes; all else is written as a hexadecimal code of two, four or eight
digits, by size.
-/

set_option autoImplicit false

namespace SchemaGen.Text

/-- The lower case hexadecimal digit of a number below sixteen. -/
def hexDigit (n : Nat) : Char :=
  if n < 10 then Char.ofNat ('0'.toNat + n) else Char.ofNat ('a'.toNat + (n - 10))

/-- The last `width` hexadecimal digits of `n`. -/
def hexDigits : (width : Nat) → (n : Nat) → List Char
  | 0, _ => []
  | w + 1, n => hexDigits w (n / 16) ++ [hexDigit (n % 16)]

/-- The letter that stands for a control character after a backslash. -/
def escapeLetter? (c : Char) : Option Char :=
  match c.toNat with
  | 0x07 => some 'a'
  | 0x08 => some 'b'
  | 0x0c => some 'f'
  | 0x0a => some 'n'
  | 0x0d => some 'r'
  | 0x09 => some 't'
  | 0x0b => some 'v'
  | _ => none

/-- One character inside a literal. -/
def escapeChar (c : Char) : List Char :=
  if c == '"' || c == '\\' then ['\\', c]
  else if isPrintable c then [c]
  else match escapeLetter? c with
    | some letter => ['\\', letter]
    | none =>
      let n := c.toNat
      if n < 0x80 then '\\' :: 'x' :: hexDigits 2 n
      else if n < 0x10000 then '\\' :: 'u' :: hexDigits 4 n
      else '\\' :: 'U' :: hexDigits 8 n

/-- The literal that denotes a text. -/
def quoted (s : String) : String :=
  String.ofList ('"' :: s.toList.flatMap escapeChar ++ ['"'])

/-- A character between single quotes, of which it escapes those and not double ones. -/
def quotedChar (c : Char) : String :=
  let inner :=
    if c = '"' then [c] else if c = '\x27' then ['\\', c] else escapeChar c
  String.ofList ('\x27' :: inner ++ ['\x27'])

end SchemaGen.Text
