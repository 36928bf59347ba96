import SchemaGen.Settings.Value

/-!
# JSON texts

Reads a JSON text as the value of a setting. Unlike a YAML text it is read to the letter: names are
quoted, nothing follows the last item of a list, and there is exactly one value. Of entries of one
name the last counts.

Every step takes at least one character, so there are never more steps than characters.
-/

set_option autoImplicit false

namespace SchemaGen.JsonText

open SchemaGen.Text

/-- Whether a character may stand between the parts of a text. -/
def isGap (c : Char) : Bool :=
  c == ' ' || c == '\t' || c == '\r' || c == '\n'

/-- A text without the gap it starts with. -/
def skipGap (cs : List Char) : List Char :=
  cs.dropWhile isGap

/-! ## Texts in quotes -/

/-- Four hexadecimal digits, and what follows them. -/
def hexQuad : List Char → Option (Nat × List Char)
  | a :: b :: c :: d :: rest => do
    let digits ← [a, b, c, d].mapM digitValue?
    some (digits.foldl (fun n digit => n * 16 + digit) 0, rest)
  | _ => none

/-- What a letter stands for after a backslash. -/
def escapes : List (Char × Char) :=
  [('"', '"'), ('\\', '\\'), ('/', '/'), ('b', '\x08'), ('f', '\x0c'), ('n', '\n'), ('r', '\r'),
    ('t', '\t')]

/-- Stands for a code that is no character. -/
def noCharacter : Char := '\ufffd'

/-- Whether a code is the first half of a character that takes two. -/
def isHighHalf (n : Nat) : Bool :=
  0xd800 ≤ n && n < 0xdc00

/-- Whether a code is the second half of a character that takes two. -/
def isLowHalf (n : Nat) : Bool :=
  0xdc00 ≤ n && n < 0xe000

/-- The character of a code, which may need the code after it as well, and what follows. -/
def codeChar (n : Nat) (rest : List Char) : Char × List Char :=
  if isHighHalf n then
    match rest with
    | '\\' :: 'u' :: more =>
      match hexQuad more with
      | some (low, after) =>
        if isLowHalf low then (Char.ofNat (0x10000 + (n - 0xd800) * 0x400 + (low - 0xdc00)), after)
        else (noCharacter, rest)
      | none => (noCharacter, rest)
    | _ => (noCharacter, rest)
  else if isLowHalf n then (noCharacter, rest)
  else (Char.ofNat n, rest)

/-- The rest of a text whose opening quote has been read, and what follows its closing quote. -/
def quotedRest : (fuel : Nat) → List Char → Option (List Char × List Char)
  | 0, _ => none
  | fuel + 1, cs =>
    let more (c : Char) (rest : List Char) :=
      (quotedRest fuel rest).map fun (text, after) => (c :: text, after)
    match cs with
    | [] => none
    | '"' :: rest => some ([], rest)
    | '\\' :: 'u' :: rest => (hexQuad rest).bind fun (n, rest) =>
      let (c, rest) := codeChar n rest
      more c rest
    | '\\' :: letter :: rest => (escapes.lookup letter).bind (more · rest)
    | c :: rest => if c.toNat < 0x20 then none else more c rest

/-! ## Numbers -/

/-- A number, and what follows it: digits without a needless zero in front, then perhaps a point with
digits, then perhaps a power of ten. -/
def number? (cs : List Char) : Option (Number × List Char) := do
  let digits (cs : List Char) : Option (List Char) :=
    if (cs.takeWhile Char.isDigit).isEmpty then none else some (cs.dropWhile Char.isDigit)
  let unsigned := match cs with
    | '-' :: rest => rest
    | _ => cs
  let rest ← match unsigned with
    | '0' :: rest => some rest
    | _ => digits unsigned
  let rest ← match rest with
    | '.' :: rest => digits rest
    | _ => some rest
  let rest ← match rest with
    | c :: more =>
      if c == 'e' || c == 'E' then
        digits (match more with
          | d :: after => if d == '+' || d == '-' then after else more
          | [] => more)
      else some rest
    | [] => some rest
  let kept ← (Decimal.ofText (String.ofList (cs.take (cs.length - rest.length)))).kept?
  some (.finite kept, rest)

/-! ## Values -/

/-- The words that stand for values. -/
def words : List (List Char × SettingValue) :=
  [("true".toList, .truth true), ("false".toList, .truth false), ("null".toList, .nothing)]

mutual

/-- A value at the start of a text, and what follows it. -/
def value (fuel : Nat) (cs : List Char) : Option (SettingValue × List Char) :=
  match fuel with
  | 0 => none
  | fuel + 1 =>
    match skipGap cs with
    | '"' :: rest =>
      (quotedRest (rest.length + 1) rest).map fun (text, after) => (.text (String.ofList text), after)
    | '[' :: rest =>
      match skipGap rest with
      | ']' :: after => some (.list [], after)
      | rest => (items fuel rest).map fun (items, after) => (.list items, after)
    | '\x7b' :: rest =>
      match skipGap rest with
      | '\x7d' :: after => some (.table [], after)
      | rest => (entries fuel rest).map fun (entries, after) => (.table entries, after)
    | cs =>
      match words.findSome? fun (word, v) => (stripStart? word cs).map (v, ·) with
      | some found => some found
      | none => (number? cs).map fun (n, after) => (.number n, after)

/-- The items of a list up to its end, and what follows it. -/
def items (fuel : Nat) (cs : List Char) : Option (List SettingValue × List Char) :=
  match fuel with
  | 0 => none
  | fuel + 1 => do
    let (v, rest) ← value fuel cs
    match skipGap rest with
    | ',' :: rest =>
      let (vs, after) ← items fuel rest
      some (v :: vs, after)
    | ']' :: after => some ([v], after)
    | _ => none

/-- The entries of a table up to its end, last first, and what follows it. -/
def entries (fuel : Nat) (cs : List Char) : Option (List (String × SettingValue) × List Char) :=
  match fuel with
  | 0 => none
  | fuel + 1 =>
    match skipGap cs with
    | '"' :: rest => do
      let (name, rest) ← quotedRest (rest.length + 1) rest
      match skipGap rest with
      | ':' :: rest =>
        let (v, rest) ← value fuel rest
        let entry := (String.ofList name, v)
        match skipGap rest with
        | ',' :: rest =>
          let (others, after) ← entries fuel rest
          some (others ++ [entry], after)
        | '\x7d' :: after => some ([entry], after)
        | _ => none
      | _ => none
    | _ => none

end

/-- The value of a whole text. -/
def parse (text : String) : Option SettingValue :=
  match value (2 * text.length + 2) text.toList with
  | some (v, rest) => if (skipGap rest).isEmpty then some v else none
  | none => none

end SchemaGen.JsonText
