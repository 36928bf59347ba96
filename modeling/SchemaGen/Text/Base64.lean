/-!
# Base64

Bytes written with 64 characters, four for three bytes; the last three may be fewer, and are then
filled up with equality signs. Line ends do not count. Where the bytes are to be a text they are
read as UTF-8, and every byte that does not fit stands for the replacement character.
-/

set_option autoImplicit false

namespace SchemaGen.Text.Base64

/-! ## Bytes -/

/-- The value of a character. -/
def value? (c : Char) : Option Nat :=
  if c.isUpper then some (c.toNat - 'A'.toNat)
  else if c.isLower then some (c.toNat - 'a'.toNat + 26)
  else if c.isDigit then some (c.toNat - '0'.toNat + 52)
  else if c == '+' then some 62
  else if c == '/' then some 63
  else none

/-- The bytes of characters in groups of four. Of a group that is filled up, what goes beyond its
last byte does not count. -/
def groupBytes? : List Char → Option (List Nat)
  | [] => some []
  | [a, b, '=', '='] => do
    let n := (← value? a) * 64 + (← value? b)
    some [n / 16]
  | [a, b, c, '='] => do
    let n := ((← value? a) * 64 + (← value? b)) * 64 + (← value? c)
    some [n / 1024, n / 4 % 256]
  | a :: b :: c :: d :: rest => do
    let n := (((← value? a) * 64 + (← value? b)) * 64 + (← value? c)) * 64 + (← value? d)
    let bytes ← groupBytes? rest
    some (n / 65536 :: n / 256 % 256 :: n % 256 :: bytes)
  | _ => none

/-- The bytes that a text stands for. -/
def bytes? (s : String) : Option (List Nat) :=
  groupBytes? (s.toList.filter fun c => c != '\n' && c != '\r')

/-! ## Characters -/

/-- What stands for a byte that is no part of a character. -/
def replacement : Char :=
  Char.ofNat 0xfffd

/-- What a first byte says of its character: how many bytes follow, the bits that it gives itself,
and the least character that is written with so many. -/
def leading? (byte : Nat) : Option (Nat × Nat × Nat) :=
  if byte < 0x80 then some (0, byte, 0)
  else if byte < 0xc0 then none
  else if byte < 0xe0 then some (1, byte - 0xc0, 0x80)
  else if byte < 0xf0 then some (2, byte - 0xe0, 0x800)
  else if byte < 0xf8 then some (3, byte - 0xf0, 0x10000)
  else none

/-- The character that a byte starts, with the number of bytes that follow it. -/
def character? (byte : Nat) (rest : List Nat) : Option (Char × Nat) := do
  let (count, bits, least) ← leading? byte
  let tail := rest.take count
  let n := tail.foldl (fun n b => n * 64 + (b - 0x80)) bits
  if tail.length = count ∧ tail.all (fun b => 0x80 ≤ b && b < 0xc0) ∧ least ≤ n ∧ n.isValidChar then
    some (Char.ofNat n, count)
  else none

/-- The characters of bytes; the first `skip` of these belong to a character that was read. -/
def charactersFrom : (skip : Nat) → List Nat → List Char
  | _, [] => []
  | skip + 1, _ :: rest => charactersFrom skip rest
  | 0, byte :: rest =>
    match character? byte rest with
    | some (c, count) => c :: charactersFrom count rest
    | none => replacement :: charactersFrom 0 rest

/-- The text that a text stands for. -/
def text? (s : String) : Option String :=
  (bytes? s).map fun bytes => String.ofList (charactersFrom 0 bytes)

example : text? "w6TigqzwnZ\nKg/w==" = some "ä€𝒠\ufffd" := by decide

end SchemaGen.Text.Base64
