import SchemaGen.Text.Integer

/-!
# Decimal numbers

A decimal number is kept as the nearest number that 64 bits can hold: a whole number of at most 53
binary digits, times a power of two. What is written of it are the fewest decimal digits that are read
back as the same number, without a power of ten.

All of it is done with whole numbers: a fraction is a pair of them.
-/

set_option autoImplicit false

namespace SchemaGen.Text

/-- A number that is a whole number times a power of ten. -/
structure Decimal where
  negative : Bool := false
  digits : Nat
  power : Int := 0
deriving Repr, DecidableEq, Inhabited

/-- A number that is a whole number times a power of two. -/
structure Binary where
  mantissa : Nat
  power : Int
deriving Repr, DecidableEq, Inhabited

namespace Binary

/-- The number of binary digits that are kept. -/
def precision : Nat := 53

/-- The least power that is kept. -/
def leastPower : Int := -1074

/-- The greatest power that is kept. -/
def greatestPower : Int := 971

/-- The nearest whole number to a fraction; a half goes to the even neighbour. -/
def roundDiv (num den : Nat) : Nat :=
  let whole := num / den
  let twice := 2 * (num % den)
  if twice < den then whole else if den < twice then whole + 1 else whole + whole % 2

/-- A fraction divided by a power of two. -/
def scaled (num den : Nat) (power : Int) : Nat × Nat :=
  (num * Nat.pow 2 (-power).toNat, den * Nat.pow 2 power.toNat)

/-- The nearest number to a fraction, unless it is too large to be kept. -/
def nearest? (num den : Nat) : Option Binary :=
  if num = 0 then some ⟨0, leastPower⟩
  else
    let guess : Int := max leastPower ((num.log2 : Int) - den.log2 - precision)
    let (n, d) := scaled num den guess
    let power := if n / d < Nat.pow 2 precision then guess else guess + 1
    let (n, d) := scaled num den power
    let mantissa := roundDiv n d
    let b : Binary :=
      if mantissa = Nat.pow 2 precision then ⟨Nat.pow 2 (precision - 1), power + 1⟩
      else ⟨mantissa, power⟩
    if greatestPower < b.power then none else some b

/-- The number as a fraction. -/
def fraction (b : Binary) : Nat × Nat :=
  (b.mantissa * Nat.pow 2 b.power.toNat, Nat.pow 2 (-b.power).toNat)

end Binary

namespace Decimal

/-- How many digits stand before the point, or minus how many zeros stand after it. -/
def magnitude (d : Decimal) : Int :=
  d.digits.repr.length + d.power

/-- The nearest number that can be kept, without the sign. -/
def binary? (d : Decimal) : Option Binary :=
  -- what is far out of range need not be multiplied out
  if d.digits = 0 || d.magnitude < -400 then some ⟨0, Binary.leastPower⟩
  else if 400 < d.magnitude then none
  else Binary.nearest? (d.digits * Nat.pow 10 d.power.toNat) (Nat.pow 10 (-d.power).toNat)

/-- The two neighbours of a number among the multiples of a power of ten, nearer one first. -/
def neighbours (b : Binary) (power : Int) : List Decimal :=
  let (num, den) := b.fraction
  let n := num * Nat.pow 10 (-power).toNat
  let d := den * Nat.pow 10 power.toNat
  let low : Decimal := ⟨false, n / d, power⟩
  let high : Decimal := ⟨false, n / d + 1, power⟩
  if 2 * (n % d) ≤ d then [low, high] else [high, low]

/-- The shortest decimal number that is read back as a number: the first that is on a grid of powers
of ten that gets finer. -/
def shortest (b : Binary) : Decimal :=
  let (num, den) := b.fraction
  let top : Int := if den ≤ num then (num / den).repr.length else 1 - (den / num).repr.length
  let grids := (List.range 20).map fun (k : Nat) => top - (k : Int)
  let found := grids.findSome? fun power =>
    (neighbours b power).find? fun d => d.digits != 0 && d.binary? = some b
  found.getD ⟨false, 0, 0⟩

/-- The decimal number that is kept for a decimal number, unless it is too large. -/
def kept? (d : Decimal) : Option Decimal :=
  d.binary?.map fun b =>
    if b.mantissa = 0 then ⟨d.negative, 0, 0⟩ else { shortest b with negative := d.negative }

/-- The digits of a number, with a point among them if it is not whole. -/
def text (d : Decimal) : String :=
  let places := (-d.power).toNat
  let all := d.digits.repr.toList
  let digits := List.replicate (places + 1 - all.length) '0' ++ all
    ++ (if d.digits = 0 then [] else List.replicate d.power.toNat '0')
  let whole := digits.take (digits.length - places)
  let rest := digits.drop (digits.length - places)
  String.ofList
    ((if d.negative then ['-'] else []) ++ whole ++ (if rest.isEmpty then [] else '.' :: rest))

/-- The whole part of a number. -/
def truncate (d : Decimal) : Int :=
  let n := d.digits * Nat.pow 10 d.power.toNat / Nat.pow 10 (-d.power).toNat
  if d.negative then -(n : Int) else n

/-- Reads a number in decimal digits: a sign, digits with a point among them, a power of ten. -/
def ofText (s : String) : Decimal :=
  let (negative, cs) := Integer.signAnd s.toList
  let isMark (c : Char) := c == 'e' || c == 'E'
  let mantissa := cs.takeWhile (!isMark ·)
  let power := ((Integer.readDecimal? (String.ofList ((cs.dropWhile (!isMark ·)).drop 1))).getD 0)
  let places := (mantissa.dropWhile (· != '.')).drop 1
  ⟨negative, digitsValue (mantissa.filter (· != '.')), power - places.length⟩

end Decimal

/-- A number that need not be whole, or what 64 bits can hold instead of one. -/
inductive Number where
  | finite (value : Decimal)
  | infinite (negative : Bool)
  | undefined
deriving Repr, DecidableEq, Inhabited

namespace Number

/-- How a number is written. -/
def text : Number → String
  | finite d => d.text
  | infinite negative => if negative then "-Inf" else "+Inf"
  | undefined => "NaN"

/-- Whether a number is zero. -/
def isZero : Number → Bool
  | finite d => d.digits == 0
  | _ => false

/-- The whole part of a number. -/
def truncate : Number → Int
  | finite d => d.truncate
  | _ => 0

end Number

end SchemaGen.Text
