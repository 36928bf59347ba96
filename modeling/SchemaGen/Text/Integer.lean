import SchemaGen.Text.CharClass

/-!
# Whole numbers

Whole numbers of 64 bits as people write them: with a sign or without, in a base that a leading zero
announces, and with underscores between digits. A number is read from left to right, so of two things
wrong with a text the first counts.
-/

set_option autoImplicit false

namespace SchemaGen.Text

/-- Why a text is no whole number. -/
inductive NumberProblem where
  | malformed
  | outOfRange
deriving Repr, DecidableEq, Inhabited

/-- The value of a digit of any base up to sixteen. -/
def digitValue? (c : Char) : Option Nat :=
  if c.isDigit then some (c.toNat - '0'.toNat)
  else if 'a' ≤ c && c ≤ 'f' then some (c.toNat - 'a'.toNat + 10)
  else if 'A' ≤ c && c ≤ 'F' then some (c.toNat - 'A'.toNat + 10)
  else none

/-- The value of decimal digits. -/
def digitsValue (ds : List Char) : Nat :=
  ds.foldl (fun n d => 10 * n + (d.toNat - '0'.toNat)) 0

namespace Integer

/-- Numbers without sign of 64 bits are below this. -/
def unsignedBound : Nat := 18446744073709551616

/-- Numbers of 64 bits are below this, and not below its opposite. -/
def signedBound : Nat := 9223372036854775808

/-- The number of digits that follow others worth `n`. Underscores do not count. -/
def digitsAfter (base : Nat) : (n : Nat) → List Char → Except NumberProblem Nat
  | n, [] => .ok n
  | n, c :: cs =>
    if c = '_' then digitsAfter base n cs
    else match digitValue? c with
      | none => .error .malformed
      | some d =>
        if base ≤ d then .error .malformed
        else if unsignedBound ≤ n * base + d then .error .outOfRange
        else digitsAfter base (n * base + d) cs

/-- Whether every underscore stands between two digits. What announces a base counts as a digit. -/
def separated : (afterDigit : Bool) → List Char → Bool
  | _, [] => true
  | afterDigit, c :: cs =>
    if c = '_' then afterDigit && cs.head?.any (· != '_') && separated false cs
    else separated true cs

/-- The base of a number, and what is left of it when the base has been announced. A zero alone
announces eight. -/
def baseAnd : List Char → Nat × List Char
  | '0' :: x :: y :: rest =>
    if x = 'b' || x = 'B' then (2, y :: rest)
    else if x = 'o' || x = 'O' then (8, y :: rest)
    else if x = 'x' || x = 'X' then (16, y :: rest)
    else (8, x :: y :: rest)
  | '0' :: rest => (8, rest)
  | cs => (10, cs)

/-- Reads a number without sign. -/
def readUnsigned (cs : List Char) : Except NumberProblem Nat :=
  if cs.isEmpty then .error .malformed
  else
    let (base, digits) := baseAnd cs
    match digitsAfter base 0 digits with
    | .error problem => .error problem
    | .ok n => if separated (base != 10) digits then .ok n else .error .malformed

/-- Takes the sign off a number: whether it is negative, and the rest. -/
def signAnd : List Char → Bool × List Char
  | '-' :: cs => (true, cs)
  | '+' :: cs => (false, cs)
  | cs => (false, cs)

/-- Reads a number. -/
def read (s : String) : Except NumberProblem Int :=
  let (negative, cs) := signAnd s.toList
  match readUnsigned cs with
  | .error problem => .error problem
  | .ok n =>
    if negative then (if n ≤ signedBound then .ok (-(n : Int)) else .error .outOfRange)
    else if n < signedBound then .ok n else .error .outOfRange

/-- Reads a number that is written with decimal digits only. -/
def readDecimal? (s : String) : Option Int :=
  let (negative, cs) := signAnd s.toList
  if cs.isEmpty || !cs.all Char.isDigit then none
  else some (if negative then -(digitsValue cs : Int) else digitsValue cs)

/-- The decimal digits of a number, after a sign if it is negative. -/
def text : Int → String
  | .ofNat n => n.repr
  | .negSucc n => "-" ++ (n + 1).repr

end Integer

/-- The spellings of the truth values where they are typed in. -/
def truthWords : List (String × Bool) :=
  [("1", true), ("t", true), ("T", true), ("true", true), ("TRUE", true), ("True", true),
    ("0", false), ("f", false), ("F", false), ("false", false), ("FALSE", false), ("False", false)]

/-- Reads a truth value. -/
def readTruth? (s : String) : Option Bool :=
  truthWords.lookup s

end SchemaGen.Text
