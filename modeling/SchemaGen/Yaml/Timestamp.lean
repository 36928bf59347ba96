import SchemaGen.Text.Words

/-!
# Moments

A scalar that looks like a date, or like a date with a time of day, is taken for a moment. The year
has four digits and the other numbers one or two. After a time that is set off by a letter the zone
must be given; after one that is set off by blanks there is none.
-/

set_option autoImplicit false

namespace SchemaGen.Yaml

/-- A moment as its text gives it. -/
structure Moment where
  year : Nat
  month : Nat
  day : Nat
  hour : Nat := 0
  minute : Nat := 0
  second : Nat := 0
  /-- The digits of the fraction of the second. -/
  fraction : List Char := []
  /-- How many minutes the clock is ahead. -/
  offset : Int := 0
deriving Repr, DecidableEq, Inhabited

namespace Moment

/-! ## Reading -/

/-- The value of digits. -/
def digitsValue (cs : List Char) : Nat :=
  cs.foldl (fun n c => n * 10 + (c.toNat - '0'.toNat)) 0

/-- A number of exactly `count` digits and what follows. -/
def readFixed? (count : Nat) (cs : List Char) : Option (Nat × List Char) :=
  let digits := cs.take count
  if digits.length = count ∧ digits.all Char.isDigit then
    some (digitsValue digits, cs.drop count)
  else none

/-- A number of one digit or two and what follows. -/
def readShort? (cs : List Char) : Option (Nat × List Char) :=
  (readFixed? 2 cs).or (readFixed? 1 cs)

/-- What follows a character. -/
def after? (c : Char) : List Char → Option (List Char)
  | [] => none
  | d :: rest => if d = c then some rest else none

/-- Whether a year has a day more. -/
def isLeap (year : Nat) : Bool :=
  year % 4 = 0 ∧ (year % 100 ≠ 0 ∨ year % 400 = 0)

/-- The number of days of a month. -/
def daysIn (month year : Nat) : Nat :=
  if month = 2 then if isLeap year then 29 else 28
  else if month = 4 ∨ month = 6 ∨ month = 9 ∨ month = 11 then 30
  else 31

/-- A date and what follows. -/
def readDate? (cs : List Char) : Option (Moment × List Char) := do
  let (year, cs) ← readFixed? 4 cs
  let (month, cs) ← readShort? (← after? '-' cs)
  let (day, cs) ← readShort? (← after? '-' cs)
  if 1 ≤ month ∧ month ≤ 12 ∧ 1 ≤ day ∧ day ≤ daysIn month year then
    some ({ year, month, day }, cs)
  else none

/-- The fraction of a second, if there is one, and what follows. -/
def readFraction (cs : List Char) : List Char × List Char :=
  match cs with
  | point :: rest =>
    let digits := rest.takeWhile Char.isDigit
    if (point = '.' ∨ point = ',') ∧ digits ≠ [] then (digits, rest.dropWhile Char.isDigit)
    else ([], cs)
  | [] => ([], [])

/-- A time of day and what follows. -/
def readClock? (m : Moment) (cs : List Char) : Option (Moment × List Char) := do
  let (hour, cs) ← readShort? cs
  let (minute, cs) ← readShort? (← after? ':' cs)
  let (second, cs) ← readShort? (← after? ':' cs)
  let (fraction, cs) := readFraction cs
  if hour < 24 ∧ minute < 60 ∧ second < 60 then some ({ m with hour, minute, second, fraction }, cs)
  else none

/-- A zone up to the end. -/
def readZone? (m : Moment) : List Char → Option Moment
  | ['Z'] => some m
  | sign :: cs => do
    let (hours, cs) ← readFixed? 2 cs
    let (minutes, cs) ← readFixed? 2 (← after? ':' cs)
    let ahead : Int := hours * 60 + minutes
    if cs = [] ∧ hours ≤ 24 ∧ minutes ≤ 60 then
      if sign = '+' then some { m with offset := ahead }
      else if sign = '-' then some { m with offset := -ahead }
      else none
    else none
  | [] => none

/-- The moment that a text is. -/
def ofText? (s : String) : Option Moment := do
  let (m, cs) ← readDate? s.toList
  match cs with
  | [] => some m
  | c :: rest =>
    if c = 'T' ∨ c = 't' then
      let (m, cs) ← m.readClock? rest
      m.readZone? cs
    else if c = ' ' then
      let (m, cs) ← m.readClock? (rest.dropWhile (· = ' '))
      if cs = [] then some m else none
    else none

/-! ## Writing -/

/-- A number in at least `width` digits. -/
def padded (width n : Nat) : String :=
  let digits := toString n
  String.ofList (List.replicate (width - digits.length) '0') ++ digits

/-- The fraction of a second as it is written: at most nine digits, without zeros at the end. -/
def fractionText (m : Moment) : String :=
  match ((m.fraction.take 9).reverse.dropWhile (· = '0')).reverse with
  | [] => ""
  | digits => "." ++ String.ofList digits

/-- The zone as it is written. -/
def zoneText (m : Moment) : String :=
  if m.offset = 0 then "+0000 UTC"
  else
    let ahead := m.offset.natAbs
    let text := (if m.offset < 0 then "-" else "+") ++ padded 2 (ahead / 60) ++ padded 2 (ahead % 60)
    text ++ " " ++ text

/-- A moment as a text. -/
def text (m : Moment) : String :=
  padded 4 m.year ++ "-" ++ padded 2 m.month ++ "-" ++ padded 2 m.day ++ " " ++ padded 2 m.hour ++
    ":" ++ padded 2 m.minute ++ ":" ++ padded 2 m.second ++ m.fractionText ++ " " ++ m.zoneText

example : (ofText? "2024-2-29T1:02:3,250-07:30").map text =
    some "2024-02-29 01:02:03.25 -0730 -0730" := by
  decide

end Moment

end SchemaGen.Yaml
