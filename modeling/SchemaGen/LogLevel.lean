import SchemaGen.Fault

/-!
# Log levels

How much is told besides the results. A level is a number; some of them have names. The level that
stands for none cannot be chosen.
-/

set_option autoImplicit false

namespace SchemaGen

open SchemaGen.Text

/-- A level: what is below it is not told. -/
structure LogLevel where
  rank : Int
deriving Repr, DecidableEq, Inhabited

namespace LogLevel

/-- The levels that have names. -/
def named : List (String × LogLevel) :=
  [("trace", ⟨-1⟩), ("debug", ⟨0⟩), ("info", ⟨1⟩), ("warn", ⟨2⟩), ("error", ⟨3⟩), ("fatal", ⟨4⟩),
    ("panic", ⟨5⟩), ("disabled", ⟨7⟩)]

/-- The level of a run that has not chosen one. -/
def trace : LogLevel := ⟨-1⟩

/-- The level that stands for none. -/
def unset : LogLevel := ⟨6⟩

/-- The name of a level, or its number if it has none. -/
def name (l : LogLevel) : String :=
  match named.find? (·.2 = l) with
  | some (name, _) => name
  | none => Integer.text l.rank

/-- The level of a name or of a number of eight bits. -/
def ofName? (s : String) : Option LogLevel :=
  match named.lookup s with
  | some l => some l
  | none => (Integer.readDecimal? s).bind fun n =>
    if -128 ≤ n && n ≤ 127 && n ≠ unset.rank then some ⟨n⟩ else none

/-- Reads a level, without regard to case and to blanks around it. -/
def read (s : String) : Except Fault LogLevel :=
  match ofName? (lower (trim s)) with
  | some l => .ok l
  | none => .error (.unknownLogLevel s)

end LogLevel

/-- The forms in which a log can be written. -/
def logFormats : List String :=
  ["", "console", "json"]

/-- Makes sure that a log format is known. -/
def checkLogFormat (s : String) : Except Fault Unit :=
  if logFormats.contains (lower (trim s)) then .ok () else .error (.unknownLogFormat s)

end SchemaGen
