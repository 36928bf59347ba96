import SchemaGen.Fault
import SchemaGen.Settings.Basic

/-!
# Flags

A flag has a name and takes values of one kind. Giving it again replaces its value, except that a flag
of several texts collects them.
-/

set_option autoImplicit false

namespace SchemaGen

open SchemaGen.Text

/-- What a flag takes. -/
inductive FlagKind where
  | text
  /-- Texts between commas. -/
  | texts
  | truth
  | integer
deriving Repr, DecidableEq, Inhabited

/-- A flag of a command. -/
structure Flag where
  name : String
  kind : FlagKind := .text
  /-- One letter that stands for the flag. -/
  letter : Option Char := none
  /-- The setting that the flag decides, if it is one of those that other sources have too. -/
  key : String := ""
  /-- The value of the flag when it is not given. -/
  fallback : SettingValue := .text ""
  /-- What the flag is for. -/
  purpose : String := ""
deriving Inhabited

namespace Flag

/-- How a flag is called in messages. -/
def label (f : Flag) : String :=
  match f.letter with
  | some letter => "-" ++ String.singleton letter ++ ", --" ++ f.name
  | none => "--" ++ f.name

/-- Whether a flag can be given without a value. -/
def isBare (f : Flag) : Bool :=
  f.kind == .truth

/-- The items of a value that is a list of texts. -/
def itemsOf : Option SettingValue → List SettingValue
  | some (.list items) => items
  | _ => []

/-- The value of a flag that is given with a text, after it may have been given before. -/
def read (f : Flag) (before : Option SettingValue) (text : String) :
    Except UsageProblem SettingValue :=
  let refuse (problem : ValueProblem) := .error (.badValue f.label text problem)
  match f.kind with
  | .text => .ok (.text text)
  | .truth =>
    match readTruth? text with
    | some b => .ok (.truth b)
    | none => refuse .notTruth
  | .integer =>
    match Integer.read text with
    | .ok n => .ok (.integer n)
    | .error problem => refuse (.notInteger problem)
  | .texts =>
    match if text = "" then .ok [] else CommaRow.read text with
    | .ok items => .ok (.list (itemsOf before ++ items.map .text))
    | .error problem => refuse (.notRow problem)

/-- Gives a flag a value among the flags given before. -/
def give (f : Flag) (text : String) (given : GivenFlags) : Except UsageProblem GivenFlags :=
  (f.read (given.lookup f.name) text).map fun v => (f.name, v) :: given

end Flag

/-- The flag of a name. -/
def flagNamed? (flags : List Flag) (name : String) : Option Flag :=
  flags.find? (·.name = name)

/-- Gives flags by name, in order. -/
def giveAll (flags : List Flag) :
    List (String × String) → GivenFlags → Except UsageProblem GivenFlags
  | [], given => .ok given
  | (name, text) :: rest, given =>
    match flagNamed? flags name with
    | none => .error (.noSuchFlag name)
    | some f =>
      match f.give text given with
      | .ok given => giveAll flags rest given
      | .error problem => .error problem

end SchemaGen
