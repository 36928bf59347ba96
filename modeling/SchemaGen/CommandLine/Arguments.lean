import SchemaGen.CommandLine.Command

/-!
# Arguments

Reading the arguments of a run: which command they name, and which flags they give. A command is the
first argument that is neither a flag nor the value of one, and flags may stand before it. Which flags
take a value is known only of those that all commands share, so any other flag before the command is
taken to have one.

Arguments after `--` are no flags. Those that are neither flag nor command are not looked at.
-/

set_option autoImplicit false

namespace SchemaGen

open SchemaGen.Text

/-- A command with the flags that were given to it. Without a command only the program itself is
asked. -/
structure Invocation where
  command : Option Command := none
  given : GivenFlags := []
deriving Inhabited

namespace Arguments

/-! ## Similar names -/

/-- The least numbers of changes from the starts of a text to the same text, with a first character
that a change has to deal with. `above` are those without the character, and `left` and `corner` those
for the start before. -/
def editRow (c : UInt8) : (left corner : Nat) → (above : List Nat) → List UInt8 → List Nat
  | left, corner, up :: above, d :: ds =>
    let here := if c = d then corner else min (min up left) corner + 1
    here :: editRow c here up above ds
  | _, _, _, _ => []

/-- The least numbers of changes from a text to each start of another. -/
def editRows (target : List UInt8) : (row : List Nat) → List UInt8 → List Nat
  | row, [] => row
  | row, c :: cs =>
    match row with
    | [] => []
    | first :: above => editRows target ((first + 1) :: editRow c (first + 1) first above target) cs

/-- How many bytes must be put in, taken out or replaced to turn one text into another. -/
def editDistance (s t : String) : Nat :=
  let target := t.toUTF8.toList
  ((editRows target (List.range (target.length + 1)) s.toUTF8.toList).getLast?).getD 0

/-- The commands that someone may have meant by a name: those that start like it, and those that are at
most two changes away. -/
def similarTo (name : String) : List String :=
  let meant (c : Command) :=
    c != .help &&
      (editDistance (lower name) c.name ≤ 2 || startsWith c.name (lower name))
  (Command.all.filter meant).map Command.name

/-! ## The command -/

/-- Whether an argument is a flag whose value is the argument after it, as far as is known. -/
def takesNext (flags : List Flag) (arg : String) : Bool :=
  if arg.contains '=' then false
  else if startsWith arg "--" then !(flagNamed? flags (dropStart arg "--")).any Flag.isBare
  else startsWith arg "-" && arg.utf8ByteSize == 2

/-- The arguments that are neither flags nor values of flags. -/
def freeWords (flags : List Flag) : List String → List String
  | [] => []
  | arg :: rest =>
    if arg = "--" then []
    else if takesNext flags arg then
      match rest with
      | _ :: next :: rest => freeWords flags (next :: rest)
      | _ => []
    else if arg ≠ "" && !startsWith arg "-" then arg :: freeWords flags rest
    else freeWords flags rest

/-- The arguments without the first free one that is a given word. -/
def withoutWord (flags : List Flag) (word : String) : List String → List String
  | [] => []
  | arg :: rest =>
    if arg = "--" then arg :: rest
    else if takesNext flags arg then
      match rest with
      | value :: rest => arg :: value :: withoutWord flags word rest
      | [] => [arg]
    else if arg = word then rest
    else arg :: withoutWord flags word rest

/-- The command that arguments name, and the other arguments. -/
def findCommand (args : List String) : Except UsageProblem (Option Command × List String) :=
  let flags := declaredFlags none
  match freeWords flags args with
  | [] => .ok (none, args)
  | word :: _ =>
    match Command.ofName? word with
    | some c => .ok (some c, withoutWord flags word args)
    | none => .error (.unknownCommand word (similarTo word))

/-! ## The flags -/

/-- The first byte of a character, as a character. -/
def leadByte (c : Char) : Char :=
  let n := c.toNat
  if n < 0x80 then c
  else if n < 0x800 then Char.ofNat (0xc0 + n / 0x40)
  else if n < 0x10000 then Char.ofNat (0xe0 + n / 0x1000)
  else Char.ofNat (0xf0 + n / 0x40000)

/-- Gives the flags of a cluster of letters. The last of them may have a value after `=`. A cluster that
starts with `test.` is meant for someone else. -/
def giveLetters (flags : List Flag) : List Char → GivenFlags → Except UsageProblem GivenFlags
  | [], given => .ok given
  | c :: cs, given =>
    if (stripStart? "test.".toList (c :: cs)).isSome then .ok given
    else match flags.find? (·.letter = some c) with
      | none => .error (.unknownLetter (leadByte c) (String.ofList (c :: cs)))
      | some f =>
        match cs with
        | '=' :: v :: vs => f.give (String.ofList (v :: vs)) given
        | _ =>
          match f.give "true" given with
          | .ok given => giveLetters flags cs given
          | .error problem => .error problem

/-- A flag argument in two: the name of the flag, and the value that is given with it. -/
def nameAndValue (arg : String) : String × Option String :=
  let cs := (dropStart arg "--").toList
  let value := match cs.dropWhile (· != '=') with
    | [] => none
    | _ :: value => some (String.ofList value)
  (String.ofList (cs.takeWhile (· != '=')), value)

/-- The flags that arguments give, in order. -/
def giveFlags (flags : List Flag) : List String → GivenFlags → Except UsageProblem GivenFlags
  | [], given => .ok given
  | arg :: rest, given =>
    if !startsWith arg "-" || arg = "-" then giveFlags flags rest given
    else if arg = "--" then .ok given
    else if !startsWith arg "--" then
      match giveLetters flags (dropStart arg "-").toList given with
      | .ok given => giveFlags flags rest given
      | .error problem => .error problem
    else if startsWith arg "---" || startsWith arg "--=" then .error (.badSyntax arg)
    else
      let (name, value) := nameAndValue arg
      match flagNamed? flags name with
      | none => .error (.unknownFlag name)
      | some f =>
        match if f.isBare then some (value.getD "true") else value with
        | some value =>
          match f.give value given with
          | .ok given => giveFlags flags rest given
          | .error problem => .error problem
        | none =>
          match rest with
          | [] => .error (.missingArgument name)
          | value :: rest =>
            match f.give value given with
            | .ok given => giveFlags flags rest given
            | .error problem => .error problem

/-- Reads the arguments of a run. -/
def read (args : List String) : Except UsageProblem Invocation :=
  match findCommand args with
  | .error problem => .error problem
  | .ok (command, rest) =>
    (giveFlags (acceptedFlags command) rest []).map fun given => { command, given }

end Arguments

end SchemaGen
