import SchemaGen.Settings.Config

/-!
# Settings

What a setting is comes from one of several sources. A flag given on the command line goes first; then
comes a variable of the environment that is not empty, then the config file, and then the value that
the flag has when it is not given.
-/

set_option autoImplicit false

namespace SchemaGen

open SchemaGen.Text

/-- The sources of settings other than flags that are given. -/
structure Settings where
  /-- Variables of the environment, by their full names. -/
  environment : List (String × String) := []
  config : Config := []
  /-- What settings are when no source has them. -/
  defaults : Config := []
deriving Inhabited

/-- Flags that were given, with their values. -/
abbrev GivenFlags := List (String × SettingValue)

/-- The environment variable of a setting. -/
def variableName (key : String) : String :=
  upper (programName ++ "_" ++ key)

namespace Settings

/-- What a config says about a setting; a dot in a name leads into a table. -/
def inConfig? (config : Config) (key : String) : Option SettingValue :=
  match config.lookup key with
  | some v => some v
  | none => (SettingValue.table config).at? (splitOnChar '.' key)

/-- The value of a setting from the first source that has one. -/
def value? (s : Settings) (key : String) : Option SettingValue :=
  let key := lower key
  match (s.environment.lookup (variableName key)).filter (· ≠ "") with
  | some text => some (.text text)
  | none =>
    ((inConfig? s.config key).filter (·.isSome)).orElse fun _ =>
      (s.defaults.lookup key).filter (·.isSome)

/-- The value of a setting; nothing if no source has one. -/
def value (s : Settings) (key : String) : SettingValue :=
  (s.value? key).getD .nothing

end Settings

/-! ## Choosing between a flag and a setting -/

/-- Whether a flag was given. -/
def isGiven (given : GivenFlags) (flag : String) : Bool :=
  (given.lookup flag).isSome

/-- Asks for a setting that a flag can decide: the value of the flag if it was given, and else what the
sources say. Without a command there are no flags, and the value stands unless it is empty. -/
def resolve {α : Type} (isEmpty : α → Bool) (convert : SettingValue → α) (s : Settings)
    (given : Option GivenFlags) (value : α) (key flag : String) : α :=
  let decided := match given with
    | none => !isEmpty value
    | some given => isGiven given flag
  if decided then value else convert (s.value key)

/-- Asks for a text. -/
def resolveText : Settings → Option GivenFlags → String → String → String → String :=
  resolve (· = "") SettingValue.asText

/-- Asks for texts. -/
def resolveTexts : Settings → Option GivenFlags → List String → String → String → List String :=
  resolve List.isEmpty SettingValue.asTexts

/-- Asks for a truth value. Without a command any value stands. -/
def resolveTruth : Settings → Option GivenFlags → Bool → String → String → Bool :=
  resolve (fun _ => false) SettingValue.asTruth

/-- Asks for a whole number. Without a command any value stands. -/
def resolveInteger : Settings → Option GivenFlags → Int → String → String → Int :=
  resolve (fun _ => false) SettingValue.asInteger

end SchemaGen
