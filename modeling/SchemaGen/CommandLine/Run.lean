import SchemaGen.CommandLine.Arguments
import SchemaGen.LogLevel
import SchemaGen.Plugin.Builtin
import SchemaGen.References

/-!
# Runs

One run of the program: its arguments are read, then the config file, then the log is set up, and only
then the command does its work. The first of these that fails ends the run. A run changes files and
ends with a status, a text for its reader and, if it failed, a message.
-/

set_option autoImplicit false

namespace SchemaGen

/-- How a run ended. -/
structure Outcome where
  status : Nat := 0
  message : String := ""
  /-- What was printed. -/
  output : String := ""
  /-- The log level when the run ended. -/
  level : LogLevel := .trace
deriving Repr, DecidableEq, Inhabited

/-- The end of a run that failed. -/
def Outcome.ofFault (level : LogLevel) (f : Fault) : Outcome :=
  { status := f.exitStatus, message := f.message, level }

/-! ## What is printed -/

/-- The version of the program. -/
def versionText : String :=
  programName ++ " version dev\n"

/-- A line that explains a flag. -/
def flagLine (f : Flag) : String :=
  "  " ++ f.label ++ "\t" ++ f.purpose ++ "\n"

/-- Explains the program, or one of its commands. -/
def helpText : Option Command → String
  | none =>
    "Usage:\n  " ++ programName ++ " [command]\n\nCommands:\n"
      ++ String.join (Command.all.map fun c => "  " ++ c.name ++ "\t" ++ c.purpose ++ "\n")
      ++ "\nFlags:\n" ++ String.join ((acceptedFlags none).map flagLine)
  | some c =>
    c.purpose ++ "\n\nUsage:\n  " ++ programName ++ " " ++ c.name ++ " [flags]\n\nFlags:\n"
      ++ String.join ((acceptedFlags (some c)).map flagLine)

/-- A line for each schema that was compiled. -/
def Generated.text (g : Generated) : String :=
  String.join (g.units.map fun u =>
    "generated " ++ u.schema ++ ": " ++ ", ".intercalate u.files ++ "\n")

/-- A line for the schema, one for each origin, and one for each name. -/
def References.text (r : References) : String :=
  "schema: " ++ r.schema ++ "\n"
    ++ String.join (r.origins.map fun origin => "origin: " ++ origin ++ "\n")
    ++ String.join (r.entries.map fun (name, origin) => "  " ++ name ++ "\t" ++ origin ++ "\n")

/-- A line for each plugin. -/
def Registry.text (r : Registry) : String :=
  if r.listing.isEmpty then "no plugins registered\n"
  else String.join (r.listing.map fun (role, name) => role.name ++ "\t" ++ name ++ "\n")

/-! ## Settings of a run -/

/-- The value of a flag of a command, given or not. -/
def Invocation.flagValue (i : Invocation) (flag : String) : SettingValue :=
  match i.given.lookup flag with
  | some v => v
  | none => ((flagNamed? (acceptedFlags i.command) flag).map Flag.fallback).getD .nothing

namespace Settings

/-- A text that a flag or another source decides. -/
def textOf (s : Settings) (i : Invocation) (key flag : String) : String :=
  resolveText s (some i.given) (i.flagValue flag).asText key flag

/-- Texts that a flag or another source decides. -/
def textsOf (s : Settings) (i : Invocation) (key flag : String) : List String :=
  resolveTexts s (some i.given) (i.flagValue flag).asTexts key flag

/-- A truth value that a flag or another source decides. -/
def truthOf (s : Settings) (i : Invocation) (key flag : String) : Bool :=
  resolveTruth s (some i.given) (i.flagValue flag).asTruth key flag

/-- What to generate. -/
def request (s : Settings) (i : Invocation) : Request where
  schemaPath := s.textOf i "schema" "schema"
  schemaDir := s.textOf i "schema_dir" "schema-dir"
  pattern := s.textOf i "pattern" "pattern"
  outputDir := s.textOf i "output" "output"
  container := s.textOf i "container" "container"
  rootBaseClass := s.textOf i "root_base_class" "root-base-class"
  plugins := s.textsOf i "plugins" "plugin"
  strict := s.truthOf i "strict_references" "strict-references"
  version := s.textOf i "schema_version" "schema-version"

end Settings

/-! ## Running -/

/-- Does the work of a command: the files afterwards, and what is printed. -/
def perform (settings : Settings) (i : Invocation) : Command → Job String
  | .generate, s =>
    let (s, report) := generate defaultRegistry (settings.request i) s
    (s, report.andThen fun g => .done g.text)
  | .references, s =>
    let report := listReferences s (settings.textOf i "schema" "schema")
      (settings.truthOf i "strict_references" "strict-references")
    (s, report.andThen fun r => .done r.text)
  | .plugins, s => (s, .done defaultRegistry.text)
  | .help, s | .completion, s => (s, .done (helpText i.command))

/-- Runs a command whose arguments have been read. -/
def runCommand (environment : List (String × String)) (i : Invocation) (command : Command)
    (s : FileStore) : FileStore × Outcome :=
  let home := (environment.lookup "HOME").getD ""
  match s.loadConfig home (i.flagValue "config").asText with
  | .error f => (s, .ofFault .trace f)
  | .ok config =>
    let settings : Settings := { environment, config, defaults := defaultSettings }
    match LogLevel.read (settings.textOf i "log_level" "log-level") with
    | .error f => (s, .ofFault .trace f)
    | .ok level =>
      match checkLogFormat (settings.textOf i "log_format" "log-format") with
      | .error f => (s, .ofFault level f)
      | .ok () =>
        let (s, report) := perform settings i command s
        match report.result with
        | .error f => (s, .ofFault level f)
        | .ok output => (s, { output, level })

/-- Runs the program with the given variables, arguments and files. -/
def run (environment : List (String × String)) (args : List String) (s : FileStore) :
    FileStore × Outcome :=
  match Arguments.read args with
  | .error problem => (s, .ofFault .trace (.usage problem))
  | .ok i =>
    if (i.flagValue "help").asTruth then (s, { output := helpText i.command })
    else if (i.flagValue "version").asTruth then (s, { output := versionText })
    else match i.command.filter (·.works) with
      | some command => runCommand environment i command s
      | none => (s, { output := helpText i.command })

end SchemaGen
