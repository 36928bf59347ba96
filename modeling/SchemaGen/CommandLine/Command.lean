import SchemaGen.CommandLine.Flag
import SchemaGen.Generation

/-!
# Commands

The commands of the program and the flags they take. Some flags are common to all of them.
-/

set_option autoImplicit false

namespace SchemaGen

/-- A command of the program. -/
inductive Command where
  | generate
  | references
  | plugins
  /-- Explains the program. -/
  | help
  /-- Explains how a shell can complete command lines. -/
  | completion
deriving Repr, DecidableEq, Inhabited

namespace Command

/-- All commands, in the order in which they are suggested. -/
def all : List Command :=
  [generate, references, plugins, help, completion]

/-- The name of a command. -/
def name : Command → String
  | generate => "generate"
  | references => "references"
  | plugins => "plugins"
  | help => "help"
  | completion => "completion"

/-- What a command does. -/
def purpose : Command → String
  | generate => "Compile schema files into C++ headers and sources"
  | references => "Print the names a schema can reference and the files exporting them"
  | plugins => "List the registered plugins by role"
  | help => "Help about any command"
  | completion => "Generate the autocompletion script for the specified shell"

/-- Whether a command does work, and does not only explain. -/
def works : Command → Bool
  | generate | references | plugins => true
  | help | completion => false

/-- The command of a name. -/
def ofName? (s : String) : Option Command :=
  all.find? (·.name = s)

end Command

/-! ## Flags -/

/-- The flags that every command takes. -/
def commonFlags : List Flag :=
  [{ name := "config", purpose := "Config file path" },
    { name := "log-level", key := "log_level", fallback := .text "info",
      purpose := "Log level (trace, debug, info, warn, error)" },
    { name := "log-format", key := "log_format", fallback := .text "console",
      purpose := "Log format (console or json)" }]

/-- The flags that decide what to generate. -/
def generateFlags : List Flag :=
  [{ name := "schema", key := "schema", purpose := "Schema file to compile" },
    { name := "schema-dir", key := "schema_dir", purpose := "Directory of schema files to compile" },
    { name := "pattern", key := "pattern", fallback := .text defaultPattern,
      purpose := "Glob selecting schema files under --schema-dir" },
    { name := "output", key := "output", fallback := .text defaultOutputDir,
      purpose := "Output directory" },
    { name := "container", key := "container", fallback := .text defaultContainer,
      purpose := "Outer namespace; empty for none" },
    { name := "root-base-class", key := "root_base_class", fallback := .text defaultRootBaseClass,
      purpose := "Superclass of the root data group" },
    { name := "plugin", kind := .texts, key := "plugins", fallback := .list [],
      purpose := "Plugins to enable (default all)" },
    { name := "strict-references", kind := .truth, key := "strict_references",
      fallback := .truth false,
      purpose := "Fail when two referenced schemas export the same name" },
    { name := "schema-version", key := "schema_version",
      purpose := "PEP 440 specifier the schema version must satisfy" },
    -- schemas are compiled one after another whatever it says
    { name := "parallelism", kind := .integer, key := "parallelism", fallback := .integer 1,
      purpose := "Schemas compiled concurrently" }]

/-- The flags that decide which references to list. -/
def referencesFlags : List Flag :=
  [{ name := "schema", key := "schema", purpose := "Schema file" },
    { name := "strict-references", kind := .truth, key := "strict_references",
      fallback := .truth false,
      purpose := "Fail when two referenced schemas export the same name" }]

/-- Asks for an explanation. -/
def helpFlag : Flag :=
  { name := "help", kind := .truth, letter := some 'h', fallback := .truth false, purpose := "help" }

/-- Asks for the version. -/
def versionFlag : Flag :=
  { name := "version", kind := .truth, letter := some 'v', fallback := .truth false,
    purpose := "version" }

/-- The flags by which a command is told from what precedes it. -/
def declaredFlags : Option Command → List Flag
  | some .generate => generateFlags ++ commonFlags
  | some .references => referencesFlags ++ commonFlags
  | _ => commonFlags

/-- All flags that a command takes, or the program alone. -/
def acceptedFlags (command : Option Command) : List Flag :=
  declaredFlags command ++ helpFlag :: (if command.isNone then [versionFlag] else [])

/-- What settings are when no source has them. -/
def defaultSettings : Config :=
  (generateFlags ++ commonFlags).filterMap fun f =>
    if f.key = "" then none else some (f.key, f.fallback)

end SchemaGen
