import SchemaGen.Fault
import SchemaGen.File.Store
import SchemaGen.Settings.JsonText
import SchemaGen.Yaml.Parse
import SchemaGen.Yaml.Record

/-!
# The config file

Settings can be kept in a file. One that is named must be there, and its extension says how it is
written. Otherwise the first one found counts, in the working directory or in that of the user, and
there need not be one. Names of settings are not case-sensitive.
-/

set_option autoImplicit false

namespace SchemaGen

open SchemaGen.Text

/-- Settings by name, in lower case. The first of a name counts. -/
abbrev Config := List (String × SettingValue)

/-! ## Values of a document -/

namespace Yaml

/-- The value of a scalar; a number that is too large stays a text. -/
def scalarValue? (tag : Tag) (text : String) : Option SettingValue :=
  if !tag.accepts text then none
  else match tag with
    | .null => some .nothing
    | .bool => (boolWords.lookup text).map .truth
    | .int => (readInteger? text).map .integer
    | .float =>
      let decimal := match readInteger? text with
        | some n => { negative := n < 0, digits := n.natAbs : Decimal }
        | none => Decimal.ofText (String.ofList (text.toList.filter (· != '_')))
      some <| match specialNumbers.lookup text with
        | some n => .number n
        | none => match decimal.kept? with
          | some d => .number (.finite d)
          | none => .text text
    | .timestamp => (Moment.ofText? text).map fun m => .moment m.text
    | .binary => (Base64.text? text).map .text
    | .text | .merge | .other _ => some (.text text)

/-- The fields that count: the first of each name. -/
def firstFields : Fields → Fields
  | [] => []
  | (name, n) :: rest => (name, n) :: (firstFields rest).filter (·.1 ≠ name)

/-- The value of a node. A node that holds itself has none, and a chain of nodes that is as long as
the document has parts comes back to one of them. -/
def Document.valueWithin (d : Document) : (fuel : Nat) → Node → Option SettingValue
  | 0, _ => none
  | fuel + 1, n =>
    match d.follow n with
    | .scalar tag text => scalarValue? tag text
    | .sequence items => (items.mapM (d.valueWithin fuel)).map .list
    | .mapping entries => do
      let fields ← d.fieldsWithin d.bound entries
      let values ← (firstFields fields).mapM fun f => (d.valueWithin fuel f.2).map (f.1, ·)
      some (.table values)
    | .aliasOf .. => none

/-- The value of a text; an empty one has none. -/
def value? (text : String) : Option SettingValue := do
  match ← parse text with
  | none => some .nothing
  | some d => d.valueWithin (d.bound + 1) d.root

end Yaml

/-! ## Reading -/

/-- How a config file is written. -/
inductive ConfigFormat where
  | yaml
  | json
deriving Repr, DecidableEq, Inhabited

/-- The format that an extension announces. -/
def ConfigFormat.ofExtension? (ext : String) : Option ConfigFormat :=
  if ext = ".yaml" || ext = ".yml" then some .yaml
  else if ext = ".json" then some .json
  else none

/-- The settings of a config text. Nothing at all is no settings. -/
def Config.parse (format : ConfigFormat) (text : String) : Option Config :=
  let value := match format with
    | .yaml => Yaml.value? text
    | .json => JsonText.parse text
  match value with
  | some .nothing => some []
  | some (.table entries) => some (entries.map fun e => (lower e.1, e.2))
  | _ => none

/-! ## Finding -/

/-- The extensions that a config file may have where it is looked for. -/
def configExtensions : List String :=
  ["json", "toml", "yaml", "yml", "properties", "props", "prop", "hcl", "tfvars", "dotenv", "env",
    "ini"]

/-- The names under which a config file is looked for. -/
def configNames : List String :=
  configExtensions.map (programName ++ "." ++ ·) ++ [programName]

namespace FileStore

/-- The directories in which a config file is looked for. -/
def configDirs (s : FileStore) (home : String) : List String :=
  [s.cwdPath, s.absolute (home ++ "/.config/" ++ programName)]

/-- Whether a path that starts at the root leads through a file. -/
def isBlocked (s : FileStore) (path : String) : Bool :=
  let names := Path.cleanParts true (Path.parts path)
  (List.range (names.length + 1)).any fun k => (s.fileAt? (names.take k)).isSome

/-- The config file that is found when none is named. -/
def findConfig? (s : FileStore) (home : String) : Option String :=
  ((s.configDirs home).flatMap fun dir => configNames.map (Path.join dir)).find? s.isFile

/-- The settings of the config file: of the one that is named, or else of the one found. A directory
that cannot be looked into is a failure. -/
def loadConfig (s : FileStore) (home named : String) : Except Fault Config :=
  let settings (format : ConfigFormat) (path : String) : Except Fault Config :=
    match (s.read path).bind (Config.parse format) with
    | some config => .ok config
    | none => .error .unreadableConfig
  if named ≠ "" then
    match ConfigFormat.ofExtension? (Path.extension named) with
    | some format => settings format named
    | none => .error .unreadableConfig
  else if (s.configDirs home).any s.isBlocked then .error .unreadableConfig
  else match s.findConfig? home with
    | some path => settings .yaml path
    | none => .ok []

end FileStore

end SchemaGen
