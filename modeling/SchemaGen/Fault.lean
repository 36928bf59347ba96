import SchemaGen.Schema.Role
import SchemaGen.Text.CommaRow
import SchemaGen.Text.Integer
import SchemaGen.Text.Literal

/-!
# Faults

Everything that can go wrong, by cause. A fault carries the facts of the failure; its wording
is in one place (`Fault.message`) and so is its class (`Fault.code`), from which a run's exit
status follows (`exitStatus`).
-/

set_option autoImplicit false

namespace SchemaGen

/-- The class of a failure. -/
inductive FaultCode where
  | invalidArgument
  | notFound
  | alreadyExists
  | failedPrecondition
  | internal
deriving Repr, DecidableEq, Inhabited

/-- The name by which a class is written. -/
def FaultCode.name : FaultCode → String
  | .invalidArgument => "invalid_argument"
  | .notFound => "not_found"
  | .alreadyExists => "already_exists"
  | .failedPrecondition => "failed_precondition"
  | .internal => "internal"

/-- The class of a number; numbers of no class here are classes no fault of this program has. -/
def FaultCode.ofNumber? (n : Int) : Option FaultCode :=
  if n = 3 then some .invalidArgument
  else if n = 5 then some .notFound
  else if n = 6 then some .alreadyExists
  else if n = 9 then some .failedPrecondition
  else if n = 13 then some .internal
  else none

/-- Which of the two trees of a code unit. -/
inductive TreeSide where
  | declaration
  | implementation
deriving Repr, DecidableEq, Inhabited

/-- The word for a tree. -/
def TreeSide.name : TreeSide → String
  | .declaration => "declaration"
  | .implementation => "implementation"

/-- Why the type of an element has no meaning. -/
inductive TypeProblem where
  | missing
  | unknown
  | unknownKey (type : String)
  | unknownChoice (type : String)
deriving Repr, DecidableEq, Inhabited

/-- The words for a type problem. -/
def TypeProblem.text : TypeProblem → String
  | .missing => "missing data type"
  | .unknown => "unknown type"
  | .unknownKey type => "unknown selector key type " ++ type
  | .unknownChoice type => "unknown selector type " ++ type

/-- Why a selector has no meaning. -/
inductive SelectorProblem where
  | noConstraint
  | empty
  | countMismatch (enumerators types : Nat)
  | noKey (key : String)
deriving Repr, DecidableEq, Inhabited

/-- The words for a selector problem. -/
def SelectorProblem.text : SelectorProblem → String
  | .noConstraint => "no selector constraint of the form key(E1, E2, ...)"
  | .empty => "empty selector list"
  | .countMismatch enumerators types =>
    enumerators.repr ++ " enumerators for " ++ types.repr ++ " types"
  | .noKey key => "no element named " ++ key ++ " selects the type"

/-- Why a flag does not take a value. -/
inductive ValueProblem where
  | notTruth
  | notInteger (problem : Text.NumberProblem)
  | notRow (problem : Text.RowProblem)
deriving Repr, DecidableEq, Inhabited

/-- The words for a value that is not taken. -/
def ValueProblem.text (value : String) : ValueProblem → String
  | notTruth => "strconv.ParseBool: parsing " ++ Text.quoted value ++ ": invalid syntax"
  | notInteger .malformed => "strconv.ParseInt: parsing " ++ Text.quoted value ++ ": invalid syntax"
  | notInteger .outOfRange =>
    "strconv.ParseInt: parsing " ++ Text.quoted value ++ ": value out of range"
  | notRow problem => problem.text

/-- Why a command line cannot be read. -/
inductive UsageProblem where
  | unknownCommand (name : String) (similar : List String)
  | unknownFlag (flag : String)
  | unknownLetter (letter : Char) (cluster : String)
  | badSyntax (argument : String)
  | missingArgument (flag : String)
  /-- A flag is asked for by a name that none has. -/
  | noSuchFlag (flag : String)
  | badValue (flag value : String) (problem : ValueProblem)
deriving Repr, DecidableEq, Inhabited

/-- The name of the program, as its own messages write it. -/
def programName : String := "schema205"

/-- The words that suggest commands. -/
def suggestion (similar : List String) : String :=
  if similar.isEmpty then ""
  else "\n\nDid you mean this?\n" ++ String.join (similar.map fun name => "\t" ++ name ++ "\n")

/-- The words for a command line problem. -/
def UsageProblem.text : UsageProblem → String
  | .unknownCommand name similar =>
    "unknown command " ++ Text.quoted name ++ " for " ++ Text.quoted programName
      ++ suggestion similar
  | .unknownFlag flag => "unknown flag: --" ++ flag
  | .unknownLetter letter cluster =>
    "unknown shorthand flag: " ++ Text.quotedChar letter ++ " in -" ++ cluster
  | .badSyntax argument => "bad flag syntax: " ++ argument
  | .missingArgument flag => "flag needs an argument: --" ++ flag
  | .noSuchFlag flag => "no such flag -" ++ flag
  | .badValue flag value problem =>
    "invalid argument " ++ Text.quoted value ++ " for " ++ Text.quoted flag ++ " flag: "
      ++ problem.text value

/-- A failure, by cause. -/
inductive Fault where
  -- references between schemas
  | noSuchSchema (identifier : String)
  | unloadable (path : String)
  | missingReference (identifier schema : String) (cause : Fault)
  | ambiguousReference (name kept repeated : String)
  -- types of elements
  | badType (problem : TypeProblem) (group element dataType location : String)
  | badSelector (problem : SelectorProblem) (group element location : String)
  -- versions
  | badConstraint (constraint : String)
  | noVersion (schema constraint : String)
  | badVersion (schema version : String)
  | versionRefused (schema version constraint : String)
  -- the two trees
  | appendNothing (side : TreeSide)
  | appendUnjustified
  | appendAttached (name : String)
  | appendAttachedDefinition
  | reorderCount (node : String)
  | reorderForeign (node child : String)
  | childrenRemoved (side : TreeSide) (node : String)
  | childrenReordered (side : TreeSide) (node : String)
  | declarationCycle (names : List String)
  | noNamespace (schema : String)
  | unknownTarget (group : String)
  -- plugins
  | unnamedPlugin
  | closedRole (plugin : String) (role : Role)
  | repeatedPlugin (plugin : String)
  | unknownPlugin (plugin : String)
  | pluginFailed (plugin struct : String) (cause : Fault)
  | pluginComplaint (text : String)
  -- files
  | unreadableSchema (path : String)
  | unparsableSchema (path : String)
  | schemaNotMapping (path : String)
  | emptyReference (path : String)
  | unresolvedReference (identifier path : String)
  | emptySchemaDir
  | badPattern (pattern : String)
  | noSchemaDir (dir : String)
  | noMatch (pattern dir : String)
  | unnamedUnit (schema : String)
  | emptyOutputDir
  | cannotCreateOutput
  | cannotWrite (path : String)
  -- requests and settings
  | noInput
  | twoInputs
  | noSchemaFile
  | unreadableConfig
  | unknownLogLevel (level : String)
  | unknownLogFormat (format : String)
  | usage (problem : UsageProblem)
deriving Repr, Inhabited

namespace Fault

/-- The class of a fault. Complaints of plugins and misused command lines have none. -/
def code : Fault → Option FaultCode
  | noSuchSchema _ | missingReference .. | unreadableSchema _ | unresolvedReference ..
  | noSchemaDir _ | noMatch .. | unknownPlugin _ => some .notFound
  | unloadable _ | badType .. | badSelector .. | badConstraint _ | badVersion .. | appendNothing _
  | appendUnjustified | unnamedPlugin | closedRole .. | unparsableSchema _ | schemaNotMapping _
  | emptyReference _ | emptySchemaDir | badPattern _ | unnamedUnit _ | emptyOutputDir | noInput
  | twoInputs | noSchemaFile | unreadableConfig | unknownLogLevel _ | unknownLogFormat _ =>
    some .invalidArgument
  | ambiguousReference .. | noVersion .. | versionRefused .. | appendAttached _
  | appendAttachedDefinition | declarationCycle _ | noNamespace _ => some .failedPrecondition
  | repeatedPlugin _ => some .alreadyExists
  | reorderCount _ | reorderForeign .. | childrenRemoved .. | childrenReordered ..
  | unknownTarget _ | pluginFailed .. | cannotCreateOutput | cannotWrite _ => some .internal
  | pluginComplaint _ | usage _ => none

/-- How the message of a declaration cycle begins. -/
def cycleText : String := "declaration cycle detected"

/-- The words for a fault. -/
def message : Fault → String
  | noSuchSchema identifier => "no schema " ++ identifier
  | unloadable path => "cannot load " ++ path
  | missingReference identifier schema _ =>
    "missing schema file " ++ identifier ++ " referenced by " ++ schema
  | ambiguousReference name kept repeated =>
    "ambiguous reference: " ++ name ++ " is exported by both " ++ kept ++ " and " ++ repeated
  | badType problem group element dataType location =>
    problem.text ++ ": " ++ group ++ "." ++ element ++ " has type " ++ Text.quoted dataType
      ++ " in " ++ location
  | badSelector problem group element location =>
    "malformed selector " ++ group ++ "." ++ element ++ " in " ++ location ++ ": " ++ problem.text
  | badConstraint constraint => "invalid schema version constraint: " ++ constraint
  | noVersion schema constraint =>
    "schema " ++ schema ++ " declares no version but " ++ constraint ++ " is required"
  | badVersion schema version => "schema " ++ schema ++ " has an invalid version: " ++ version
  | versionRefused schema version constraint =>
    "schema " ++ schema ++ " version " ++ version ++ " does not satisfy " ++ constraint
  | appendNothing side =>
    "cannot append a nil " ++ side.name
  | appendUnjustified => "implementation node has no justifying declaration"
  | appendAttached name => "declaration " ++ name ++ " already has a parent"
  | appendAttachedDefinition => "implementation node already has a parent"
  | reorderCount node => "reorder of " ++ node ++ " changes the number of children"
  | reorderForeign node child => "reorder of " ++ node ++ " introduces a foreign node " ++ child
  | childrenRemoved .declaration node => "children removed from declaration " ++ node
  | childrenRemoved .implementation node => "children removed from implementation of " ++ node
  | childrenReordered .declaration node => "children reordered under declaration " ++ node
  | childrenReordered .implementation node => "children reordered under implementation of " ++ node
  | declarationCycle names => cycleText ++ " involving: " ++ ", ".intercalate names
  | noNamespace schema => "declaration tree for " ++ schema ++ " has no schema namespace"
  | unknownTarget group => "from_json declared for unknown group " ++ group
  | unnamedPlugin => "plugin must have a name"
  | closedRole plugin role =>
    "plugin " ++ plugin ++ " targets role " ++ role.name ++ " which cannot be extended"
  | repeatedPlugin plugin => "plugin " ++ plugin ++ " is already registered"
  | unknownPlugin plugin => "unknown plugin: " ++ plugin
  | pluginFailed plugin struct _ => "plugin " ++ plugin ++ " failed on " ++ struct
  | pluginComplaint text => text
  | unreadableSchema path => "failed to read schema file: " ++ path
  | unparsableSchema path => "failed to parse schema file: " ++ path
  | schemaNotMapping path => "schema file must be a mapping of named objects: " ++ path
  | emptyReference path => "empty schema reference in " ++ path
  | unresolvedReference identifier path =>
    "referenced schema " ++ identifier ++ " not found next to " ++ path
  | emptySchemaDir => "schema directory is empty"
  | badPattern pattern => "invalid schema pattern: " ++ pattern
  | noSchemaDir dir => "schema directory not found: " ++ dir
  | noMatch pattern dir => "no schema files match " ++ pattern ++ " in " ++ dir
  | unnamedUnit schema => "rendered unit for " ++ schema ++ " has no file names"
  | emptyOutputDir => "output directory is empty"
  | cannotCreateOutput => "failed to create output directory"
  | cannotWrite path => "failed to write " ++ path
  | noInput => "schema file or schema directory is required"
  | twoInputs => "schema file and schema directory are mutually exclusive"
  | noSchemaFile => "schema file is required"
  | unreadableConfig => "failed to read config file"
  | unknownLogLevel level => "unknown log level: " ++ level
  | unknownLogFormat format => "unknown log format: " ++ format
  | usage problem => problem.text

/-- The fault behind a fault. -/
def cause? : Fault → Option Fault
  | missingReference _ _ cause => some cause
  | pluginFailed _ _ cause => some cause
  | _ => none

end Fault

/-- The exit status of a run that failed with a fault of this class and wording. Only the wording
tells a declaration cycle from the other failed preconditions. -/
def exitStatus (code : Option FaultCode) (message : String) : Nat :=
  match code with
  | some .invalidArgument | some .alreadyExists => 2
  | some .failedPrecondition => if Text.startsWith message Fault.cycleText then 3 else 4
  | some .notFound => 5
  | some .internal => 6
  | none => 1

/-- The exit status of a run that failed with this fault. -/
def Fault.exitStatus (f : Fault) : Nat :=
  SchemaGen.exitStatus f.code f.message

end SchemaGen
