import SchemaGen.File.Find
import SchemaGen.File.Output
import SchemaGen.File.SchemaFile

/-!
# Generating code

One request compiles one schema file, or all that a pattern finds below a directory, and writes
two files for each. Files are dealt with in the order in which they are found, each as the files are
when its turn comes, and the first failure ends the run: what was written before stays.
-/

set_option autoImplicit false

namespace SchemaGen

open SchemaGen.Text (trim)

/-- What to generate, and how. -/
structure Request where
  /-- The one schema file to compile. Either this or a directory is given. -/
  schemaPath : String := ""
  schemaDir : String := ""
  pattern : String := ""
  outputDir : String := ""
  container : String := ""
  rootBaseClass : String := ""
  /-- The plugins to run; all if none is named. -/
  plugins : List String := []
  strict : Bool := false
  version : String := ""
deriving Repr, DecidableEq, Inhabited

/-- The outer namespace unless another is chosen. -/
def defaultContainer : String := "tk205"

/-- The output directory unless another is chosen. -/
def defaultOutputDir : String := "build/generated"

namespace Request

/-- The same request with what it leaves open filled in. No container is a choice of its own. -/
def withDefaults (r : Request) : Request :=
  let orElse (value fallback : String) := if value = "" then fallback else value
  { r with
    rootBaseClass := orElse r.rootBaseClass defaultRootBaseClass
    pattern := orElse r.pattern defaultPattern
    outputDir := orElse r.outputDir defaultOutputDir }

/-- What a request decides about each code unit. -/
def options (r : Request) : UnitOptions where
  decls := { container := r.container, rootBaseClass := r.rootBaseClass }
  strict := r.strict
  version := r.version

/-- The schema files that a request is about. -/
def inputs (r : Request) (s : FileStore) : Except Fault (List String) :=
  let path := trim r.schemaPath
  let dir := trim r.schemaDir
  if path = "" && dir = "" then .error .noInput
  else if path ≠ "" && dir ≠ "" then .error .twoInputs
  else if dir = "" then .ok [path]
  else match s.findSchemas dir r.pattern with
    | .error fault => .error fault
    | .ok [] => .error (.noMatch r.pattern dir)
    | .ok paths => .ok paths

end Request

/-- A schema and the files written for it. -/
structure GeneratedUnit where
  schema : String
  files : List String
deriving Repr, DecidableEq, Inhabited

/-- What a request came to. -/
structure Generated where
  outputDir : String
  units : List GeneratedUnit
deriving Repr, DecidableEq, Inhabited

/-- Something done to the files: the files afterwards, and a report. -/
abbrev Job (α : Type) := FileStore → FileStore × Report α

/-- Compiles one schema file and writes its code unit. -/
def generateOne (plugins : Registry) (r : Request) (path : String) : Job GeneratedUnit :=
  fun s =>
    match s.loadSchema path with
    | .error fault => (s, .fail fault)
    | .ok schema =>
      let compiled := compile s.loader (some plugins) r.options schema
      match compiled.result with
      | .error fault => (s, compiled.andThen fun _ => .fail fault)
      | .ok unit =>
        let written := s.writeUnit r.outputDir unit.render
        (written.store, compiled.andThen fun _ =>
          match written.fault with
          | some fault => .fail fault
          | none =>
            (Report.say (.schemaGenerated schema.name written.paths)).andThen fun _ =>
              .done ⟨schema.name, written.paths⟩)

/-- Compiles schema files in order, up to the first that fails. -/
def generateAll (plugins : Registry) (r : Request) : List String → Job (List GeneratedUnit)
  | [], s => (s, .done [])
  | path :: rest, s =>
    let (s, first) := generateOne plugins r path s
    match first.result with
    | .error fault => (s, first.andThen fun _ => .fail fault)
    | .ok unit =>
      let (s, more) := generateAll plugins r rest s
      (s, first.andThen fun _ => more.andThen fun units => .done (unit :: units))

/-- Does what a request asks for, with the plugins of a registry at hand. -/
def generate (registry : Registry) (request : Request) : Job Generated :=
  fun s =>
    let r := request.withDefaults
    match r.inputs s with
    | .error fault => (s, .fail fault)
    | .ok paths =>
      match registry.select r.plugins with
      | .error fault => (s, .fail fault)
      | .ok plugins =>
        let (s, report) := generateAll plugins r paths s
        (s, report.andThen fun units => .done ⟨r.outputDir, units⟩)

end SchemaGen
