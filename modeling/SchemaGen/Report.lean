import SchemaGen.Fault

/-!
# Reports

What a stage of the work says besides its result. A stage may notice things on its way (a name
hidden by another, a class left without an overload), and what it noticed stays known when
it fails afterwards. So a report is a list of notices next to a result that may be a fault, and
two reports in sequence append their notices.
-/

set_option autoImplicit false

namespace SchemaGen

/-! ## Notices -/

/-- How much a notice matters, lowest first. -/
inductive Level where
  | debug
  | info
  | warn
deriving Repr, DecidableEq, Inhabited

/-- The name by which a level is written. -/
def Level.name : Level → String
  | .debug => "debug"
  | .info => "info"
  | .warn => "warn"

/-- The place of a level in the order. -/
def Level.rank : Level → Nat
  | .debug => 0
  | .info => 1
  | .warn => 2

/-- The value of a field of a notice. -/
inductive FieldValue where
  | text (value : String)
  | count (value : Nat)
  | flag (value : Bool)
  | texts (values : List String)
deriving Repr, DecidableEq, Inhabited

/-- Something worth telling that is no failure. -/
inductive Notice where
  | versionAccepted (schema version : String)
  | unmappedDataType (schema type : String)
  | importShadowed (name schema : String)
  | repeatedExport (name kept ignored : String)
  | catalogBuilt (schema : String) (origins names : Nat)
  | groupsDeclared (schema : String) (groups : Nat)
  | declarationsOrdered (scope : String) (declarations : Nat)
  | overloadSkipped (schema performanceMap : String) (grid lookup : Bool)
  | definitionsBuilt (schema : String) (definitions : Nat)
  | declarationsExtended (plugin struct : String)
  | unitComplete
  | schemaGenerated (schema : String) (files : List String)
  /-- A notice given while one schema was being compiled. -/
  | within (schema : String) (notice : Notice)
deriving Repr, Inhabited

namespace Notice

/-- How much a notice matters. -/
def level : Notice → Level
  | repeatedExport .. | overloadSkipped .. => .warn
  | schemaGenerated .. => .info
  | within _ notice => notice.level
  | _ => .debug

/-- The words of a notice. -/
def message : Notice → String
  | versionAccepted .. => "schema version accepted"
  | unmappedDataType .. => "data type has no primitive mapping"
  | importShadowed .. => "local name shadows imported name"
  | repeatedExport .. => "name exported by more than one referenced schema"
  | catalogBuilt .. => "reference catalog built"
  | groupsDeclared .. => "group declarations built"
  | declarationsOrdered .. => "declarations ordered"
  | overloadSkipped .. => "no matching sibling groups; calculate_performance overload skipped"
  | definitionsBuilt .. => "implementation tree built"
  | declarationsExtended .. => "declarations extended"
  | unitComplete => "translation complete"
  | schemaGenerated .. => "schema generated"
  | within _ notice => notice.message

/-- The facts of a notice, by name. A notice given within a schema has a field for it unless it
names a schema of its own. -/
def fields : Notice → List (String × FieldValue)
  | versionAccepted schema version => [("schema", .text schema), ("version", .text version)]
  | unmappedDataType schema type => [("schema", .text schema), ("type", .text type)]
  | importShadowed name schema => [("name", .text name), ("import", .text schema)]
  | repeatedExport name kept ignored =>
    [("name", .text name), ("kept", .text kept), ("ignored", .text ignored)]
  | catalogBuilt schema origins names =>
    [("schema", .text schema), ("origins", .count origins), ("names", .count names)]
  | groupsDeclared schema groups => [("schema", .text schema), ("groups", .count groups)]
  | declarationsOrdered scope declarations =>
    [("scope", .text scope), ("declarations", .count declarations)]
  | overloadSkipped schema performanceMap grid lookup =>
    [("schema", .text schema), ("performance_map", .text performanceMap),
      ("grid_variables", .flag grid), ("lookup_variables", .flag lookup)]
  | definitionsBuilt schema definitions =>
    [("schema", .text schema), ("definitions", .count definitions)]
  | declarationsExtended plugin struct => [("plugin", .text plugin), ("struct", .text struct)]
  | unitComplete => []
  | schemaGenerated schema files => [("schema", .text schema), ("files", .texts files)]
  | within schema notice =>
    if notice.fields.any (·.1 = "schema") then notice.fields
    else ("schema", .text schema) :: notice.fields

end Notice

/-! ## Reports -/

/-- What was noticed, and what came of it. -/
structure Report (α : Type) where
  notices : List Notice := []
  result : Except Fault α

namespace Report

variable {α β : Type}

/-- A result with nothing noticed. -/
def ofResult (r : Except Fault α) : Report α :=
  { result := r }

/-- Success with nothing noticed. -/
def done (a : α) : Report α :=
  .ofResult (.ok a)

/-- Failure with nothing noticed. -/
def fail (f : Fault) : Report α :=
  .ofResult (.error f)

/-- A notice on its own. -/
def say (n : Notice) : Report Unit :=
  { notices := [n], result := .ok () }

/-- One report after another: the second is made from the result of the first, and the notices
of both are kept even if the second fails. -/
def andThen (r : Report α) (f : α → Report β) : Report β :=
  match r.result with
  | .error e => { notices := r.notices, result := .error e }
  | .ok a => { notices := r.notices ++ (f a).notices, result := (f a).result }

instance : Monad Report where
  pure := done
  bind := andThen

/-- The same report with every notice placed within a schema. -/
def inSchema (schema : String) (r : Report α) : Report α :=
  { r with notices := r.notices.map (.within schema) }

/-- The notices of at least a level. -/
def noticesFrom (r : Report α) (level : Level) : List Notice :=
  r.notices.filter (level.rank ≤ ·.level.rank)

@[simp] theorem result_done (a : α) : (done a).result = .ok a := rfl

@[simp] theorem result_fail (f : Fault) : (fail f : Report α).result = .error f := rfl

/-- The result of a sequence forgets the notices. -/
@[simp] theorem result_andThen (r : Report α) (f : α → Report β) :
    (r.andThen f).result = r.result.bind fun a => (f a).result := by
  unfold andThen
  cases r.result <;> rfl

end Report

end SchemaGen
