import SchemaGen.Plugin.Registry

/-!
# Running plugins

Every class gets one call of each plugin of its role, and then every member function body gets one
call of each plugin of its owner's role. Classes and bodies are those there were before the calls
began, so plugins do not extend what plugins add.

Each call is checked: what was below the roots before it must still be there, in the same order,
with anything new after it.

Which plugins a class gets is looked up before the first call. The program looks it up when it comes
to the class, which is the same as long as no hook changes the role of a class that is still to
come.
-/

set_option autoImplicit false

namespace SchemaGen

namespace Plugin

/-- The outcome of a hook on the class `struct`, with the loss it may have caused. -/
def checked (p : Plugin) (struct : String) (act : Act) (loss? : World → Option Fault) : Act :=
  match act.2 with
  | .error cause => (act.1, .error (.pluginFailed p.name struct cause))
  | .ok () =>
    match loss? act.1 with
    | some cause => (act.1, .error (.pluginFailed p.name struct cause))
    | none => (act.1, .ok ())

/-- One checked call of the class hook. -/
def callOnClass (p : Plugin) (root : Option NodeId) (target : NodeId) (struct : String)
    (w : World) : Act :=
  let before := (root.map w.decls.snapshot).getD []
  p.checked struct (p.extendClass target w) (·.declLoss? before)

/-- One checked call of the function hook. -/
def callOnFunction (p : Plugin) (root : NodeId) (owner definition : NodeId) (struct : String)
    (w : World) : Act :=
  let before := w.defns.snapshot root
  p.checked struct (p.extendFunction owner definition w) (·.defnLoss? before)

end Plugin

/-- A call that is due: a plugin on a class. -/
structure ClassCall where
  plugin : Plugin
  target : NodeId
  struct : String

/-- A call that is due: a plugin on a function body. -/
structure FunctionCall where
  plugin : Plugin
  owner : NodeId
  definition : NodeId
  struct : String

namespace Registry

/-- The calls on classes that are due below a root. -/
def classCalls (r : Registry) (w : World) (root : Option NodeId) : List ClassCall :=
  ((root.map w.classesBelow).getD []).flatMap fun c =>
    match c.value with
    | .struct s => (r.forRole s.role).map fun p => ⟨p, c.id, s.name⟩
    | _ => []

/-- The calls on function bodies that are due below a root. -/
def functionCalls (r : Registry) (w : World) (root : NodeId) : List FunctionCall :=
  (w.functionsBelow root).flatMap fun d =>
    match d.value.owner? with
    | none => []
    | some owner =>
      match w.decls.value? owner with
      | some (.struct s) => (r.forRole s.role).map fun p => ⟨p, owner, d.id, s.name⟩
      | _ => []

/-- Makes calls on classes, up to the first that fails. -/
def runClassCalls (root : Option NodeId) : List ClassCall → World → World × Report Unit
  | [], w => (w, .done ())
  | call :: rest, w =>
    match call.plugin.callOnClass root call.target call.struct w with
    | (w, .error fault) => (w, .fail fault)
    | (w, .ok ()) =>
      let (w', report) := runClassCalls root rest w
      (w', (Report.say (.declarationsExtended call.plugin.name call.struct)).andThen fun _ => report)

/-- Makes calls on function bodies, up to the first that fails. -/
def runFunctionCalls (root : NodeId) : List FunctionCall → World → Act
  | [], w => (w, .ok ())
  | call :: rest, w =>
    match call.plugin.callOnFunction root call.owner call.definition call.struct w with
    | (w, .error fault) => (w, .error fault)
    | (w, .ok ()) => runFunctionCalls root rest w

/-- Runs the plugins of a registry on the declarations below one root and the definitions below
another, either of which may be missing. -/
def apply (r : Registry) (declRoot defnRoot : Option NodeId) (w : World) : World × Report Unit :=
  let (w, declared) := runClassCalls declRoot (r.classCalls w declRoot) w
  match declared.result, defnRoot with
  | .ok (), some root =>
    let (w, result) := runFunctionCalls root (r.functionCalls w root) w
    (w, declared.andThen fun _ => .ofResult result)
  | _, _ => (w, declared)

end Registry

end SchemaGen
