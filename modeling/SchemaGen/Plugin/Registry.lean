import SchemaGen.World

/-!
# Plugins and registries

A plugin adds to the classes of one role. It has two hooks, one for declarations and one for
function bodies, and a hook may do to the world whatever it likes: what it must not do is checked
after it ran (`SchemaGen.Plugin.Apply`).

A registry is the list of plugins in the order in which they were accepted. That order is the order
in which hooks of one role run.
-/

set_option autoImplicit false

namespace SchemaGen

/-- An extension of the classes of one role. -/
structure Plugin where
  name : String
  role : Role
  /-- Extends the class at `target`. -/
  extendClass : (target : NodeId) → World → Act
  /-- Extends the function body at `definition`, a member of the class at `owner`. -/
  extendFunction : (owner definition : NodeId) → World → Act

/-- Accepted plugins, in order. -/
structure Registry where
  plugins : List Plugin := []

namespace Registry

/-- The plugin of a name. -/
def find? (r : Registry) (name : String) : Option Plugin :=
  r.plugins.find? (·.name = name)

/-- Accepts a plugin, or says why not: it needs a name that no other has and a role that plugins may
extend. -/
def register (r : Registry) (p : Option Plugin) : Except Fault Registry :=
  match p with
  | none => .error .unnamedPlugin
  | some p =>
    if p.name = "" then .error .unnamedPlugin
    else if !p.role.extensible then .error (.closedRole p.name p.role)
    else if (r.find? p.name).isSome then .error (.repeatedPlugin p.name)
    else .ok ⟨r.plugins ++ [p]⟩

/-- Accepts plugins in order, up to the first that is refused. -/
def registerAll : List (Option Plugin) → Registry → Except Fault Registry
  | [], r => .ok r
  | p :: ps, r =>
    match r.register p with
    | .error fault => .error fault
    | .ok r => registerAll ps r

/-- The plugins of a role, in the order in which they were accepted. -/
def forRole (r : Registry) (role : Role) : List Plugin :=
  r.plugins.filter (·.role = role)

/-- The names of the plugins, in increasing order. -/
def names (r : Registry) : List String :=
  (r.plugins.map (·.name)).mergeSort fun a b => !(b < a)

/-- Accepts the plugins of these names, in this order, into another registry. -/
def pickInto (r : Registry) : List String → Registry → Except Fault Registry
  | [], chosen => .ok chosen
  | name :: rest, chosen =>
    match r.find? name with
    | none => .error (.unknownPlugin name)
    | some p =>
      match chosen.register (some p) with
      | .error fault => .error fault
      | .ok chosen => r.pickInto rest chosen

/-- The registry of the named plugins, in the order of the names; of no names, all plugins. -/
def select (r : Registry) (names : List String) : Except Fault Registry :=
  r.pickInto (if names.isEmpty then r.plugins.map (·.name) else names) {}

/-- Every plugin with its role, role by role. -/
def listing (r : Registry) : List (Role × String) :=
  Role.extensibleRoles.flatMap fun role => (r.forRole role).map fun p => (role, p.name)

end Registry

end SchemaGen
