import SchemaGen.Plugin.Registry

/-!
# Plugins that come with the generator

The one plugin that is always registered numbers the lookup variables of a class, as grid variables
are numbered without it.
-/

set_option autoImplicit false

namespace SchemaGen

/-- Adds a new declaration below a class. -/
def appendNew (target : NodeId) (d : Decl) (w : World) : Act :=
  let (decls, id) := w.decls.create none d
  { w with decls }.append (some target) (some id)

/-- Gives lookup variables a counter of their members. -/
def lookupCounterEnum : Plugin where
  name := "lookup-counter-enum"
  role := .lookupVariables
  extendClass target w := appendNew target (.ofMembers ((membersOf w.decls target).map (·.name))) w
  extendFunction _ _ w := (w, .ok ())

/-- The registry that a run starts with. -/
def defaultRegistry : Registry :=
  ⟨[lookupCounterEnum]⟩

end SchemaGen
