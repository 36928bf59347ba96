import SchemaGen.Text.Words

/-!
# Base roles

The part a generated class plays among the base classes of the runtime. Plugins extend
classes by role, and only three of the five roles are open to them.
-/

set_option autoImplicit false

namespace SchemaGen

/-- The inheritance role of a generated class. -/
inductive Role where
  /-- No base class. -/
  | plain
  /-- The class a whole schema is read into. -/
  | root
  /-- The axes of a performance map. -/
  | gridVariables
  /-- The tables of a performance map. -/
  | lookupVariables
  /-- An interpolated map over grid variables. -/
  | performanceMap
deriving Repr, DecidableEq, Inhabited

namespace Role

/-- The name by which a role is written. -/
def name : Role → String
  | plain => "none"
  | root => "root"
  | gridVariables => "grid-variables"
  | lookupVariables => "lookup-variables"
  | performanceMap => "performance-map"

/-- The roles that plugins may extend, in the order in which they are listed. -/
def extensibleRoles : List Role :=
  [gridVariables, lookupVariables, performanceMap]

/-- Whether plugins may be registered for the role. -/
def extensible (r : Role) : Bool :=
  extensibleRoles.contains r

/-- Every role, in the order of its number. -/
def all : List Role :=
  [plain, root, gridVariables, lookupVariables, performanceMap]

/-- The role of a number. -/
def ofNumber? (n : Int) : Option Role :=
  if n < 0 then none else all[n.toNat]?

/-- Reads the name of a role, in any case and with blanks around it; a blank text is the plain
role. -/
def ofName? (text : String) : Option Role :=
  let key := Text.lower (Text.trim text)
  if key = "" then some plain else all.find? (·.name = key)

/-- Reading a role's own name gives the role back. -/
theorem ofName?_name (r : Role) : ofName? r.name = some r := by
  cases r <;> decide

end Role

end SchemaGen
