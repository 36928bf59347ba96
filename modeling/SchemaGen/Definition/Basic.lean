import SchemaGen.Declaration.Basic

/-!
# Definitions

What the source file of a schema is made of. A definition never stands on its own: it points at the
declaration it defines, or at the one that its statement is about, and takes all names and types
from there.
-/

set_option autoImplicit false

namespace SchemaGen

/-- From where a function body reaches the members of the group it fills. -/
inductive Access where
  /-- A member function: members are reached by name. -/
  | inside
  /-- A free function: members are reached through its argument. -/
  | outside
deriving Repr, DecidableEq, Inhabited

/-- The text before a member's name. -/
def Access.accessor : Access → String
  | .inside => ""
  | .outside => "x."

/-- A definition or a statement, without what is nested in it. All numbers are of declarations. -/
inductive Defn where
  | scope (decl : NodeId)
  /-- A function body; a member function has an owner. -/
  | function (decl : NodeId) (owner : Option NodeId)
  /-- Reads a member from JSON. -/
  | fetch (member : NodeId) (access : Access)
  /-- Makes the object of a selected member, one branch for each case. -/
  | owned (member : NodeId) (access : Access)
  /-- Hands a performance map to one of its members. -/
  | populate (member : NodeId) (access : Access)
  /-- Enters a grid variable as an axis. -/
  | axis (member : NodeId)
  /-- Ends the list of axes. -/
  | finalize (function : NodeId)
  /-- Enters a lookup variable as a table. -/
  | table (member : NodeId)
  /-- Evaluates a performance map and packs the result. -/
  | overloadBody (function : NodeId) (result : String)
  /-- Returns a local variable. -/
  | giveBack (function : Option NodeId) (value : String)
  /-- Passes a free reader on to the member function. -/
  | initDelegation (function : NodeId)
  /-- Defines a static member of a class. -/
  | staticMember (decl owner : NodeId)
deriving Repr, DecidableEq, Inhabited

namespace Defn

/-- The word for the kind of a definition. -/
def kindName : Defn → String
  | scope _ => "impl_namespace"
  | function .. => "function_def"
  | fetch .. => "fetch"
  | owned .. => "owned"
  | populate .. => "populate"
  | axis _ => "axis"
  | finalize _ => "finalize"
  | table _ => "table"
  | overloadBody .. => "overload_body"
  | giveBack .. => "return"
  | initDelegation _ => "init_delegation"
  | staticMember .. => "static_def"

/-- The declaration that a definition points at. -/
def decl? : Defn → Option NodeId
  | scope d | function d _ | fetch d _ | owned d _ | populate d _ | axis d | finalize d | table d
  | overloadBody d _ | initDelegation d | staticMember d _ => some d
  | giveBack d _ => d

/-- The class that a definition belongs to. -/
def owner? : Defn → Option NodeId
  | function _ owner => owner
  | staticMember _ owner => some owner
  | _ => none

/-- How the statements of a function with this owner reach members. -/
def accessOf : (owner : Option NodeId) → Access
  | some _ => .inside
  | none => .outside

/-- Whether a node is a function body. -/
def isFunction : Defn → Bool
  | function .. => true
  | _ => false

end Defn

end SchemaGen
