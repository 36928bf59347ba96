import SchemaGen.Yaml.Tag

/-!
# Documents

A document is a tree of scalars, sequences and mappings. A part of it can be given a name, an
anchor, and an alias then stands for that part wherever it occurs, even inside the part itself. So
an alias holds the number of an anchored part and not the part.
-/

set_option autoImplicit false

namespace SchemaGen.Yaml

/-- A part of a document. -/
inductive Node where
  | scalar (tag : Tag) (text : String)
  | sequence (items : List Node)
  | mapping (entries : List (Node × Node))
  | aliasOf (name : String) (target : Nat)
deriving Inhabited

/-- A document. -/
structure Document where
  root : Node
  /-- The anchored parts by number. -/
  anchored : List (Nat × Node) := []
  /-- More than the number of parts, so that no part is nested this deep. -/
  bound : Nat := 0
deriving Inhabited

namespace Node

/-- The kind of a node, as far as two keys are compared by it. -/
inductive Kind where
  | scalar
  | sequence
  | mapping
  | aliasOf
deriving Repr, DecidableEq

/-- The kind of a node. -/
def kind : Node → Kind
  | scalar .. => .scalar
  | sequence _ => .sequence
  | mapping _ => .mapping
  | aliasOf .. => .aliasOf

/-- The text of a scalar or the name of an alias. -/
def text : Node → String
  | scalar _ text => text
  | aliasOf name _ => name
  | _ => ""

/-- Whether a key takes over the entries of another mapping. -/
def isMerge : Node → Bool
  | scalar tag text => tag == .merge && text == "<<"
  | _ => false

end Node

/-- What a node stands for: an anchored part for an alias, the node itself otherwise. -/
def Document.follow (d : Document) (n : Node) : Node :=
  match n with
  | .aliasOf _ target => (d.anchored.lookup target).getD n
  | _ => n

end SchemaGen.Yaml
