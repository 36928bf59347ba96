/-!
# Trees

Ordered trees with a label at every node. The order of children is the order in which they are
written out. A tree is numbered (`Tree.number`) before it is planted in a forest, where nodes
are told apart by their numbers and not by what they hold.
-/

set_option autoImplicit false

namespace SchemaGen

/-- An ordered tree. -/
inductive Tree (α : Type) where
  | node (label : α) (children : List (Tree α))
deriving Repr, Inhabited

namespace Tree

variable {α β : Type}

/-- The label of the root. -/
def label : Tree α → α
  | node a _ => a

/-- The subtrees below the root, in order. -/
def children : Tree α → List (Tree α)
  | node _ cs => cs

mutual

/-- The labels of a tree, every node before its descendants. -/
def labels : Tree α → List α
  | node a cs => a :: labelsOf cs

/-- The labels of several trees, one tree after another. -/
def labelsOf : List (Tree α) → List α
  | [] => []
  | t :: ts => labels t ++ labelsOf ts

end

mutual

/-- Changes every label. -/
def map (f : α → β) : Tree α → Tree β
  | node a cs => node (f a) (mapAll f cs)

/-- Changes every label of several trees. -/
def mapAll (f : α → β) : List (Tree α) → List (Tree β)
  | [] => []
  | t :: ts => map f t :: mapAll f ts

end

/-- The same tree with more children after those of the root. -/
def extend (t : Tree α) (more : List (Tree α)) : Tree α :=
  node t.label (t.children ++ more)

/-- A tree of one node. -/
def leaf (a : α) : Tree α :=
  node a []

@[simp] theorem label_node (a : α) (cs : List (Tree α)) : (node a cs).label = a := rfl

@[simp] theorem children_node (a : α) (cs : List (Tree α)) : (node a cs).children = cs := rfl

@[simp] theorem label_extend (t : Tree α) (more : List (Tree α)) :
    (t.extend more).label = t.label := rfl

@[simp] theorem children_extend (t : Tree α) (more : List (Tree α)) :
    (t.extend more).children = t.children ++ more := rfl

/-! ## Numbers -/

/-- The number of a node. -/
abbrev Id := Nat

/-- A value and the number of the node that holds it. -/
structure Numbered (α : Type) where
  id : Id
  value : α
deriving Repr, Inhabited, DecidableEq

mutual

/-- Numbers the nodes of a tree from `next` on, every node before its descendants. Gives the first
number not used, too. -/
def number (next : Id) : Tree α → Tree (Numbered α) × Id
  | node a cs =>
    let (cs, after) := numberAll (next + 1) cs
    (node ⟨next, a⟩ cs, after)

/-- Numbers the nodes of several trees, one tree after another. -/
def numberAll (next : Id) : List (Tree α) → List (Tree (Numbered α)) × Id
  | [] => ([], next)
  | t :: ts =>
    let (t, after) := number next t
    let (ts, after) := numberAll after ts
    (t :: ts, after)

end

/-- A number above all those in the tree. -/
def bound (t : Tree (Numbered α)) : Id :=
  t.labels.foldl (fun n l => max n (l.id + 1)) 0

end Tree

end SchemaGen
