import SchemaGen.Tree

/-!
# Forests

A forest is the state in which trees are extended: every node is known by a number, and holds a
value, a link to its parent and the list of its children. The two kinds of link are kept apart,
and the operations keep them in step. What a plugin does between two operations is its own
affair: it is checked afterwards, by comparing child lists (`Snapshot`).

A forest does not rule out a cycle of links, since a root may be appended below itself. So what
follows links (`depth`, `outline`) goes no further than there are nodes.
-/

set_option autoImplicit false

namespace SchemaGen

/-- The number of a node. -/
abbrev NodeId := Tree.Id

/-- A node of a forest. -/
structure Entry (α : Type) where
  id : NodeId
  value : α
  parent : Option NodeId := none
  children : List NodeId := []
deriving Repr, Inhabited

/-- Nodes by number. -/
structure Forest (α : Type) where
  entries : List (Entry α) := []
  /-- The number that the next node gets. -/
  next : NodeId := 0
deriving Repr, Inhabited

/-- A value in its place: the node that holds it, and how many ancestors that node has. -/
structure Placed (α : Type) extends Tree.Numbered α where
  depth : Nat
deriving Repr, Inhabited

namespace Forest

variable {α : Type}

/-! ## Reading -/

/-- The node of a number. -/
def find? (f : Forest α) (id : NodeId) : Option (Entry α) :=
  f.entries.find? (·.id = id)

/-- The value at a node. -/
def value? (f : Forest α) (id : NodeId) : Option α :=
  (f.find? id).map (·.value)

/-- The parent of a node. -/
def parent? (f : Forest α) (id : NodeId) : Option NodeId :=
  (f.find? id).bind (·.parent)

/-- The children of a node, in order. -/
def children (f : Forest α) (id : NodeId) : List NodeId :=
  ((f.find? id).map (·.children)).getD []

/-- The number of ancestors, counting no more than `fuel`. -/
def depthWithin (f : Forest α) : (fuel : Nat) → NodeId → Nat
  | 0, _ => 0
  | fuel + 1, id =>
    match f.parent? id with
    | none => 0
    | some p => f.depthWithin fuel p + 1

/-- The number of ancestors of a node. -/
def depth (f : Forest α) (id : NodeId) : Nat :=
  f.depthWithin f.entries.length id

/-- The tree below a node, no higher than `fuel`. -/
def outlineWithin (f : Forest α) : (fuel : Nat) → NodeId → Option (Tree (Placed α))
  | 0, _ => none
  | fuel + 1, id =>
    (f.find? id).map fun e =>
      .node { id, value := e.value, depth := f.depth id }
        (e.children.filterMap (f.outlineWithin fuel))

/-- The tree below a node, with the place of every node in the forest. -/
def outline? (f : Forest α) (id : NodeId) : Option (Tree (Placed α)) :=
  f.outlineWithin f.entries.length id

/-- The nodes at and below a node, every node before its descendants. -/
def walk (f : Forest α) (id : NodeId) : List (Placed α) :=
  ((f.outline? id).map Tree.labels).getD []

/-! ## Changing -/

/-- Changes one node. -/
def update (f : Forest α) (id : NodeId) (change : Entry α → Entry α) : Forest α :=
  { f with entries := f.entries.map fun e => if e.id = id then change e else e }

/-- Makes `child` the last child of `parent`. -/
def link (f : Forest α) (parent child : NodeId) : Forest α :=
  (f.update child ({ · with parent := some parent })).update parent
    fun e => { e with children := e.children ++ [child] }

/-- A new node that holds `value`, as the last child of `parent` if there is such a node. -/
def create (f : Forest α) (parent : Option NodeId) (value : α) : Forest α × NodeId :=
  let id := f.next
  let f : Forest α := { entries := f.entries ++ [{ id, value }], next := id + 1 }
  match parent with
  | some p => (f.link p id, id)
  | none => (f, id)

/-- Forgets all links of a node; the nodes it was linked to keep theirs. -/
def isolate (f : Forest α) (id : NodeId) : Forest α :=
  f.update id fun e => { e with parent := none, children := [] }

/-- Replaces the child list of a node. -/
def setChildren (f : Forest α) (id : NodeId) (children : List NodeId) : Forest α :=
  f.update id ({ · with children })

/-! ## Reordering -/

/-- Why a list of nodes is no reordering. -/
inductive ReorderProblem where
  | count
  | foreign (id : NodeId)
deriving Repr, DecidableEq

/-- The first entry of a list that is not among those still `available`, each of which is used
up by one occurrence. -/
def firstForeign? : (available ordered : List NodeId) → Option NodeId
  | _, [] => none
  | available, c :: rest =>
    if available.contains c then firstForeign? (available.erase c) rest else some c

/-- Replaces the child list of a node by a list that must be a permutation of it. -/
def reorder (f : Forest α) (id : NodeId) (ordered : List NodeId) :
    Except ReorderProblem (Forest α) :=
  if ordered.length ≠ (f.children id).length then .error .count
  else match firstForeign? (f.children id) ordered with
    | some c => .error (.foreign c)
    | none => .ok (f.setChildren id ordered)

/-! ## Planting -/

mutual

/-- The nodes of a numbered tree, every node before its descendants. -/
def entriesOf (parent : Option NodeId) : Tree (Tree.Numbered α) → List (Entry α)
  | .node l cs =>
    { id := l.id, value := l.value, parent, children := cs.map (·.label.id) }
      :: entriesOfAll (some l.id) cs

/-- The nodes of several numbered trees. -/
def entriesOfAll (parent : Option NodeId) : List (Tree (Tree.Numbered α)) → List (Entry α)
  | [] => []
  | t :: ts => entriesOf parent t ++ entriesOfAll parent ts

end

/-- Adds the nodes of a numbered tree whose numbers are new. -/
def plant (f : Forest α) (t : Tree (Tree.Numbered α)) : Forest α :=
  { entries := f.entries ++ entriesOf none t, next := max f.next t.bound }

/-! ## Snapshots -/

/-- The child lists of a tree at some moment. -/
abbrev Snapshot := List (NodeId × List NodeId)

/-- The child lists of the nodes at and below a node. -/
def snapshot (f : Forest α) (id : NodeId) : Snapshot :=
  (f.walk id).map fun p => (p.id, f.children p.id)

/-- How a node has broken the promise to keep the children it had. -/
inductive Loss where
  | removed (id : NodeId)
  | reordered (id : NodeId)
deriving Repr, DecidableEq

/-- What the node of a snapshot entry has lost since: its children then must be the first of its
children now. -/
def lossAt? (f : Forest α) (entry : NodeId × List NodeId) : Option Loss :=
  if (f.children entry.1).length < entry.2.length then some (.removed entry.1)
  else if entry.2.isPrefixOf (f.children entry.1) then none
  else some (.reordered entry.1)

/-- The first loss since a snapshot, if any. -/
def loss? (f : Forest α) (s : Snapshot) : Option Loss :=
  s.findSome? f.lossAt?

end Forest

end SchemaGen
