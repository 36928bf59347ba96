import SchemaGen.Declaration.Order
import SchemaGen.Definition.Render

/-!
# The two forests

The state that plugins extend: the declarations and the definitions of a code unit. Nodes of the
two forests are numbered apart. A change that is refused leaves the world as it was.
-/

set_option autoImplicit false

namespace SchemaGen

/-- Declarations and definitions. -/
structure World where
  decls : Forest Decl := {}
  defns : Forest Defn := {}
deriving Inhabited

/-- What was done to a world, and whether it went well. What a failed action did before it failed
stays done. -/
abbrev Act := World × Except Fault Unit

namespace World

/-! ## Appending -/

/-- Makes a declaration that stands alone the last child of another. Without a target there is
nothing to link to. -/
def append (w : World) (target child : Option NodeId) : Act :=
  match child with
  | none => (w, .error (.appendNothing .declaration))
  | some c =>
    if (w.decls.parent? c).isSome then (w, .error (.appendAttached (declName w.decls c)))
    else match target with
      | some t => ({ w with decls := w.decls.link t c }, .ok ())
      | none => (w, .ok ())

/-- Makes a definition that stands alone the last child of another. It must point at a
declaration. -/
def appendDefn (w : World) (target child : Option NodeId) : Act :=
  match child with
  | none => (w, .error (.appendNothing .implementation))
  | some c =>
    if ((w.defns.value? c).bind Defn.decl?).isNone then (w, .error .appendUnjustified)
    else if (w.defns.parent? c).isSome then (w, .error .appendAttachedDefinition)
    else match target with
      | some t => ({ w with defns := w.defns.link t c }, .ok ())
      | none => (w, .ok ())

/-! ## Reordering -/

/-- Gives a declaration its children in a new order. -/
def reorderChildren (w : World) (node : NodeId) (ordered : List NodeId) : Act :=
  match w.decls.reorder node ordered with
  | .ok decls => ({ w with decls }, .ok ())
  | .error .count => (w, .error (.reorderCount (declName w.decls node)))
  | .error (.foreign c) => (w, .error (.reorderForeign (declName w.decls node) (declName w.decls c)))

/-- The declarations below a node, without numbers and places. -/
def declTree? (w : World) (node : NodeId) : Option (Tree Decl) :=
  (w.decls.outline? node).map (Tree.map (·.value))

/-- The words that a declaration mentions. -/
def mentionsOf (w : World) (node : NodeId) : List String :=
  ((w.declTree? node).map mentions).getD []

/-- A declaration as a sibling of others. -/
def siblingAt (w : World) (node : NodeId) : Sibling where
  name := declName w.decls node
  mentions := w.mentionsOf node

/-- Puts the children of a declaration in the order that their mentions ask for. -/
def sortChildren (w : World) (node : NodeId) : World × Report Unit :=
  let children := w.decls.children node
  match dependencyOrder (children.map w.siblingAt) with
  | .error fault => (w, .fail fault)
  | .ok places =>
    let ordered := pick children places
    let (w', result) := w.reorderChildren node ordered
    (w', (Report.say (.declarationsOrdered (declName w.decls node) ordered.length)).andThen
      fun _ => .ofResult result)

/-! ## Snapshots -/

/-- The fault of a declaration that lost children since a snapshot, if one did. -/
def declLoss? (w : World) (s : Forest.Snapshot) : Option Fault :=
  let describe id := ((w.decls.value? id).map Decl.describe).getD ""
  (w.decls.loss? s).map fun
    | .removed id => .childrenRemoved .declaration (describe id)
    | .reordered id => .childrenReordered .declaration (describe id)

/-- The fault of a definition that lost children since a snapshot, if one did. -/
def defnLoss? (w : World) (s : Forest.Snapshot) : Option Fault :=
  let describe id :=
    (((w.defns.value? id).bind Defn.decl?).bind fun d =>
      (w.decls.value? d).map Decl.describe).getD ""
  (w.defns.loss? s).map fun
    | .removed id => .childrenRemoved .implementation (describe id)
    | .reordered id => .childrenReordered .implementation (describe id)

/-! ## Function bodies -/

mutual

/-- The function bodies of a tree; a body inside a body is not looked for. -/
def functionsIn : Tree (Placed Defn) → List (Placed Defn)
  | .node p children => if p.value.isFunction then [p] else functionsInAll children

/-- The function bodies of several trees. -/
def functionsInAll : List (Tree (Placed Defn)) → List (Placed Defn)
  | [] => []
  | t :: ts => functionsIn t ++ functionsInAll ts

end

/-- The function bodies at and below a node. -/
def functionsBelow (w : World) (node : NodeId) : List (Placed Defn) :=
  ((w.defns.outline? node).map functionsIn).getD []

mutual

/-- The classes of a tree; a class inside a class is not looked for. -/
def classesIn : Tree (Placed Decl) → List (Placed Decl)
  | .node p children => if p.value.struct?.isSome then [p] else classesInAll children

/-- The classes of several trees. -/
def classesInAll : List (Tree (Placed Decl)) → List (Placed Decl)
  | [] => []
  | t :: ts => classesIn t ++ classesInAll ts

end

/-- The classes at and below a node. -/
def classesBelow (w : World) (node : NodeId) : List (Placed Decl) :=
  ((w.decls.outline? node).map classesIn).getD []

end World

end SchemaGen
