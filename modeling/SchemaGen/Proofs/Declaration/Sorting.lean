import SchemaGen.Proofs.Declaration.Precedence
import SchemaGen.Proofs.Forest.Outline
import SchemaGen.Proofs.Forest.Reorder
import SchemaGen.Proofs.Text.WholeWord
import SchemaGen.World

/-!
# Sorting declarations

Declarations are put in order in two places: the ones of a schema before they are numbered
(`orderTrees`), and the children of a node of a forest (`World.sortChildren`). Both compute a
sibling for each declaration and hand the list to `dependencyOrder`. Here the graph of
`SchemaGen.Proofs.Declaration.Precedence` is said in terms of the declarations themselves: an edge
leads from a declaration with a name to every sibling that has this name as a whole word in a
signature, its own or that of anything below it.

In a forest "below" is what child links lead to. No hypothesis says that the links are those of a
tree, and none is needed: an outline shows all that is below a node in any case.
-/

set_option autoImplicit false

namespace SchemaGen

open SchemaGen.Text (WholeWord mem_identifiers_iff)

/-! ## Mentions -/

/-- A declaration mentions a name if some signature in it has the name as a whole word. -/
def MentionsName (t : Tree Decl) (name : String) : Prop :=
  ∃ d ∈ t.labels, WholeWord name d.signature

theorem mem_mentions_iff {t : Tree Decl} {name : String} :
    name ∈ mentions t ↔ MentionsName t name := by
  unfold mentions MentionsName
  simp only [List.mem_flatMap, mem_identifiers_iff]

theorem waitsFor_eq_true_iff {a b : Sibling} :
    b.waitsFor a = true ↔ a.name ≠ "" ∧ a.name ∈ b.mentions := by
  simp [Sibling.waitsFor]

/-- The edges among the declarations of a scope. -/
def MustPrecede (trees : List (Tree Decl)) (j i : Nat) : Prop :=
  j ≠ i ∧ ∃ a b, trees[j]? = some a ∧ trees[i]? = some b ∧
    a.label.name ≠ "" ∧ MentionsName b a.label.name

/-- The graph of a list of things that are seen as siblings. -/
theorem precedes_map_iff {α : Type} {sibling : α → Sibling} {things : List α} {j i : Nat} :
    Precedes (things.map sibling) j i ↔
      j ≠ i ∧ ∃ a b, things[j]? = some a ∧ things[i]? = some b ∧
        (sibling a).name ≠ "" ∧ (sibling a).name ∈ (sibling b).mentions := by
  simp only [Precedes, List.getElem?_map, Option.map_eq_some_iff]
  constructor
  · rintro ⟨hne, _, _, ⟨a, ha, rfl⟩, ⟨b, hb, rfl⟩, hwait⟩
    exact ⟨hne, a, b, ha, hb, waitsFor_eq_true_iff.mp hwait⟩
  · rintro ⟨hne, a, b, ha, hb, hwait⟩
    exact ⟨hne, _, _, ⟨a, ha, rfl⟩, ⟨b, hb, rfl⟩, waitsFor_eq_true_iff.mpr hwait⟩

theorem precedes_ofTree (trees : List (Tree Decl)) :
    Precedes (trees.map Sibling.ofTree) = MustPrecede trees := by
  funext j i
  rw [eq_iff_iff, precedes_map_iff]
  simp only [MustPrecede, Sibling.ofTree, mem_mentions_iff]

/-! ## Mentions in a forest -/

namespace World

/-- A node mentions a name if a declaration at or below it does in its signature. -/
def MentionsName (w : World) (node : NodeId) (name : String) : Prop :=
  ∃ id d, w.decls.Below node id ∧ w.decls.value? id = some d ∧ WholeWord name d.signature

theorem mem_mentionsOf_iff {w : World} {node : NodeId} {name : String} :
    name ∈ w.mentionsOf node ↔ w.MentionsName node name := by
  have houtline : name ∈ w.mentionsOf node ↔ ∃ t, w.decls.outline? node = some t ∧
      ∃ p ∈ t.labels, WholeWord name p.value.signature := by
    unfold mentionsOf declTree?
    cases w.decls.outline? node with
    | none => simp
    | some t =>
      simp [mentions, Tree.labels_map, List.flatMap_map, mem_identifiers_iff]
  rw [houtline]
  constructor
  · rintro ⟨t, ht, p, hp, hword⟩
    obtain ⟨hbelow, hvalue⟩ := Forest.mem_outline_iff.mp ⟨t, ht, p, hp, rfl, rfl⟩
    exact ⟨p.id, p.value, hbelow, hvalue, hword⟩
  · rintro ⟨id, d, hbelow, hvalue, hword⟩
    obtain ⟨t, ht, p, hp, -, rfl⟩ := Forest.mem_outline_iff.mpr ⟨hbelow, hvalue⟩
    exact ⟨t, ht, p, hp, hword⟩

/-- The edges among the children of a node, by their places in its child list. -/
def MustPrecede (w : World) (node : NodeId) (j i : Nat) : Prop :=
  j ≠ i ∧ ∃ a b, (w.decls.children node)[j]? = some a ∧ (w.decls.children node)[i]? = some b ∧
    declName w.decls a ≠ "" ∧ w.MentionsName b (declName w.decls a)

theorem precedes_siblingAt (w : World) (node : NodeId) :
    Precedes ((w.decls.children node).map w.siblingAt) = w.MustPrecede node := by
  funext j i
  rw [eq_iff_iff, precedes_map_iff]
  simp only [MustPrecede, siblingAt, mem_mentionsOf_iff]

end World

/-! ## Sorted lists -/

/-- A list in another order, in which every edge between old places leads forward. -/
def SortedFrom {α : Type} (before : Nat → Nat → Prop) (old new : List α) : Prop :=
  new.Perm old ∧ ∃ places, IsOrdering before old.length places ∧ new = pick old places

theorem sortedFrom_pick {α : Type} {before : Nat → Nat → Prop} {old : List α}
    {places : List Nat} (h : IsOrdering before old.length places) :
    SortedFrom before old (pick old places) :=
  ⟨pick_perm h.perm, places, h, rfl⟩

/-- The edges that a relation among things gives among their places in a list. -/
def EdgesOf {α : Type} (r : α → α → Prop) (things : List α) (j i : Nat) : Prop :=
  j ≠ i ∧ ∃ a b, things[j]? = some a ∧ things[i]? = some b ∧ r a b

/-- In a sorted list the edges lead forward between the new places, too. -/
theorem SortedFrom.lt_of_edge {α : Type} {r : α → α → Prop} {old new : List α}
    (h : SortedFrom (EdgesOf r old) old new) {j i : Nat} (hji : EdgesOf r new j i) : j < i := by
  obtain ⟨-, places, hplaces, rfl⟩ := h
  have hbound : ∀ p ∈ places, p < old.length := fun p hp =>
    List.mem_range.mp (hplaces.perm.mem_iff.mp hp)
  obtain ⟨hne, a, b, ha, hb, hab⟩ := hji
  rw [getElem?_pick hbound] at ha hb
  obtain ⟨p, hp, ha⟩ := Option.bind_eq_some_iff.mp ha
  obtain ⟨q, hq, hb⟩ := Option.bind_eq_some_iff.mp hb
  refine hplaces.lt_of_before hp hq ⟨fun hpq => hne ?_, a, b, ha, hb, hab⟩
  -- one place of the old list has one place in the new one
  have hnodup : places.Nodup := hplaces.perm.nodup_iff.mpr List.nodup_range
  obtain ⟨hjlt, rfl⟩ := List.getElem?_eq_some_iff.mp hp
  obtain ⟨hilt, rfl⟩ := List.getElem?_eq_some_iff.mp hq
  exact (hnodup.getElem_inj_iff).mp hpq

/-! ## The declarations of a scope -/

theorem orderTrees_result (scope : String) (trees : List (Tree Decl)) :
    (orderTrees scope trees).result =
      (dependencyOrder (trees.map .ofTree)).map (pick trees) := by
  unfold orderTrees
  cases dependencyOrder (trees.map Sibling.ofTree) <;> rfl

theorem orderTrees_eq_ok_iff {scope : String} {trees ordered : List (Tree Decl)} :
    (orderTrees scope trees).result = .ok ordered ↔
      ∃ places, dependencyOrder (trees.map .ofTree) = .ok places ∧ ordered = pick trees places := by
  rw [orderTrees_result]
  cases dependencyOrder (trees.map Sibling.ofTree) <;> simp [Except.map, eq_comm]

theorem exists_orderTrees_iff {scope : String} {trees : List (Tree Decl)} :
    (∃ ordered, (orderTrees scope trees).result = .ok ordered) ↔ Acyclic (MustPrecede trees) := by
  rw [← precedes_ofTree, ← exists_dependencyOrder_iff]
  constructor
  · rintro ⟨ordered, h⟩
    obtain ⟨places, hplaces, -⟩ := orderTrees_eq_ok_iff.mp h
    exact ⟨places, hplaces⟩
  · rintro ⟨places, hplaces⟩
    exact ⟨_, orderTrees_eq_ok_iff.mpr ⟨places, hplaces, rfl⟩⟩

theorem sortedFrom_of_orderTrees {scope : String} {trees ordered : List (Tree Decl)}
    (h : (orderTrees scope trees).result = .ok ordered) :
    SortedFrom (MustPrecede trees) trees ordered := by
  obtain ⟨places, hplaces, rfl⟩ := orderTrees_eq_ok_iff.mp h
  have hordering := isOrdering_of_dependencyOrder hplaces
  rw [List.length_map] at hordering
  rw [← precedes_ofTree]
  exact sortedFrom_pick hordering

/-- Among ordered declarations, whatever one of them mentions stands before it. -/
theorem lt_of_mustPrecede_ordered {scope : String} {trees ordered : List (Tree Decl)}
    (h : (orderTrees scope trees).result = .ok ordered) {j i : Nat}
    (hji : MustPrecede ordered j i) : j < i := by
  have hsorted : SortedFrom (EdgesOf _ trees) trees ordered := sortedFrom_of_orderTrees h
  exact hsorted.lt_of_edge hji

/-! ## The children of a node -/

namespace World

/-- Two worlds that differ in the child list of one declaration at most. -/
structure SameBut (node : NodeId) (w w' : World) : Prop where
  others : ∀ id, id ≠ node → w'.decls.find? id = w.decls.find? id
  value : w'.decls.value? node = w.decls.value? node
  parent : w'.decls.parent? node = w.decls.parent? node
  defns : w'.defns = w.defns

theorem reorderChildren_of_perm {w : World} {node : NodeId} {ordered : List NodeId}
    (h : ordered.Perm (w.decls.children node)) :
    w.reorderChildren node ordered =
      ({ w with decls := w.decls.setChildren node ordered }, .ok ()) := by
  unfold reorderChildren
  rw [Forest.reorder_eq_ok_iff.mpr ⟨h, rfl⟩]

theorem sameBut_setChildren (w : World) (node : NodeId) (ordered : List NodeId) :
    SameBut node w { w with decls := w.decls.setChildren node ordered } where
  others _ hne := Forest.find?_setChildren_of_ne hne
  value := Forest.value?_setChildren
  parent := Forest.parent?_setChildren
  defns := rfl

theorem sortChildren_of_order {w : World} {node : NodeId} {places : List Nat}
    (h : dependencyOrder ((w.decls.children node).map w.siblingAt) = .ok places) :
    (w.sortChildren node).2.result = .ok () ∧ (w.sortChildren node).1 =
      { w with decls := w.decls.setChildren node (pick (w.decls.children node) places) } := by
  have hordering := isOrdering_of_dependencyOrder h
  rw [List.length_map] at hordering
  have hreorder := reorderChildren_of_perm (pick_perm hordering.perm)
  have hsort : w.sortChildren node =
      ({ w with decls := w.decls.setChildren node (pick (w.decls.children node) places) },
        (Report.say (.declarationsOrdered (declName w.decls node)
          (pick (w.decls.children node) places).length)).andThen fun _ => .ofResult (.ok ())) := by
    unfold sortChildren
    simp only [h, hreorder]
  rw [hsort]
  exact ⟨rfl, rfl⟩

theorem exists_order_of_sortChildren {w : World} {node : NodeId}
    (h : (w.sortChildren node).2.result = .ok ()) :
    ∃ places, dependencyOrder ((w.decls.children node).map w.siblingAt) = .ok places := by
  unfold sortChildren at h
  cases horder : dependencyOrder ((w.decls.children node).map w.siblingAt) with
  | error fault => simp [horder] at h
  | ok places => exact ⟨places, rfl⟩

theorem sortChildren_eq_ok_iff {w : World} {node : NodeId} :
    (w.sortChildren node).2.result = .ok () ↔ Acyclic (w.MustPrecede node) := by
  rw [← precedes_siblingAt, ← exists_dependencyOrder_iff]
  exact ⟨exists_order_of_sortChildren, fun ⟨_, h⟩ => (sortChildren_of_order h).1⟩

theorem sortedFrom_of_sortChildren {w : World} {node : NodeId}
    (h : (w.sortChildren node).2.result = .ok ()) :
    SortedFrom (w.MustPrecede node) (w.decls.children node)
        ((w.sortChildren node).1.decls.children node) ∧
      SameBut node w (w.sortChildren node).1 := by
  obtain ⟨places, hplaces⟩ := exists_order_of_sortChildren h
  have hordering := isOrdering_of_dependencyOrder hplaces
  rw [List.length_map, precedes_siblingAt] at hordering
  rw [(sortChildren_of_order hplaces).2]
  refine ⟨?_, sameBut_setChildren w node _⟩
  rw [show ({ w with decls := w.decls.setChildren node _ } : World).decls.children node = _ from
    Forest.children_setChildren_self (pick_perm hordering.perm)]
  exact sortedFrom_pick hordering

end World

/-- **Sorting puts what is mentioned first, or there is a cycle of mentions.** For the children of
any node of a forest, and for the declarations of a scope: sorting succeeds exactly if the graph of
mentions has no cycle. Then the new list is a permutation of the old one in which every edge leads
forward, and nothing else has changed. -/
theorem sorting_puts_mentioned_first :
    (∀ (w : World) (node : NodeId),
      ((w.sortChildren node).2.result = .ok () ↔ Acyclic (w.MustPrecede node)) ∧
      ((w.sortChildren node).2.result = .ok () →
        SortedFrom (w.MustPrecede node) (w.decls.children node)
            ((w.sortChildren node).1.decls.children node) ∧
          World.SameBut node w (w.sortChildren node).1)) ∧
    (∀ (scope : String) (trees : List (Tree Decl)),
      ((∃ ordered, (orderTrees scope trees).result = .ok ordered) ↔ Acyclic (MustPrecede trees)) ∧
      ∀ ordered, (orderTrees scope trees).result = .ok ordered →
        SortedFrom (MustPrecede trees) trees ordered) :=
  ⟨fun _ _ => ⟨World.sortChildren_eq_ok_iff, World.sortedFrom_of_sortChildren⟩,
    fun _ _ => ⟨exists_orderTrees_iff, fun _ => sortedFrom_of_orderTrees⟩⟩

/-- A class whose member has the type of a later class is put behind it. -/
theorem sorting_puts_mentioned_first_nested :
    SortedFrom
      (MustPrecede [.node (.struct { name := "Outer" }) [.leaf (.stored "inner" "Inner")],
        .leaf (.struct { name := "Inner" })])
      [Tree.node (Decl.struct { name := "Outer" }) [.leaf (.stored "inner" "Inner")],
        .leaf (.struct { name := "Inner" })]
      [Tree.leaf (Decl.struct { name := "Inner" }),
        .node (.struct { name := "Outer" }) [.leaf (.stored "inner" "Inner")]] := by
  have hordered : (orderTrees "S"
      [.node (.struct { name := "Outer" }) [.leaf (.stored "inner" "Inner")],
        .leaf (.struct { name := "Inner" })]).result =
      .ok [.leaf (.struct { name := "Inner" }),
        .node (.struct { name := "Outer" }) [.leaf (.stored "inner" "Inner")]] := by
    rfl
  exact (sorting_puts_mentioned_first.2 "S" _).2 _ hordered

end SchemaGen
