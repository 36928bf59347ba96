import SchemaGen.Proofs.Declaration.Sorting
import SchemaGen.Proofs.Forest.Edits

/-!
# Children in a new order, or a refusal

A list is taken for the new child list of a declaration if it is a permutation of the old one, and
refused otherwise. To tell, its length is compared, and then every entry uses up one occurrence
among the children. What an entry still finds there is what the entries before it have left, and
counting says how much that is: an entry is refused if the entries before it are as many of its kind
as there are children of its kind (`FirstExcess`). So a child that is named twice is refused at its
second occurrence, and a stranger at its first.

Whatever the answer, a child list is all that may change, and only that of the node itself.
-/

set_option autoImplicit false

namespace SchemaGen

namespace Forest

variable {α : Type} {f : Forest α} {id : NodeId} {available ordered : List NodeId} {c x : NodeId}

/-! ## The first entry too many -/

/-- The first entry of a list that the `available` nodes have no occurrence left for: those before
it are all covered, and together they have used up every occurrence of it. -/
def FirstExcess (available ordered : List NodeId) (c : NodeId) : Prop :=
  ∃ before after, ordered = before ++ c :: after ∧
    (∀ d, before.count d ≤ available.count d) ∧ before.count c = available.count c

theorem not_firstExcess_nil : ¬ FirstExcess available [] c := by
  rintro ⟨before, after, h, -⟩
  exact List.cons_ne_nil _ _ (List.append_eq_nil_iff.mp h.symm).2

/-- An entry with no occurrence at all is the first one too many itself. -/
theorem firstExcess_cons_of_not_mem {rest : List NodeId} (hx : x ∉ available) :
    FirstExcess available (x :: rest) c ↔ x = c := by
  have hnone : available.count x = 0 := List.count_eq_zero.mpr hx
  constructor
  · rintro ⟨before, after, h, hcovered, -⟩
    cases before with
    | nil => exact (List.cons.inj h).1
    | cons y before =>
      obtain ⟨rfl, -⟩ := List.cons.inj h
      have hle := hcovered x
      rw [List.count_cons_self, hnone] at hle
      exact absurd hle (Nat.not_succ_le_zero _)
  · rintro rfl
    exact ⟨[], rest, rfl, fun _ => Nat.zero_le _, hnone.symm⟩

/-- An entry with an occurrence uses it up and leaves the question to the rest. -/
theorem firstExcess_cons_of_mem {rest : List NodeId} (hx : x ∈ available) :
    FirstExcess available (x :: rest) c ↔ FirstExcess (available.erase x) rest c := by
  have hpos : 0 < available.count x := List.count_pos_iff.mpr hx
  have hcount (d : NodeId) (before : List NodeId) :
      ((x :: before).count d ≤ available.count d ↔
        before.count d ≤ (available.erase x).count d) ∧
      ((x :: before).count d = available.count d ↔
        before.count d = (available.erase x).count d) := by
    rw [List.count_cons, List.count_erase]
    by_cases hd : x = d
    · subst hd
      simp only [beq_self_eq_true, if_true]
      omega
    · simp [hd]
  constructor
  · rintro ⟨before, after, h, hcovered, hused⟩
    cases before with
    | nil =>
      obtain ⟨rfl, -⟩ := List.cons.inj h
      exact absurd hused.symm hpos.ne'
    | cons y before =>
      obtain ⟨rfl, hrest⟩ := List.cons.inj h
      exact ⟨before, after, hrest, fun d => (hcount d before).1.mp (hcovered d),
        (hcount c before).2.mp hused⟩
  · rintro ⟨before, after, rfl, hcovered, hused⟩
    exact ⟨x :: before, after, rfl, fun d => (hcount d before).1.mpr (hcovered d),
      (hcount c before).2.mpr hused⟩

/-- **What is found foreign is the first entry too many.** -/
theorem firstForeign?_eq_some_iff :
    firstForeign? available ordered = some c ↔ FirstExcess available ordered c := by
  induction ordered generalizing available with
  | nil => exact iff_of_false nofun not_firstExcess_nil
  | cons x rest ih =>
    rw [firstForeign?]
    by_cases hx : x ∈ available
    · rw [if_pos (by simpa using hx), ih, firstExcess_cons_of_mem hx]
    · rw [if_neg (by simpa using hx), firstExcess_cons_of_not_mem hx, Option.some.injEq]

theorem reorder_eq_count_iff :
    f.reorder id ordered = .error .count ↔ ordered.length ≠ (f.children id).length := by
  unfold reorder
  by_cases hlen : ordered.length = (f.children id).length
  · rw [if_neg (by simpa using hlen)]
    cases firstForeign? (f.children id) ordered <;> simp [hlen]
  · rw [if_pos hlen]
    exact iff_of_true rfl hlen

theorem reorder_eq_foreign_iff :
    f.reorder id ordered = .error (.foreign c) ↔
      ordered.length = (f.children id).length ∧ FirstExcess (f.children id) ordered c := by
  unfold reorder
  by_cases hlen : ordered.length = (f.children id).length
  · rw [if_neg (by simpa using hlen), ← firstForeign?_eq_some_iff, and_iff_right hlen]
    cases firstForeign? (f.children id) ordered <;> simp
  · rw [if_pos hlen]
    exact iff_of_false nofun fun h => hlen h.1

end Forest

/-! ## Reordering in a world -/

namespace World

variable {w w' : World} {node : NodeId} {ordered : List NodeId}

theorem SameBut.refl (node : NodeId) (w : World) : SameBut node w w where
  others _ _ := rfl
  value := rfl
  parent := rfl
  defns := rfl

theorem SameBut.parent?_eq (h : SameBut node w w') (id : NodeId) :
    w'.decls.parent? id = w.decls.parent? id := by
  by_cases hid : id = node
  · rw [hid, h.parent]
  · rw [Forest.parent?, Forest.parent?, h.others id hid]

theorem SameBut.children_eq (h : SameBut node w w') {id : NodeId} (hid : id ≠ node) :
    w'.decls.children id = w.decls.children id := by
  rw [Forest.children, Forest.children, h.others id hid]

theorem sameBut_reorderChildren (w : World) (node : NodeId) (ordered : List NodeId) :
    SameBut node w (w.reorderChildren node ordered).1 := by
  rcases w.reorderChildren_cases node ordered with ⟨fault, hact⟩ | ⟨-, hact⟩ <;> rw [hact]
  · exact .refl node w
  · exact sameBut_setChildren w node ordered

/-- How an order is refused: it has the wrong length, or the right one and an entry too many. -/
inductive RefusesOrder (w : World) (node : NodeId) (ordered : List NodeId) : Fault → Prop where
  | count (hlen : ordered.length ≠ (w.decls.children node).length) :
    RefusesOrder w node ordered (.reorderCount (declName w.decls node))
  | foreign {c : NodeId} (hlen : ordered.length = (w.decls.children node).length)
      (hexcess : Forest.FirstExcess (w.decls.children node) ordered c) :
    RefusesOrder w node ordered (.reorderForeign (declName w.decls node) (declName w.decls c))

theorem RefusesOrder.code_eq {fault : Fault} (h : w.RefusesOrder node ordered fault) :
    fault.code = some .internal := by
  cases h <;> rfl

theorem reorderChildren_eq_ok_iff :
    (w.reorderChildren node ordered).2 = .ok () ↔ ordered.Perm (w.decls.children node) := by
  constructor
  · intro h
    rcases w.reorderChildren_cases node ordered with ⟨fault, hact⟩ | ⟨hperm, -⟩
    · rw [hact] at h
      cases h
    · exact hperm
  · intro hperm
    rw [reorderChildren_of_perm hperm]

theorem children_reorderChildren (h : (w.reorderChildren node ordered).2 = .ok ()) :
    (w.reorderChildren node ordered).1.decls.children node = ordered := by
  have hperm := reorderChildren_eq_ok_iff.mp h
  rw [reorderChildren_of_perm hperm]
  exact Forest.children_setChildren_self hperm

theorem refusesOrder_of_reorderChildren {fault : Fault}
    (h : (w.reorderChildren node ordered).2 = .error fault) :
    (w.reorderChildren node ordered).1 = w ∧ w.RefusesOrder node ordered fault := by
  unfold reorderChildren at h ⊢
  cases hreorder : w.decls.reorder node ordered with
  | ok decls =>
    rw [hreorder] at h
    cases h
  | error problem =>
    rw [hreorder] at h
    cases problem with
    | count =>
      cases h
      exact ⟨rfl, .count (Forest.reorder_eq_count_iff.mp hreorder)⟩
    | foreign c =>
      cases h
      obtain ⟨hlen, hexcess⟩ := Forest.reorder_eq_foreign_iff.mp hreorder
      exact ⟨rfl, .foreign hlen hexcess⟩

end World

/-- **Permutations of the children are accepted, and nothing else is.** An order for the children of
a declaration is accepted exactly if it has the same nodes, each as often. Then it is the child
list. Otherwise there is an internal fault, which says that the length is wrong or names the first
entry too many, and the world is as it was. In either case no node has another parent, and no other
node has other children. -/
theorem reordering_takes_permutations (w : World) (node : NodeId) (ordered : List NodeId) :
    let done := w.reorderChildren node ordered
    (done.2 = .ok () ↔ ordered.Perm (w.decls.children node)) ∧
    (done.2 = .ok () → done.1.decls.children node = ordered) ∧
    (∀ fault, done.2 = .error fault →
      fault.code = some .internal ∧ w.RefusesOrder node ordered fault ∧ done.1 = w) ∧
    (∀ id, done.1.decls.parent? id = w.decls.parent? id) ∧
    ∀ id, id ≠ node → done.1.decls.children id = w.decls.children id := by
  have hsame := w.sameBut_reorderChildren node ordered
  refine ⟨World.reorderChildren_eq_ok_iff, World.children_reorderChildren, fun fault h => ?_,
    hsame.parent?_eq, fun id => hsame.children_eq⟩
  obtain ⟨hworld, hrefuses⟩ := World.refusesOrder_of_reorderChildren h
  exact ⟨hrefuses.code_eq, hrefuses, hworld⟩

/-- A namespace with two classes. -/
def pairWorld : World :=
  ({} : World).edited
    [.declare none (.scope "n"), .declare (some 0) (.struct { name := "A" }),
      .declare (some 0) (.struct { name := "B" })]

/-- The two classes can change places. If one of them is named twice instead, the list is refused
with an internal fault, and the child list is as it was. -/
theorem reordering_takes_permutations_pair :
    ((pairWorld.reorderChildren 0 [2, 1]).2 = .ok () ∧
      (pairWorld.reorderChildren 0 [2, 1]).1.decls.children 0 = [2, 1]) ∧
    ∃ fault, (pairWorld.reorderChildren 0 [1, 1]).2 = .error fault ∧
      fault.code = some .internal ∧
      (pairWorld.reorderChildren 0 [1, 1]).1.decls.children 0 = [1, 2] := by
  have hchildren : pairWorld.decls.children 0 = [1, 2] := rfl
  obtain ⟨hok, hread, -⟩ := reordering_takes_permutations pairWorld 0 [2, 1]
  obtain ⟨-, -, hrefused, -⟩ := reordering_takes_permutations pairWorld 0 [1, 1]
  have hswapped : (pairWorld.reorderChildren 0 [2, 1]).2 = .ok () :=
    hok.mpr (by rw [hchildren]; exact List.Perm.swap 1 2 [])
  have htwice : (pairWorld.reorderChildren 0 [1, 1]).2 = .error (.reorderForeign "n" "A") := rfl
  obtain ⟨hcode, -, hworld⟩ := hrefused _ htwice
  exact ⟨⟨hswapped, hread hswapped⟩, _, htwice, hcode, by rw [hworld, hchildren]⟩

end SchemaGen
