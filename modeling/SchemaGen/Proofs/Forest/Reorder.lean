import SchemaGen.Forest

/-!
# Reordering children

`Forest.reorder` takes a list for the new child list of a node if and only if it is a permutation
of the old one (`reorder_eq_ok_iff`), and a child list is all that it changes: every other node
keeps its entry (`find?_setChildren_of_ne`), and the node itself keeps its value and its parent
(`find?_setChildren_self`).
-/

set_option autoImplicit false

namespace SchemaGen.Forest

variable {α : Type}

/-! ## Changing one entry -/

/-- A change that keeps numbers is seen at its own node and nowhere else. -/
theorem find?_update {f : Forest α} {id other : NodeId} {change : Entry α → Entry α}
    (hid : ∀ e, (change e).id = e.id) :
    (f.update id change).find? other =
      (f.find? other).map fun e => if e.id = id then change e else e := by
  unfold find? update
  rw [List.find?_map]
  congr 1
  congr 1
  funext e
  simp only [Function.comp_apply]
  split
  · rw [hid]
  · rfl

theorem find?_setChildren_of_ne {f : Forest α} {id other : NodeId} {children : List NodeId}
    (hne : other ≠ id) : (f.setChildren id children).find? other = f.find? other := by
  unfold setChildren
  rw [find?_update (by intro e; rfl)]
  cases hf : f.find? other with
  | none => rfl
  | some e =>
    have he : e.id ≠ id := by
      have : e.id = other := by simpa using List.find?_some hf
      rw [this]
      exact hne
    simp [he]

theorem find?_setChildren_self {f : Forest α} {id : NodeId} {children : List NodeId} :
    (f.setChildren id children).find? id = (f.find? id).map ({ · with children }) := by
  unfold setChildren
  rw [find?_update (by intro e; rfl)]
  cases hf : f.find? id with
  | none => rfl
  | some e =>
    have he : e.id = id := by simpa using List.find?_some hf
    simp [he]

theorem value?_setChildren {f : Forest α} {id other : NodeId} {children : List NodeId} :
    (f.setChildren id children).value? other = f.value? other := by
  unfold value?
  by_cases h : other = id
  · subst h
    rw [find?_setChildren_self, Option.map_map]
    rfl
  · rw [find?_setChildren_of_ne h]

theorem parent?_setChildren {f : Forest α} {id other : NodeId} {children : List NodeId} :
    (f.setChildren id children).parent? other = f.parent? other := by
  unfold parent?
  by_cases h : other = id
  · subst h
    rw [find?_setChildren_self]
    cases f.find? other <;> rfl
  · rw [find?_setChildren_of_ne h]

/-- The new list is read back. A number without a node has no children, before and after. -/
theorem children_setChildren_self {f : Forest α} {id : NodeId} {children : List NodeId}
    (h : children.Perm (f.children id)) : (f.setChildren id children).children id = children := by
  unfold Forest.children at h ⊢
  rw [find?_setChildren_self]
  cases hf : f.find? id with
  | none =>
    rw [hf] at h
    exact (List.Perm.eq_nil h).symm
  | some e => rfl

/-- Every node keeps its children, in some order. -/
theorem children_setChildren_perm {f : Forest α} {id : NodeId} {ordered : List NodeId}
    (h : ordered.Perm (f.children id)) (other : NodeId) :
    ((f.setChildren id ordered).children other).Perm (f.children other) := by
  by_cases hother : other = id
  · rw [hother, children_setChildren_self h]
    exact h
  · rw [children, find?_setChildren_of_ne hother]
    exact List.Perm.refl _

/-! ## Permutations -/

/-- No entry of a list is foreign to another of its length exactly if it is a permutation of it. -/
theorem firstForeign?_eq_none_iff : ∀ {ordered available : List NodeId},
    ordered.length = available.length →
      (firstForeign? available ordered = none ↔ ordered.Perm available)
  | [], available, hlen => by
    have hnil : available = [] := List.length_eq_zero_iff.mp hlen.symm
    simp [firstForeign?, hnil]
  | c :: rest, available, hlen => by
    rw [firstForeign?]
    by_cases hc : c ∈ available
    · rw [if_pos (by simpa using hc)]
      have hlen' : rest.length = (available.erase c).length := by
        rw [List.length_erase_of_mem hc, ← hlen]
        rfl
      rw [firstForeign?_eq_none_iff hlen']
      exact List.cons_perm_iff_perm_erase.trans ⟨fun h => h.2, fun h => ⟨hc, h⟩⟩ |>.symm
    · rw [if_neg (by simpa using hc)]
      simp only [reduceCtorEq, false_iff]
      intro hperm
      exact hc (hperm.subset List.mem_cons_self)

/-- **A list is accepted as a new order exactly if it is a permutation of the children.** -/
theorem reorder_eq_ok_iff {f f' : Forest α} {id : NodeId} {ordered : List NodeId} :
    f.reorder id ordered = .ok f' ↔
      ordered.Perm (f.children id) ∧ f' = f.setChildren id ordered := by
  unfold reorder
  by_cases hlen : ordered.length = (f.children id).length
  · rw [if_neg (by simpa using hlen)]
    have hforeign := firstForeign?_eq_none_iff hlen
    cases h : firstForeign? (f.children id) ordered with
    | none => simp [hforeign.mp h, eq_comm]
    | some c =>
      have hnot : ¬ ordered.Perm (f.children id) := fun hperm => by
        rw [hforeign.mpr hperm] at h
        cases h
      simp [hnot]
  · rw [if_pos hlen]
    simp only [reduceCtorEq, false_iff]
    rintro ⟨hperm, -⟩
    exact hlen hperm.length_eq

end SchemaGen.Forest
