import SchemaGen.Proofs.Forest.Reorder
import SchemaGen.Proofs.Forest.Shows

/-!
# New nodes

A new node gets a number that no node has and no link leads to (`Forest.WellNumbered`). So all that
is known of the other nodes stays as it was, and of the new one it is known that it has a value and
its parent (`find?_adopt`).
-/

set_option autoImplicit false

namespace SchemaGen.Forest

variable {α : Type}

/-- All numbers that a forest refers to are below the one that the next node gets. -/
structure WellNumbered (f : Forest α) : Prop where
  ids : ∀ e ∈ f.entries, e.id < f.next
  children : ∀ e ∈ f.entries, ∀ c ∈ e.children, c < f.next

/-- The forest with a new node, the last child of another. -/
def adopt (f : Forest α) (parent : NodeId) (value : α) : Forest α :=
  (f.create none value).1.link parent f.next

theorem WellNumbered.find?_next {f : Forest α} (h : f.WellNumbered) : f.find? f.next = none := by
  rw [find?, List.find?_eq_none]
  intro e he hid
  exact Nat.ne_of_lt (h.ids e he) (of_decide_eq_true hid)

theorem WellNumbered.lt_next {f : Forest α} (h : f.WellNumbered) {id : NodeId} {v : α}
    (hv : f.value? id = some v) : id < f.next := by
  obtain ⟨e, he, -⟩ := exists_find?_of_value? hv
  exact find?_id he ▸ h.ids e (List.mem_of_find?_eq_some he)

theorem find?_create (f : Forest α) (value : α) (id : NodeId) :
    (f.create none value).1.find? id =
      (f.find? id).or (if f.next = id then some { id := f.next, value } else none) := by
  rw [create, find?, List.find?_append, find?]
  congr 1
  rw [List.find?_singleton]
  simp

theorem find?_adopt {f : Forest α} (h : f.WellNumbered) {parent : NodeId}
    (hparent : parent < f.next) (value : α) (id : NodeId) :
    (f.adopt parent value).find? id =
      if id = f.next then some { id := f.next, value, parent := some parent }
      else (f.find? id).map fun e =>
        if id = parent then { e with children := e.children ++ [f.next] } else e := by
  rw [adopt, link, find?_update (by intro e; rfl), find?_update (by intro e; rfl), find?_create]
  by_cases hid : id = f.next
  · rw [hid, h.find?_next]
    simp [Nat.ne_of_gt hparent]
  · rw [if_neg hid, if_neg (Ne.symm hid), Option.or_none, Option.map_map]
    refine Option.map_congr fun e he => ?_
    have hne : e.id ≠ f.next := by rw [find?_id he]; exact hid
    rw [Function.comp_apply, if_neg hne, find?_id he]

theorem value?_adopt {f : Forest α} (h : f.WellNumbered) {parent : NodeId}
    (hparent : parent < f.next) (value : α) (id : NodeId) :
    (f.adopt parent value).value? id = if id = f.next then some value else f.value? id := by
  rw [value?, find?_adopt h hparent]
  split
  · rfl
  · rw [Option.map_map, value?]
    refine Option.map_congr fun e _ => ?_
    rw [Function.comp_apply]
    split <;> rfl

theorem children_adopt {f : Forest α} (h : f.WellNumbered) {parent : NodeId}
    (hparent : (f.value? parent).isSome) (value : α) (id : NodeId) :
    (f.adopt parent value).children id =
      f.children id ++ if id = parent then [f.next] else [] := by
  obtain ⟨v, hv⟩ := Option.isSome_iff_exists.mp hparent
  obtain ⟨e, he, -⟩ := exists_find?_of_value? hv
  have hlt := h.lt_next hv
  rw [children, find?_adopt h hlt, children]
  by_cases hnext : id = f.next
  · rw [hnext, h.find?_next, if_neg (Nat.ne_of_gt hlt)]
    simp
  · rw [if_neg hnext]
    by_cases hid : id = parent
    · simp [hid, he]
    · simp [hid]

theorem WellNumbered.update {f : Forest α} (h : f.WellNumbered) (id : NodeId)
    {change : Entry α → Entry α} (hid : ∀ e, (change e).id = e.id)
    (hchildren : ∀ e, ∀ c ∈ (change e).children, c ∈ e.children ∨ c < f.next) :
    (f.update id change).WellNumbered := by
  constructor
  · intro e' he'
    obtain ⟨e, he, rfl⟩ := List.mem_map.mp he'
    split
    · rw [hid]
      exact h.ids e he
    · exact h.ids e he
  · intro e' he' c hc
    obtain ⟨e, he, rfl⟩ := List.mem_map.mp he'
    split at hc
    · rcases hchildren e c hc with hc | hc
      · exact h.children e he c hc
      · exact hc
    · exact h.children e he c hc

theorem WellNumbered.create {f : Forest α} (h : f.WellNumbered) (value : α) :
    (f.create none value).1.WellNumbered := by
  constructor
  · intro e he
    rcases List.mem_append.mp he with he | he
    · exact Nat.lt_succ_of_lt (h.ids e he)
    · rw [List.mem_singleton.mp he]
      exact Nat.lt_succ_self _
  · intro e he c hc
    rcases List.mem_append.mp he with he | he
    · exact Nat.lt_succ_of_lt (h.children e he c hc)
    · rw [List.mem_singleton.mp he] at hc
      cases hc

theorem WellNumbered.adopt {f : Forest α} (h : f.WellNumbered) (parent : NodeId) (value : α) :
    (f.adopt parent value).WellNumbered := by
  unfold Forest.adopt link
  refine WellNumbered.update ?_ parent (fun _ => rfl) fun e c hc => ?_
  · exact (h.create value).update f.next (fun _ => rfl) fun _ _ hc => Or.inl hc
  rcases List.mem_append.mp hc with hc | hc
  · exact Or.inl hc
  · rw [List.mem_singleton.mp hc]
    exact Or.inr (Nat.lt_succ_self _)

theorem lt_foldl_bound (ls : List (Tree.Numbered α)) : ∀ start : NodeId,
    start ≤ ls.foldl (fun n l => max n (l.id + 1)) start ∧
      ∀ l ∈ ls, l.id < ls.foldl (fun n l => max n (l.id + 1)) start := by
  induction ls with
  | nil => exact fun start => ⟨Nat.le_refl start, fun l hl => by cases hl⟩
  | cons l' ls ih =>
    intro start
    obtain ⟨hstart, hrest⟩ := ih (max start (l'.id + 1))
    rw [List.foldl_cons]
    refine ⟨Nat.le_trans (Nat.le_max_left _ _) hstart, fun l hl => ?_⟩
    rcases List.mem_cons.mp hl with rfl | hl
    · exact Nat.lt_of_lt_of_le (Nat.le_max_right start (l.id + 1)) hstart
    · exact hrest l hl

theorem wellNumbered_plant (t : Tree (Tree.Numbered α)) :
    (({} : Forest α).plant t).WellNumbered := by
  have hbound : ∀ l ∈ t.labels, l.id < (({} : Forest α).plant t).next := fun l hl =>
    Nat.lt_of_lt_of_le ((lt_foldl_bound t.labels 0).2 l hl) (Nat.le_max_right _ _)
  have hentry : ∀ e ∈ (({} : Forest α).plant t).entries, ∃ u ∈ t.subtrees,
      (u.label.id, u.label.value, u.children.map (·.label.id)) = contents e := by
    intro e he
    have hmem : contents e ∈ (entriesOf none t).map contents := List.mem_map_of_mem he
    rw [contents_entriesOf] at hmem
    exact List.mem_map.mp hmem
  constructor
  · intro e he
    obtain ⟨u, hu, hcontents⟩ := hentry e he
    rw [contents, Prod.mk.injEq] at hcontents
    exact hcontents.1 ▸ hbound u.label (Tree.label_mem_labels hu)
  · intro e he c hc
    obtain ⟨u, hu, hcontents⟩ := hentry e he
    simp only [contents, Prod.mk.injEq] at hcontents
    rw [← hcontents.2.2] at hc
    obtain ⟨v, hv, rfl⟩ := List.mem_map.mp hc
    refine hbound v.label (Tree.label_mem_labels (Tree.mem_subtrees_trans hu ?_))
    exact Tree.mem_subtrees_of_mem_children hv (Tree.mem_subtrees_self v)

theorem lt_next_of_mem_children {f : Forest α} (h : f.WellNumbered) {id c : NodeId}
    (hc : c ∈ f.children id) : c < f.next := by
  obtain ⟨e, he⟩ := exists_find?_of_mem_children hc
  rw [children_of_find? he] at hc
  exact h.children e (List.mem_of_find?_eq_some he) c hc

/-- The values of the children of a node. -/
def childValues (f : Forest α) (id : NodeId) : List α :=
  (f.children id).filterMap f.value?

/-- A new node is seen at its parent, behind what was there, and nowhere else. -/
theorem childValues_adopt {f : Forest α} (h : f.WellNumbered) {parent : NodeId}
    (hparent : (f.value? parent).isSome) (value : α) (id : NodeId) :
    (f.adopt parent value).childValues id =
      f.childValues id ++ if id = parent then [value] else [] := by
  obtain ⟨v, hv⟩ := Option.isSome_iff_exists.mp hparent
  have hlt := h.lt_next hv
  have hold : (f.children id).filterMap (f.adopt parent value).value? =
      (f.children id).filterMap f.value? := by
    refine List.filterMap_congr fun c hc => ?_
    rw [value?_adopt h hlt, if_neg (Nat.ne_of_lt (lt_next_of_mem_children h hc))]
  rw [childValues, children_adopt h hparent, List.filterMap_append, hold, childValues]
  congr 1
  split
  · rw [List.filterMap_cons, value?_adopt h hlt, if_pos rfl]
    rfl
  · rfl

end SchemaGen.Forest
