import SchemaGen.Proofs.Forest.Links

/-!
# Planted trees

A tree whose nodes have numbers of their own is planted with links that agree (`paired_plant`), and
that lead to its root (`ends_plant`). So all that is proved of such forests holds of the trees that
are built first and planted then.

An entry knows its parent and its children, and both are written down where the tree is gone
through once (`entriesOf`). Each is therefore found again from the other by induction on the tree:
an entry is the root or a child of another entry (`parent_of_mem_entriesOf`), and the children of an
entry are entries with this parent (`exists_entry_of_mem_children`).
-/

set_option autoImplicit false

namespace SchemaGen.Forest

open SchemaGen.Tree (Numbered)

variable {α : Type}

/-! ## Links of a planted tree -/

/-- One of the entries has this one as a child, and is its parent. -/
def HasParentIn (entries : List (Entry α)) (e : Entry α) : Prop :=
  ∃ e' ∈ entries, e.parent = some e'.id ∧ e.id ∈ e'.children

theorem HasParentIn.mono {entries entries' : List (Entry α)} {e : Entry α}
    (h : HasParentIn entries e) (hsub : entries ⊆ entries') : HasParentIn entries' e := by
  obtain ⟨e', he', hlinks⟩ := h
  exact ⟨e', hsub he', hlinks⟩

mutual

theorem parent_of_mem_entriesOf {parent : Option NodeId} {e : Entry α} :
    ∀ {t : Tree (Numbered α)}, e ∈ entriesOf parent t →
      (e.id = t.label.id ∧ e.parent = parent) ∨ HasParentIn (entriesOf parent t) e
  | .node l cs, he => by
    rw [entriesOf] at he ⊢
    rcases List.mem_cons.mp he with rfl | he
    · exact .inl ⟨rfl, rfl⟩
    · rcases parent_of_mem_entriesOfAll he with ⟨hid, hparent⟩ | hin
      · exact .inr ⟨_, List.mem_cons_self, hparent, hid⟩
      · exact .inr (hin.mono (List.subset_cons_self _ _))

theorem parent_of_mem_entriesOfAll {parent : Option NodeId} {e : Entry α} :
    ∀ {ts : List (Tree (Numbered α))}, e ∈ entriesOfAll parent ts →
      (e.id ∈ ts.map (·.label.id) ∧ e.parent = parent) ∨ HasParentIn (entriesOfAll parent ts) e
  | [], he => by cases he
  | t :: ts, he => by
    rw [entriesOfAll] at he ⊢
    rcases List.mem_append.mp he with he | he
    · rcases parent_of_mem_entriesOf he with ⟨hid, hparent⟩ | hin
      · exact .inl ⟨hid ▸ List.mem_cons_self, hparent⟩
      · exact .inr (hin.mono (List.subset_append_left _ _))
    · rcases parent_of_mem_entriesOfAll he with ⟨hid, hparent⟩ | hin
      · exact .inl ⟨List.mem_cons_of_mem _ hid, hparent⟩
      · exact .inr (hin.mono (List.subset_append_right _ _))

end

theorem exists_entry_of_root (parent : Option NodeId) {ts : List (Tree (Numbered α))} {c : NodeId}
    (hc : c ∈ ts.map (·.label.id)) :
    ∃ e ∈ entriesOfAll parent ts, e.id = c ∧ e.parent = parent := by
  induction ts with
  | nil => cases hc
  | cons t ts ih =>
    rw [entriesOfAll]
    rcases List.mem_cons.mp hc with rfl | hc
    · cases t with
      | node l cs => exact ⟨_, List.mem_append_left _ List.mem_cons_self, rfl, rfl⟩
    · obtain ⟨e, he, hlinks⟩ := ih hc
      exact ⟨e, List.mem_append_right _ he, hlinks⟩

mutual

theorem exists_entry_of_mem_children {parent : Option NodeId} {e : Entry α} {c : NodeId}
    (hc : c ∈ e.children) : ∀ {t : Tree (Numbered α)}, e ∈ entriesOf parent t →
      ∃ e' ∈ entriesOf parent t, e'.id = c ∧ e'.parent = some e.id
  | .node l cs, he => by
    rw [entriesOf] at he ⊢
    rcases List.mem_cons.mp he with rfl | he
    · obtain ⟨e', he', hlinks⟩ := exists_entry_of_root (some l.id) hc
      exact ⟨e', List.mem_cons_of_mem _ he', hlinks⟩
    · obtain ⟨e', he', hlinks⟩ := exists_entryAll_of_mem_children hc he
      exact ⟨e', List.mem_cons_of_mem _ he', hlinks⟩

theorem exists_entryAll_of_mem_children {parent : Option NodeId} {e : Entry α} {c : NodeId}
    (hc : c ∈ e.children) : ∀ {ts : List (Tree (Numbered α))}, e ∈ entriesOfAll parent ts →
      ∃ e' ∈ entriesOfAll parent ts, e'.id = c ∧ e'.parent = some e.id
  | [], he => by cases he
  | t :: ts, he => by
    rw [entriesOfAll] at he ⊢
    rcases List.mem_append.mp he with he | he
    · obtain ⟨e', he', hlinks⟩ := exists_entry_of_mem_children hc he
      exact ⟨e', List.mem_append_left _ he', hlinks⟩
    · obtain ⟨e', he', hlinks⟩ := exists_entryAll_of_mem_children hc he
      exact ⟨e', List.mem_append_right _ he', hlinks⟩

end

/-! ## Agreement -/

theorem mem_children_iff {f : Forest α} (h : (f.entries.map (·.id)).Nodup) {p c : NodeId} :
    c ∈ f.children p ↔ ∃ e ∈ f.entries, e.id = p ∧ c ∈ e.children := by
  constructor
  · intro hc
    obtain ⟨e, he⟩ := exists_find?_of_mem_children hc
    exact ⟨e, List.mem_of_find?_eq_some he, find?_id he, children_of_find? he ▸ hc⟩
  · rintro ⟨e, he, rfl, hc⟩
    rwa [children_of_find? (find?_of_mem h he)]

theorem parent?_eq_some_iff {f : Forest α} (h : (f.entries.map (·.id)).Nodup) {p c : NodeId} :
    f.parent? c = some p ↔ ∃ e ∈ f.entries, e.id = c ∧ e.parent = some p := by
  constructor
  · intro hp
    obtain ⟨e, he, hparent⟩ := Option.bind_eq_some_iff.mp hp
    exact ⟨e, List.mem_of_find?_eq_some he, find?_id he, hparent⟩
  · rintro ⟨e, he, rfl, hparent⟩
    rw [parent?, find?_of_mem h he]
    exact hparent

section Plant

variable {t : Tree (Numbered α)}

theorem nodup_ids_plant (h : (t.labels.map (·.id)).Nodup) :
    ((({} : Forest α).plant t).entries.map (·.id)).Nodup := by
  rw [show (({} : Forest α).plant t).entries = entriesOf none t from rfl, ids_entriesOf]
  exact h

/-- **A tree is planted with links that agree.** -/
theorem paired_plant (h : (t.labels.map (·.id)).Nodup) : (({} : Forest α).plant t).Paired where
  numbered := wellNumbered_plant t
  agree p c := by
    rw [parent?_eq_some_iff (nodup_ids_plant h), mem_children_iff (nodup_ids_plant h)]
    constructor
    · rintro ⟨e, he, rfl, hparent⟩
      rcases parent_of_mem_entriesOf he with ⟨-, hroot⟩ | ⟨e', he', hparent', hchild⟩
      · cases hparent.symm.trans hroot
      · rw [hparent', Option.some.injEq] at hparent
        exact ⟨e', he', hparent, hchild⟩
    · rintro ⟨e, he, rfl, hc⟩
      exact exists_entry_of_mem_children hc he
  once p := by
    cases hp : (({} : Forest α).plant t).find? p with
    | none => rw [children, hp]; exact .nil
    | some e =>
      have hmem : contents e ∈ (entriesOf none t).map contents :=
        List.mem_map_of_mem (List.mem_of_find?_eq_some hp)
      rw [contents_entriesOf] at hmem
      obtain ⟨u, hu, hcontents⟩ := List.mem_map.mp hmem
      simp only [contents, Prod.mk.injEq] at hcontents
      have hlabels : u.labels.Sublist t.labels := Tree.labels_sublist_of_mem_subtrees hu
      rw [children_of_find? hp, ← hcontents.2.2]
      cases u with
      | node l cs =>
        have hchildren := (Tree.map_label_sublist cs).map (·.id)
        rw [List.map_map] at hchildren
        rw [Tree.labels_node] at hlabels
        exact h.sublist (hchildren.trans ((List.sublist_cons_self l _).trans hlabels |>.map (·.id)))

end Plant

/-! ## Ends -/

mutual

/-- Where following parents ends from the parent of a tree, it ends from every node of the tree. -/
theorem climbs_of_mem_entriesOf {f : Forest α} {parent : Option NodeId} {e : Entry α}
    (hparent : ∀ p, parent = some p → ∃ n, f.Climbs n p) :
    ∀ {t : Tree (Numbered α)}, (∀ e ∈ entriesOf parent t, f.parent? e.id = e.parent) →
      e ∈ entriesOf parent t → ∃ n, f.Climbs n e.id
  | .node l cs, hlinks, he => by
    rw [entriesOf] at hlinks he
    obtain ⟨hroot, hcs⟩ := List.forall_mem_cons.mp hlinks
    have hends : ∃ n, f.Climbs n l.id := by
      cases parent with
      | none => exact ⟨0, hroot⟩
      | some p =>
        obtain ⟨n, hn⟩ := hparent p rfl
        exact ⟨n + 1, p, hroot, hn⟩
    rcases List.mem_cons.mp he with rfl | he
    · exact hends
    · refine climbs_of_mem_entriesOfAll (fun p hp => ?_) hcs he
      cases hp
      exact hends

theorem climbs_of_mem_entriesOfAll {f : Forest α} {parent : Option NodeId} {e : Entry α}
    (hparent : ∀ p, parent = some p → ∃ n, f.Climbs n p) :
    ∀ {ts : List (Tree (Numbered α))}, (∀ e ∈ entriesOfAll parent ts, f.parent? e.id = e.parent) →
      e ∈ entriesOfAll parent ts → ∃ n, f.Climbs n e.id
  | [], _, he => by cases he
  | t :: ts, hlinks, he => by
    rw [entriesOfAll] at hlinks he
    obtain ⟨ht, hts⟩ := List.forall_mem_append.mp hlinks
    rcases List.mem_append.mp he with he | he
    · exact climbs_of_mem_entriesOf hparent ht he
    · exact climbs_of_mem_entriesOfAll hparent hts he

end

/-- **Following parents in a planted tree comes to an end.** -/
theorem ends_plant {t : Tree (Numbered α)} (h : (t.labels.map (·.id)).Nodup) :
    (({} : Forest α).plant t).Ends := by
  intro id
  cases hid : (({} : Forest α).plant t).find? id with
  | none =>
    refine ⟨0, ?_⟩
    show (({} : Forest α).plant t).parent? id = none
    rw [parent?, hid]
    rfl
  | some e =>
    have hlinks : ∀ e' ∈ entriesOf none t, (({} : Forest α).plant t).parent? e'.id = e'.parent := by
      intro e' he'
      rw [parent?, find?_of_mem (nodup_ids_plant h) he']
      rfl
    rw [← find?_id hid]
    refine climbs_of_mem_entriesOf (fun p hp => ?_) hlinks (List.mem_of_find?_eq_some hid)
    cases hp

end SchemaGen.Forest
