import SchemaGen.Proofs.Forest.Outline
import SchemaGen.Proofs.Tree.Subtrees

/-!
# Forests that show a tree

A tree is planted in a forest and read back as an outline. In between the forest may grow, so what
is planted is not said to be the forest: a forest shows a tree if each node of the tree is there,
with its value and its children (`Forest.Shows`). A planted tree is shown (`shows_plant`), and the
outline of a shown tree is that tree, each node with its place (`outline?_of_shows`).
-/

set_option autoImplicit false

namespace SchemaGen.Forest

open SchemaGen.Tree (Numbered)

variable {α : Type}

/-- Every node of a numbered tree is a node of the forest, with its value and its children. -/
def Shows (f : Forest α) (t : Tree (Numbered α)) : Prop :=
  ∀ u ∈ t.subtrees, f.value? u.label.id = some u.label.value ∧
    f.children u.label.id = u.children.map (·.label.id)

theorem Shows.of_mem_subtrees {f : Forest α} {t u : Tree (Numbered α)} (h : f.Shows t)
    (hu : u ∈ t.subtrees) : f.Shows u :=
  fun v hv => h v (Tree.mem_subtrees_trans hu hv)

theorem Shows.of_mem_children {f : Forest α} {t u : Tree (Numbered α)} (h : f.Shows t)
    (hu : u ∈ t.children) : f.Shows u :=
  h.of_mem_subtrees (Tree.mem_subtrees_of_mem_children hu (Tree.mem_subtrees_self u))

theorem Shows.value? {f : Forest α} {t : Tree (Numbered α)} (h : f.Shows t) :
    f.value? t.label.id = some t.label.value :=
  (h t (Tree.mem_subtrees_self t)).1

theorem Shows.children {f : Forest α} {t : Tree (Numbered α)} (h : f.Shows t) :
    f.children t.label.id = t.children.map (·.label.id) :=
  (h t (Tree.mem_subtrees_self t)).2

/-- The values of the children of a shown tree are read off the forest. -/
theorem Shows.values_children {f : Forest α} {t : Tree (Numbered α)} (h : f.Shows t) :
    (f.children t.label.id).filterMap f.value? = t.children.map (·.label.value) := by
  rw [h.children, List.filterMap_map, ← List.filterMap_eq_map]
  exact List.filterMap_congr fun u hu => (h.of_mem_children hu).value?

/-! ## Planting -/

/-- What a forest knows of a node, but for its parent. -/
def contents (e : Entry α) : NodeId × α × List NodeId :=
  (e.id, e.value, e.children)

mutual

/-- The entries of a tree are its subtrees. -/
theorem contents_entriesOf : ∀ (t : Tree (Numbered α)) (parent : Option NodeId),
    (entriesOf parent t).map contents =
      t.subtrees.map fun u => (u.label.id, u.label.value, u.children.map (·.label.id))
  | .node l cs, parent => by
    rw [entriesOf, Tree.subtrees, List.map_cons, List.map_cons, contents_entriesOfAll cs]
    rfl

theorem contents_entriesOfAll : ∀ (ts : List (Tree (Numbered α))) (parent : Option NodeId),
    (entriesOfAll parent ts).map contents =
      (Tree.subtreesOf ts).map fun u => (u.label.id, u.label.value, u.children.map (·.label.id))
  | [], _ => rfl
  | t :: ts, parent => by
    rw [entriesOfAll, Tree.subtreesOf, List.map_append, List.map_append, contents_entriesOf t,
      contents_entriesOfAll ts]

end

theorem ids_entriesOf (t : Tree (Numbered α)) (parent : Option NodeId) :
    (entriesOf parent t).map (·.id) = t.labels.map (·.id) := by
  have hids := congrArg (List.map Prod.fst) (contents_entriesOf t parent)
  rw [List.map_map, List.map_map] at hids
  rw [← Tree.map_label_subtrees, List.map_map]
  exact hids

theorem find?_of_mem {f : Forest α} (h : (f.entries.map (·.id)).Nodup) {e : Entry α}
    (he : e ∈ f.entries) : f.find? e.id = some e := by
  unfold find?
  obtain ⟨e', he'⟩ := Option.isSome_iff_exists.mp
    (List.find?_isSome.mpr ⟨e, he, decide_eq_true rfl⟩ :
      (f.entries.find? (·.id = e.id)).isSome)
  have hid := List.find?_some he'
  rw [he', List.inj_on_of_nodup_map h (List.mem_of_find?_eq_some he') he (of_decide_eq_true hid)]

/-- **A planted tree is shown.** -/
theorem shows_plant {t : Tree (Numbered α)} (h : (t.labels.map (·.id)).Nodup) :
    (({} : Forest α).plant t).Shows t := by
  intro u hu
  have hmem := List.mem_map_of_mem (f := fun u : Tree (Numbered α) =>
    (u.label.id, u.label.value, u.children.map (·.label.id))) hu
  rw [← contents_entriesOf t none] at hmem
  obtain ⟨e, he, hcontents⟩ := List.mem_map.mp hmem
  simp only [contents, Prod.mk.injEq] at hcontents
  obtain ⟨hid, hvalue, hchildren⟩ := hcontents
  have hfind : (({} : Forest α).plant t).find? e.id = some e :=
    find?_of_mem (f := ({} : Forest α).plant t) ((ids_entriesOf t none).symm ▸ h) he
  rw [← hid, ← hvalue, ← hchildren]
  exact ⟨value?_of_find? hfind, children_of_find? hfind⟩

/-! ## Reading back -/

/-- A node of a tree in its place in a forest that shows it. -/
def place (f : Forest α) (l : Numbered α) : Placed α :=
  { l with depth := f.depth l.id }

mutual

/-- Every level of a tree uses up one unit of fuel, and a tree has no more levels than nodes. -/
theorem outlineWithin_of_shows {f : Forest α} : ∀ {t : Tree (Numbered α)} {fuel : Nat},
    f.Shows t → t.labels.length ≤ fuel →
      f.outlineWithin fuel t.label.id = some (t.map f.place)
  | .node l cs, 0, _, hfuel => by cases hfuel
  | .node l cs, fuel + 1, hshows, hfuel => by
    obtain ⟨e, he, hev⟩ := exists_find?_of_value? hshows.value?
    rw [outlineWithin_succ he, hev, hshows.children, Tree.children_node, Tree.map]
    have hfuel' : (Tree.labelsOf cs).length ≤ fuel := by
      rw [Tree.labels, List.length_cons] at hfuel
      exact Nat.le_of_succ_le_succ hfuel
    have hrest := outlinesWithin_of_shows (fun u (hu : u ∈ cs) => hshows.of_mem_children hu) hfuel'
    rw [hrest]
    rfl

theorem outlinesWithin_of_shows {f : Forest α} : ∀ {ts : List (Tree (Numbered α))} {fuel : Nat},
    (∀ u ∈ ts, f.Shows u) → (Tree.labelsOf ts).length ≤ fuel →
      (ts.map (·.label.id)).filterMap (f.outlineWithin fuel) = Tree.mapAll f.place ts
  | [], _, _, _ => rfl
  | t :: ts, fuel, hshows, hfuel => by
    rw [Tree.labelsOf, List.length_append] at hfuel
    have hfirst := outlineWithin_of_shows (hshows t List.mem_cons_self)
      (Nat.le_trans (Nat.le_add_right _ _) hfuel)
    have hrest := outlinesWithin_of_shows (fun u hu => hshows u (List.mem_cons_of_mem _ hu))
      (Nat.le_trans (Nat.le_add_left _ _) hfuel)
    rw [List.map_cons, List.filterMap_cons_some hfirst, hrest, Tree.mapAll]

end

/-- **The outline of a shown tree is the tree.** -/
theorem outline?_of_shows {f : Forest α} {t : Tree (Numbered α)} (h : f.Shows t)
    (hnodup : (t.labels.map (·.id)).Nodup) :
    f.outline? t.label.id = some (t.map f.place) := by
  have hsub : t.labels.map (·.id) ⊆ f.entries.map (·.id) := by
    intro id hid
    obtain ⟨l, hl, rfl⟩ := List.mem_map.mp hid
    rw [← Tree.map_label_subtrees] at hl
    obtain ⟨u, hu, rfl⟩ := List.mem_map.mp hl
    obtain ⟨e, he, -⟩ := exists_find?_of_value? (h u hu).1
    exact List.mem_map.mpr ⟨e, List.mem_of_find?_eq_some he, find?_id he⟩
  refine outlineWithin_of_shows h ?_
  simpa using (hnodup.subperm hsub).length_le

end SchemaGen.Forest
