import SchemaGen.Tree

/-!
# The labels of a tree

`Tree.labels` goes through a tree and a list of trees by turns. Here is what the rest of the theory
uses instead: the labels of several trees are those of each, one after another, and changing every
label changes the list of labels.
-/

set_option autoImplicit false

namespace SchemaGen.Tree

variable {α β : Type}

theorem labelsOf_eq_flatMap : ∀ ts : List (Tree α), labelsOf ts = ts.flatMap labels
  | [] => rfl
  | t :: ts => by rw [labelsOf, List.flatMap_cons, labelsOf_eq_flatMap ts]

theorem labels_node (a : α) (cs : List (Tree α)) :
    (node a cs).labels = a :: cs.flatMap labels := by
  rw [labels, labelsOf_eq_flatMap]

theorem mem_labels_self (t : Tree α) : t.label ∈ t.labels := by
  cases t with
  | node a cs => rw [labels_node]; exact List.mem_cons_self

theorem mem_labels_of_mem_children {t c : Tree α} {a : α} (hc : c ∈ t.children)
    (ha : a ∈ c.labels) : a ∈ t.labels := by
  cases t with
  | node b cs =>
    rw [labels_node]
    exact List.mem_cons_of_mem _ (List.mem_flatMap.mpr ⟨c, hc, ha⟩)

theorem map_label_sublist (ts : List (Tree α)) : (ts.map label).Sublist (ts.flatMap labels) := by
  induction ts with
  | nil => exact .slnil
  | cons t ts ih =>
    cases t with
    | node a cs =>
      rw [List.map_cons, List.flatMap_cons, labels_node, List.cons_append]
      exact (ih.trans (List.sublist_append_right _ _)).cons_cons a

theorem flatMap_labels_leaves (as : List α) : (as.map leaf).flatMap labels = as := by
  induction as with
  | nil => rfl
  | cons a as ih => rw [List.map_cons, List.flatMap_cons, ih]; rfl

/-! ## Changing labels -/

theorem mapAll_eq_map (f : α → β) : ∀ ts : List (Tree α), mapAll f ts = ts.map (map f)
  | [] => rfl
  | t :: ts => by rw [mapAll, List.map_cons, mapAll_eq_map f ts]

theorem map_node (f : α → β) (a : α) (cs : List (Tree α)) :
    (node a cs).map f = node (f a) (cs.map (map f)) := by
  rw [map, mapAll_eq_map]

@[simp] theorem label_map (f : α → β) (t : Tree α) : (t.map f).label = f t.label := by
  cases t with
  | node a cs => rfl

@[simp] theorem children_map (f : α → β) (t : Tree α) :
    (t.map f).children = t.children.map (map f) := by
  cases t with
  | node a cs => rw [map_node]; rfl

/-- Only leaves become leaves. -/
theorem eq_leaf_of_map {f : α → β} {t : Tree α} {b : β} (h : t.map f = leaf b) :
    t = leaf t.label := by
  cases t with
  | node a cs =>
    rw [map_node, leaf, node.injEq, List.map_eq_nil_iff] at h
    rw [h.2]
    rfl

/-- Only a tree of leaves becomes a tree of leaves. -/
theorem exists_leaves_of_map {f : α → β} {t : Tree α} {b : β} {bs : List β}
    (h : t.map f = node b (bs.map leaf)) :
    ∃ as : List α, as.map f = bs ∧ t = node t.label (as.map leaf) := by
  cases t with
  | node a cs =>
    rw [map_node, node.injEq] at h
    refine ⟨cs.map label, ?_, ?_⟩
    · have hlabels := congrArg (List.map label) h.2
      rw [List.map_map, List.map_map] at hlabels
      rw [List.map_map]
      refine Eq.trans (List.map_congr_left fun c _ => (label_map f c).symm) (hlabels.trans ?_)
      exact List.map_id bs
    · rw [List.map_map, label_node]
      congr 1
      refine (List.map_id cs).symm.trans (List.map_congr_left fun c hc => ?_)
      obtain ⟨b', -, hb'⟩ := List.mem_map.mp (h.2 ▸ List.mem_map_of_mem hc)
      exact eq_leaf_of_map hb'.symm

theorem map_extend (f : α → β) (t : Tree α) (more : List (Tree α)) :
    (t.extend more).map f = (t.map f).extend (more.map (map f)) := by
  rw [extend, map_node, List.map_append, extend, label_map, children_map]

@[simp] theorem extend_nil (t : Tree α) : t.extend [] = t := by
  cases t with
  | node a cs => rw [extend, List.append_nil]; rfl

theorem labels_extend (t : Tree α) (more : List (Tree α)) :
    (t.extend more).labels = t.labels ++ more.flatMap labels := by
  cases t with
  | node a cs =>
    rw [extend, labels_node, labels_node, children_node, label_node, List.flatMap_append,
      List.cons_append]

mutual

theorem labels_map (f : α → β) : ∀ t : Tree α, (t.map f).labels = t.labels.map f
  | node a cs => by rw [map, labels, labels, List.map_cons, labelsOf_mapAll f cs]

theorem labelsOf_mapAll (f : α → β) :
    ∀ ts : List (Tree α), labelsOf (mapAll f ts) = (labelsOf ts).map f
  | [] => rfl
  | t :: ts => by
    rw [mapAll, labelsOf, labelsOf, List.map_append, labels_map f t, labelsOf_mapAll f ts]

end

mutual

theorem map_map {γ : Type} (f : α → β) (g : β → γ) : ∀ t : Tree α, (t.map f).map g = t.map (g ∘ f)
  | node a cs => by rw [map, map, map, mapAll_mapAll f g cs]; rfl

theorem mapAll_mapAll {γ : Type} (f : α → β) (g : β → γ) :
    ∀ ts : List (Tree α), mapAll g (mapAll f ts) = mapAll (g ∘ f) ts
  | [] => rfl
  | t :: ts => by rw [mapAll, mapAll, mapAll, map_map f g t, mapAll_mapAll f g ts]

end

end SchemaGen.Tree
