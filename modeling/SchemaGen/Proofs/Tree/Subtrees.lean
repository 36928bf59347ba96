import SchemaGen.Proofs.Tree.Labels

/-!
# The subtrees of a tree

`Tree.labels` forgets what a node has below it. Where a node is looked at together with its
children, the tree is taken as the list of its subtrees instead, in the same order: the labels are
the roots of the subtrees (`map_label_subtrees`).
-/

set_option autoImplicit false

namespace SchemaGen.Tree

variable {α β : Type}

mutual

/-- The subtrees of a tree, every tree before those in it. -/
def subtrees : Tree α → List (Tree α)
  | node a cs => node a cs :: subtreesOf cs

/-- The subtrees of several trees, one tree after another. -/
def subtreesOf : List (Tree α) → List (Tree α)
  | [] => []
  | t :: ts => subtrees t ++ subtreesOf ts

end

theorem subtreesOf_eq_flatMap (ts : List (Tree α)) : subtreesOf ts = ts.flatMap subtrees := by
  induction ts with
  | nil => rfl
  | cons t ts ih => rw [subtreesOf, List.flatMap_cons, ih]

theorem subtrees_node (a : α) (cs : List (Tree α)) :
    (node a cs).subtrees = node a cs :: cs.flatMap subtrees := by
  rw [subtrees, subtreesOf_eq_flatMap]

theorem mem_subtrees_self (t : Tree α) : t ∈ t.subtrees := by
  cases t with
  | node a cs => rw [subtrees_node]; exact List.mem_cons_self

theorem mem_subtrees_of_mem_children {t u v : Tree α} (hu : u ∈ t.children)
    (hv : v ∈ u.subtrees) : v ∈ t.subtrees := by
  cases t with
  | node a cs =>
    rw [subtrees_node]
    exact List.mem_cons_of_mem _ (List.mem_flatMap.mpr ⟨u, hu, hv⟩)

mutual

theorem mem_subtrees_trans : ∀ {t u v : Tree α}, u ∈ t.subtrees → v ∈ u.subtrees → v ∈ t.subtrees
  | node a cs, u, v, hu, hv => by
    rw [subtrees] at hu
    rcases List.mem_cons.mp hu with rfl | hu
    · exact hv
    · rw [subtrees]
      exact List.mem_cons_of_mem _ (mem_subtreesOf_trans hu hv)

theorem mem_subtreesOf_trans : ∀ {ts : List (Tree α)} {u v : Tree α},
    u ∈ subtreesOf ts → v ∈ u.subtrees → v ∈ subtreesOf ts
  | [], _, _, hu, _ => by cases hu
  | t :: ts, u, v, hu, hv => by
    rw [subtreesOf] at hu ⊢
    rcases List.mem_append.mp hu with hu | hu
    · exact List.mem_append_left _ (mem_subtrees_trans hu hv)
    · exact List.mem_append_right _ (mem_subtreesOf_trans hu hv)

end

mutual

theorem map_label_subtrees : ∀ t : Tree α, t.subtrees.map label = t.labels
  | node a cs => by
    rw [subtrees, labels, List.map_cons, map_label_subtreesOf cs]
    rfl

theorem map_label_subtreesOf : ∀ ts : List (Tree α), (subtreesOf ts).map label = labelsOf ts
  | [] => rfl
  | t :: ts => by
    rw [subtreesOf, labelsOf, List.map_append, map_label_subtrees t, map_label_subtreesOf ts]

end

theorem label_mem_labels {t u : Tree α} (h : u ∈ t.subtrees) : u.label ∈ t.labels := by
  rw [← map_label_subtrees]
  exact List.mem_map_of_mem h

mutual

theorem labels_sublist_of_mem_subtrees : ∀ {t u : Tree α}, u ∈ t.subtrees →
    u.labels.Sublist t.labels
  | node a cs, u, hu => by
    rw [subtrees] at hu
    rcases List.mem_cons.mp hu with rfl | hu
    · exact List.Sublist.refl _
    · rw [labels]
      exact (labels_sublist_of_mem_subtreesOf hu).cons a

theorem labels_sublist_of_mem_subtreesOf : ∀ {ts : List (Tree α)} {u : Tree α},
    u ∈ subtreesOf ts → u.labels.Sublist (labelsOf ts)
  | [], _, hu => by cases hu
  | t :: ts, u, hu => by
    rw [subtreesOf] at hu
    rw [labelsOf]
    rcases List.mem_append.mp hu with hu | hu
    · exact (labels_sublist_of_mem_subtrees hu).trans (List.sublist_append_left _ _)
    · exact (labels_sublist_of_mem_subtreesOf hu).trans (List.sublist_append_right _ _)

end

mutual

theorem subtrees_map (f : α → β) : ∀ t : Tree α, (t.map f).subtrees = t.subtrees.map (map f)
  | node a cs => by rw [subtrees, List.map_cons, map, subtrees, subtreesOf_mapAll f cs]

theorem subtreesOf_mapAll (f : α → β) :
    ∀ ts : List (Tree α), subtreesOf (mapAll f ts) = (subtreesOf ts).map (map f)
  | [] => rfl
  | t :: ts => by
    rw [mapAll, subtreesOf, subtreesOf, List.map_append, subtrees_map f t, subtreesOf_mapAll f ts]

end

end SchemaGen.Tree
