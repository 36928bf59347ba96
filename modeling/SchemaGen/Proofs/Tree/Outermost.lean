import SchemaGen.Proofs.Tree.Labels

/-!
# The outermost labels of a tree

A walk that looks for labels of some kind and does not go on below one that it has found finds the
outermost of them. What is found is told here without a walk: every label stands below others
(`labelsUnder`), and the outermost ones of a kind are those that stand below none of that kind
(`outermost`), in the order of `labels`. That the walk finds just these is `outermost_node`.
-/

set_option autoImplicit false

namespace SchemaGen.Tree

variable {α : Type}

mutual

/-- The labels of a tree, every node before its descendants, each with all labels that it stands
below. -/
def labelsUnder (above : List α) : Tree α → List (List α × α)
  | node a cs => (above, a) :: labelsUnderOf (a :: above) cs

/-- The labels of several trees below the same labels. -/
def labelsUnderOf (above : List α) : List (Tree α) → List (List α × α)
  | [] => []
  | t :: ts => labelsUnder above t ++ labelsUnderOf above ts

end

mutual

/-- Without what they stand below these are the labels of the tree. -/
theorem map_snd_labelsUnder : ∀ (t : Tree α) (above : List α),
    (t.labelsUnder above).map Prod.snd = t.labels
  | node a cs, above => by
    rw [labelsUnder, labels, List.map_cons, map_snd_labelsUnderOf cs]

theorem map_snd_labelsUnderOf : ∀ (ts : List (Tree α)) (above : List α),
    (labelsUnderOf above ts).map Prod.snd = labelsOf ts
  | [], _ => rfl
  | t :: ts, above => by
    rw [labelsUnderOf, labelsOf, List.map_append, map_snd_labelsUnder t, map_snd_labelsUnderOf ts]

end

mutual

/-- What a tree stands below comes after what stands below its root. -/
theorem labelsUnder_append : ∀ (t : Tree α) (below above : List α),
    t.labelsUnder (below ++ above) =
      (t.labelsUnder below).map fun l => (l.1 ++ above, l.2)
  | node a cs, below, above => by
    rw [labelsUnder, labelsUnder, List.map_cons, ← List.cons_append,
      labelsUnderOf_append cs (a :: below) above]

theorem labelsUnderOf_append : ∀ (ts : List (Tree α)) (below above : List α),
    labelsUnderOf (below ++ above) ts =
      (labelsUnderOf below ts).map fun l => (l.1 ++ above, l.2)
  | [], _, _ => rfl
  | t :: ts, below, above => by
    rw [labelsUnderOf, labelsUnderOf, List.map_append, labelsUnder_append t below above,
      labelsUnderOf_append ts below above]

end

theorem labelsUnderOf_eq_flatMap (above : List α) (ts : List (Tree α)) :
    labelsUnderOf above ts = ts.flatMap (labelsUnder above) := by
  induction ts with
  | nil => rfl
  | cons t ts ih => rw [labelsUnderOf, List.flatMap_cons, ih]

/-- The labels of a kind that stand below no label of that kind. -/
def outermost (p : α → Bool) (t : Tree α) : List α :=
  ((t.labelsUnder []).filter fun l => p l.2 && !l.1.any p).map Prod.snd

theorem outermost_sublist (p : α → Bool) (t : Tree α) : (t.outermost p).Sublist t.labels := by
  rw [← map_snd_labelsUnder t []]
  exact List.filter_sublist.map Prod.snd

theorem of_mem_outermost {p : α → Bool} {t : Tree α} {a : α} (h : a ∈ t.outermost p) :
    p a = true := by
  obtain ⟨l, hl, rfl⟩ := List.mem_map.mp h
  exact (Bool.and_eq_true_iff.mp (List.mem_filter.mp hl).2).1

/-- Of what stands below a label, the outermost are none if the label is of that kind, and those of
the tree for itself otherwise. -/
theorem outermost_below (p : α → Bool) (a : α) (t : Tree α) :
    ((t.labelsUnder [a]).filter fun l => p l.2 && !l.1.any p).map Prod.snd =
      if p a then [] else t.outermost p := by
  rw [← List.nil_append [a], labelsUnder_append, List.filter_map, List.map_map, outermost]
  cases ha : p a with
  | true =>
    rw [if_pos rfl, List.map_eq_nil_iff, List.filter_eq_nil_iff]
    intro l _
    simp [ha]
  | false =>
    rw [if_neg Bool.false_ne_true]
    refine congrArg (List.map Prod.snd) (List.filter_congr fun l _ => ?_)
    simp [ha]

/-- **The outermost labels are found by a walk** that does not go on below what it has found. -/
theorem outermost_node (p : α → Bool) (a : α) (cs : List (Tree α)) :
    (node a cs).outermost p = if p a then [a] else cs.flatMap (outermost p) := by
  have hbelow : ((cs.flatMap (labelsUnder [a])).filter fun l => p l.2 && !l.1.any p).map Prod.snd =
      cs.flatMap fun t => if p a then [] else t.outermost p := by
    rw [List.filter_flatMap, List.map_flatMap]
    exact congrArg (cs.flatMap ·) (funext fun t => outermost_below p a t)
  rw [outermost, labelsUnder, labelsUnderOf_eq_flatMap, List.filter_cons]
  cases ha : p a with
  | true =>
    rw [ha] at hbelow
    simp only [List.any_nil, Bool.not_false, Bool.and_self, if_true, List.map_cons, hbelow]
    simp
  | false =>
    rw [ha] at hbelow
    simpa using hbelow

end SchemaGen.Tree
