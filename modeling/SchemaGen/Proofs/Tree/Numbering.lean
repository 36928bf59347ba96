import SchemaGen.Proofs.Tree.Labels

/-!
# Numbered trees

Numbering a tree and forgetting the numbers gives the tree back (`map_value_number`), and the
numbers given are the next ones in the order of the labels, so that none is given twice
(`ids_number`).

`Tree.withParents` is the other view of a tree that is needed where a node is said to belong to
another: its labels in order, each with the label of the node it is a child of.
-/

set_option autoImplicit false

namespace SchemaGen.Tree

variable {α : Type}

/-! ## Numbering -/

mutual

theorem map_value_number : ∀ (t : Tree α) (next : Id), (number next t).1.map (·.value) = t
  | node a cs, next => by
    rw [number, map, mapAll_value_numberAll cs]

theorem mapAll_value_numberAll : ∀ (ts : List (Tree α)) (next : Id),
    mapAll (·.value) (numberAll next ts).1 = ts
  | [], _ => rfl
  | t :: ts, next => by
    rw [numberAll, mapAll, map_value_number t, mapAll_value_numberAll ts]

end

/-- The numbers of the nodes of several trees, one tree after another. -/
def idsOf (ts : List (Tree (Numbered α))) : List Id :=
  (ts.flatMap labels).map (·.id)

mutual

/-- Every node of a tree uses up one number. -/
theorem ids_number : ∀ (t : Tree α) (next : Id),
    (number next t).1.labels.map (·.id) = List.range' next t.labels.length ∧
      (number next t).2 = next + t.labels.length
  | node a cs, next => by
    obtain ⟨hids, hnext⟩ := ids_numberAll cs (next + 1)
    constructor
    · rw [number, labels, labels, List.map_cons, hids, List.length_cons, List.range'_succ]
    · rw [number, hnext, labels, List.length_cons]
      exact Nat.add_right_comm next 1 _

theorem ids_numberAll : ∀ (ts : List (Tree α)) (next : Id),
    (labelsOf (numberAll next ts).1).map (·.id) = List.range' next (labelsOf ts).length ∧
      (numberAll next ts).2 = next + (labelsOf ts).length
  | [], _ => ⟨rfl, rfl⟩
  | t :: ts, next => by
    obtain ⟨hids, hnext⟩ := ids_number t next
    obtain ⟨hidsAll, hnextAll⟩ := ids_numberAll ts (number next t).2
    constructor
    · rw [numberAll, labelsOf, labelsOf, List.map_append, hids, hidsAll, hnext,
        List.length_append, ← List.range'_append_1]
    · rw [numberAll, hnextAll, hnext, labelsOf, List.length_append]
      exact Nat.add_assoc next _ _

end

theorem idsOf_numberAll (ts : List (Tree α)) (next : Id) :
    idsOf (numberAll next ts).1 = List.range' next (labelsOf ts).length := by
  rw [idsOf, ← labelsOf_eq_flatMap]
  exact (ids_numberAll ts next).1

/-! ## Labels and their parents -/

mutual

/-- The labels of a tree in order, each with the label of its parent; `parent` is that of the
root. -/
def withParents (parent : Option α) : Tree α → List (α × Option α)
  | node a cs => (a, parent) :: withParentsAll (some a) cs

/-- The labels of several trees, with the same parent for every root. -/
def withParentsAll (parent : Option α) : List (Tree α) → List (α × Option α)
  | [] => []
  | t :: ts => withParents parent t ++ withParentsAll parent ts

end

theorem withParentsAll_eq_flatMap (parent : Option α) (ts : List (Tree α)) :
    withParentsAll parent ts = ts.flatMap (withParents parent) := by
  induction ts with
  | nil => rfl
  | cons t ts ih => rw [withParentsAll, List.flatMap_cons, ih]

theorem withParents_node (parent : Option α) (a : α) (cs : List (Tree α)) :
    (node a cs).withParents parent = (a, parent) :: cs.flatMap (withParents (some a)) := by
  rw [withParents, withParentsAll_eq_flatMap]

@[simp] theorem withParents_leaf (parent : Option α) (a : α) :
    (leaf a).withParents parent = [(a, parent)] := rfl

mutual

theorem map_fst_withParents : ∀ (t : Tree α) (parent : Option α),
    (t.withParents parent).map Prod.fst = t.labels
  | node a cs, parent => by
    rw [withParents, labels, List.map_cons, map_fst_withParentsAll cs]

theorem map_fst_withParentsAll : ∀ (ts : List (Tree α)) (parent : Option α),
    (withParentsAll parent ts).map Prod.fst = labelsOf ts
  | [], _ => rfl
  | t :: ts, parent => by
    rw [withParentsAll, labelsOf, List.map_append, map_fst_withParents t,
      map_fst_withParentsAll ts]

end

end SchemaGen.Tree
