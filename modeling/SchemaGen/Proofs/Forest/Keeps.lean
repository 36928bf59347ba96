import SchemaGen.Proofs.Forest.Outline

/-!
# Keeping children

A change to a forest may add children behind those that a node has, and nothing else. `Keeps` says
so of all nodes below a root, with what is below told from the forest before the change. A snapshot
that is compared later tells exactly this (`loss?_snapshot_eq_none_iff`).

Changes that keep children one after another keep them as a whole (`Keeps.trans`). The point is
that a later change is checked on what is below the root by then, and that this has become no less:
a node that was there is still reached, since the links that lead to it are kept.
-/

set_option autoImplicit false

namespace SchemaGen.Forest

variable {α : Type}

/-- Every node at or below `root` has the children that it had, in the same order and before all
others. -/
def Keeps (root : NodeId) (f f' : Forest α) : Prop :=
  ∀ id, f.Below root id → f.children id <+: f'.children id

theorem Keeps.refl (root : NodeId) (f : Forest α) : Keeps root f f :=
  fun _ _ => List.prefix_rfl

/-- What was below the root is still below it. -/
theorem Keeps.below {root id : NodeId} {f f' : Forest α} (h : Keeps root f f')
    (hid : f.Below root id) : f'.Below root id := by
  induction hid with
  | refl => exact .refl
  | @tail a b hroot hlink ih => exact ih.tail ((h a hroot).subset hlink)

theorem Keeps.trans {root : NodeId} {f f' f'' : Forest α} (h : Keeps root f f')
    (h' : Keeps root f' f'') : Keeps root f f'' := by
  intro id hid
  exact (h id hid).trans (h' id (h.below hid))

/-! ## Snapshots -/

theorem lossAt?_eq_none_iff {f : Forest α} {entry : NodeId × List NodeId} :
    f.lossAt? entry = none ↔ entry.2 <+: f.children entry.1 := by
  unfold lossAt?
  constructor
  · intro h
    split at h
    · cases h
    · split at h
      next hprefix => exact List.isPrefixOf_iff_prefix.mp hprefix
      next => cases h
  · intro h
    rw [if_neg (Nat.not_lt.mpr h.length_le), if_pos (List.isPrefixOf_iff_prefix.mpr h)]

/-- A snapshot has the child list of every node that is below its root. -/
theorem mem_snapshot {f : Forest α} {root id : NodeId} {v : α} (hid : f.Below root id)
    (hv : f.value? id = some v) : (id, f.children id) ∈ f.snapshot root := by
  obtain ⟨t, ht, p, hp, rfl, -⟩ := mem_outline_iff.mpr ⟨hid, hv⟩
  have hwalk : p ∈ f.walk root := by
    rw [walk, ht]
    exact hp
  exact List.mem_map_of_mem hwalk

theorem below_of_mem_snapshot {f : Forest α} {root : NodeId} {entry : NodeId × List NodeId}
    (h : entry ∈ f.snapshot root) : f.Below root entry.1 ∧ entry.2 = f.children entry.1 := by
  obtain ⟨p, hp, rfl⟩ := List.mem_map.mp h
  refine ⟨?_, rfl⟩
  rw [walk] at hp
  cases ht : f.outline? root with
  | none =>
    rw [ht] at hp
    cases hp
  | some t =>
    rw [ht] at hp
    exact (mem_outline_iff.mp ⟨t, ht, p, hp, rfl, rfl⟩).1

/-- **A snapshot finds a loss exactly if children were not kept.** -/
theorem loss?_snapshot_eq_none_iff {f f' : Forest α} {root : NodeId} :
    f'.loss? (f.snapshot root) = none ↔ Keeps root f f' := by
  rw [loss?, List.findSome?_eq_none_iff]
  constructor
  · intro h id hid
    cases hv : f.value? id with
    | none =>
      -- a number without a node has no children to lose
      have hfind : f.find? id = none := Option.map_eq_none_iff.mp hv
      rw [children, hfind]
      exact List.nil_prefix
    | some v => exact lossAt?_eq_none_iff.mp (h _ (mem_snapshot hid hv))
  · intro h entry hentry
    obtain ⟨hbelow, hchildren⟩ := below_of_mem_snapshot hentry
    rw [lossAt?_eq_none_iff, hchildren]
    exact h entry.1 hbelow

end SchemaGen.Forest
