import Mathlib.Data.Finset.Card
import Mathlib.Logic.Relation
import SchemaGen.Forest
import SchemaGen.Proofs.Tree.Labels

/-!
# What an outline shows

`Forest.outline?` follows child links with a bound, the number of nodes, because a forest does not
rule out a cycle of links. The bound costs nothing: an outline shows every node that child links
lead to from its root, whatever the links are (`mem_outline_iff`).

That it shows no other node is an induction on the bound. That it misses none is a counting
argument: a way that leads on from a node and does not come back to it
(`reflTransGen_avoiding`) has one node less to pass through, so the bound is used up no faster than
the nodes are.
-/

set_option autoImplicit false

namespace SchemaGen.Forest

open Relation

variable {α : Type}

/-! ## Child links -/

/-- A node is at or below another if child links lead to it. -/
def Below (f : Forest α) : NodeId → NodeId → Prop :=
  ReflTransGen fun a b => b ∈ f.children a

theorem find?_id {f : Forest α} {id : NodeId} {e : Entry α} (h : f.find? id = some e) :
    e.id = id := by
  simpa using List.find?_some h

theorem children_of_find? {f : Forest α} {id : NodeId} {e : Entry α} (h : f.find? id = some e) :
    f.children id = e.children := by
  simp [children, h]

theorem value?_of_find? {f : Forest α} {id : NodeId} {e : Entry α} (h : f.find? id = some e) :
    f.value? id = some e.value := by
  simp [value?, h]

theorem exists_find?_of_value? {f : Forest α} {id : NodeId} {v : α} (h : f.value? id = some v) :
    ∃ e, f.find? id = some e ∧ e.value = v :=
  Option.map_eq_some_iff.mp h

theorem exists_find?_of_mem_children {f : Forest α} {id c : NodeId} (h : c ∈ f.children id) :
    ∃ e, f.find? id = some e := by
  cases hf : f.find? id with
  | none => simp [children, hf] at h
  | some e => exact ⟨e, rfl⟩

/-- The numbers that some node has. -/
def ids (f : Forest α) : Finset NodeId :=
  (f.entries.map (·.id)).toFinset

theorem mem_ids_of_find? {f : Forest α} {id : NodeId} {e : Entry α} (h : f.find? id = some e) :
    id ∈ f.ids := by
  rw [ids, List.mem_toFinset]
  exact List.mem_map.mpr ⟨e, List.mem_of_find?_eq_some h, find?_id h⟩

theorem card_ids_le (f : Forest α) : f.ids.card ≤ f.entries.length := by
  simpa [ids] using List.toFinset_card_le (f.entries.map (·.id))

/-! ## Ways that do not return -/

/-- A way from `a` either ends where it starts or has a last visit to `a` and does not return. -/
theorem reflTransGen_avoiding {r : NodeId → NodeId → Prop} {a b : NodeId}
    (h : ReflTransGen r a b) :
    a = b ∨ ∃ c, r a c ∧ c ≠ a ∧ ReflTransGen (fun x y => r x y ∧ y ≠ a) c b := by
  induction h with
  | refl => exact Or.inl rfl
  | @tail b c _ hbc ih =>
    by_cases hca : c = a
    · exact Or.inl hca.symm
    · rcases ih with rfl | ⟨d, had, hda, hdb⟩
      · exact Or.inr ⟨c, hbc, hca, .refl⟩
      · exact Or.inr ⟨d, had, hda, hdb.tail ⟨hbc, hca⟩⟩

/-! ## Outlines -/

theorem outlineWithin_succ {f : Forest α} {fuel : Nat} {id : NodeId} {e : Entry α}
    (h : f.find? id = some e) :
    f.outlineWithin (fuel + 1) id = some (.node { id, value := e.value, depth := f.depth id }
      ((f.children id).filterMap (f.outlineWithin fuel))) := by
  rw [outlineWithin, h, children_of_find? h]
  rfl

/-- An outline shows nothing but nodes below its root, with their values. -/
theorem below_of_mem_outlineWithin {f : Forest α} : ∀ {fuel : Nat} {id : NodeId}
    {t : Tree (Placed α)}, f.outlineWithin fuel id = some t → ∀ p ∈ t.labels,
      f.Below id p.id ∧ f.value? p.id = some p.value := by
  intro fuel
  induction fuel with
  | zero => intro id t h; cases h
  | succ fuel ih =>
    intro id t h p hp
    cases hf : f.find? id with
    | none => simp [outlineWithin, hf] at h
    | some e =>
      rw [outlineWithin_succ hf] at h
      cases h
      rw [Tree.labels_node] at hp
      rcases List.mem_cons.mp hp with rfl | hp
      · exact ⟨.refl, value?_of_find? hf⟩
      · obtain ⟨t', ht', hp'⟩ := List.mem_flatMap.mp hp
        obtain ⟨c, hc, hct⟩ := List.mem_filterMap.mp ht'
        obtain ⟨hbelow, hvalue⟩ := ih hct p hp'
        exact ⟨ReflTransGen.head hc hbelow, hvalue⟩

/-- An outline with fuel for all nodes that a way may pass through shows where the way ends. -/
theorem mem_outlineWithin {f : Forest α} : ∀ {fuel : Nat} {allowed : Finset NodeId}
    {a b : NodeId} {v : α}, allowed.card ≤ fuel → a ∈ allowed →
      ReflTransGen (fun x y => y ∈ f.children x ∧ y ∈ allowed) a b → f.value? b = some v →
        ∃ t, f.outlineWithin fuel a = some t ∧ ∃ p ∈ t.labels, p.id = b ∧ p.value = v := by
  intro fuel
  induction fuel with
  | zero =>
    intro allowed a b v hcard ha
    have hempty : allowed = ∅ := Finset.card_eq_zero.mp (Nat.le_zero.mp hcard)
    simp [hempty] at ha
  | succ fuel ih =>
    intro allowed a b v hcard ha hway hv
    rcases reflTransGen_avoiding hway with rfl | ⟨c, ⟨hc, hcallowed⟩, hca, hrest⟩
    · obtain ⟨e, he, hev⟩ := exists_find?_of_value? hv
      refine ⟨_, outlineWithin_succ he, _, Tree.mem_labels_self _, rfl, hev⟩
    · obtain ⟨e, he⟩ := exists_find?_of_mem_children hc
      -- from `c` on the way stays among the allowed nodes other than `a`
      have hway' : ReflTransGen (fun x y => y ∈ f.children x ∧ y ∈ allowed.erase a) c b :=
        hrest.lift id fun x y hxy => ⟨hxy.1.1, Finset.mem_erase.mpr ⟨hxy.2, hxy.1.2⟩⟩
      have hcard' : (allowed.erase a).card ≤ fuel := by
        rw [Finset.card_erase_of_mem ha]
        omega
      obtain ⟨t, ht, p, hp, hpb⟩ :=
        ih hcard' (Finset.mem_erase.mpr ⟨hca, hcallowed⟩) hway' hv
      refine ⟨_, outlineWithin_succ he, p, ?_, hpb⟩
      exact Tree.mem_labels_of_mem_children
        (List.mem_filterMap.mpr ⟨c, hc, ht⟩ : t ∈ (Tree.node _ _).children) hp

/-- A way below a node that ends at a node passes only through nodes. -/
theorem below_within_ids {f : Forest α} {a b : NodeId} {v : α} (h : f.Below a b)
    (hv : f.value? b = some v) :
    a ∈ f.ids ∧ ReflTransGen (fun x y => y ∈ f.children x ∧ y ∈ f.ids) a b := by
  obtain ⟨e, he, -⟩ := exists_find?_of_value? hv
  induction h using ReflTransGen.head_induction_on with
  | refl => exact ⟨mem_ids_of_find? he, .refl⟩
  | @head x y hxy _ ih =>
    obtain ⟨ex, hex⟩ := exists_find?_of_mem_children hxy
    exact ⟨mem_ids_of_find? hex, ReflTransGen.head ⟨hxy, ih.1⟩ ih.2⟩

/-- **An outline shows exactly the nodes at and below its root.** -/
theorem mem_outline_iff {f : Forest α} {a b : NodeId} {v : α} :
    (∃ t, f.outline? a = some t ∧ ∃ p ∈ t.labels, p.id = b ∧ p.value = v) ↔
      f.Below a b ∧ f.value? b = some v := by
  constructor
  · rintro ⟨t, ht, p, hp, rfl, rfl⟩
    exact below_of_mem_outlineWithin ht p hp
  · rintro ⟨hbelow, hv⟩
    obtain ⟨ha, hway⟩ := below_within_ids hbelow hv
    exact mem_outlineWithin f.card_ids_le ha hway hv

end SchemaGen.Forest
