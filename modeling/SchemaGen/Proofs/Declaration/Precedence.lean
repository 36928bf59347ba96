import Mathlib.Data.Fintype.Card
import Mathlib.Data.Set.Finite.Basic
import Mathlib.Logic.Relation
import Mathlib.Order.WellFounded
import SchemaGen.Proofs.Declaration.Counting

/-!
# Precedence among siblings

`dependencyOrder` against the graph it is about: an edge leads from every sibling to those that
wait for it, and an order of the places is right if it is a permutation in which every edge leads
forward.

What the loop does is the search `orderReady` (`dependencyOrder_eq`). Three facts about one run of
it carry everything:

* it neither loses nor repeats a place (`orderReady_perm`);
* nothing that it puts later is waited for by what it puts earlier (`orderReady_pairwise`);
* what it leaves over, it leaves because each of these waits for another of them
  (`exists_wait_of_mem_left`).

The second gives the edges, and with them that a graph with an order has no cycle. The third gives
the converse: in a graph without cycles every non-empty set of places has one that waits for none
of the others (`exists_source`), so nothing can be left over.
-/

set_option autoImplicit false

namespace SchemaGen

/-! ## Graphs on places -/

/-- No place comes before itself, directly or through others. -/
def Acyclic (before : Nat → Nat → Prop) : Prop :=
  ∀ i, ¬ Relation.TransGen before i i

/-- The first `count` places in an order in which every edge leads forward. -/
structure IsOrdering (before : Nat → Nat → Prop) (count : Nat) (places : List Nat) : Prop where
  perm : places.Perm (List.range count)
  forward : ∀ j i, before j i → places.idxOf j < places.idxOf i

/-- What an edge leads from has been put before what it leads to. -/
theorem IsOrdering.lt_of_before {before : Nat → Nat → Prop} {count : Nat} {places : List Nat}
    (h : IsOrdering before count places) {j i p q : Nat} (hj : places[j]? = some p)
    (hi : places[i]? = some q) (hpq : before p q) : j < i := by
  have hnodup : places.Nodup := h.perm.nodup_iff.mpr List.nodup_range
  obtain ⟨hjlt, rfl⟩ := List.getElem?_eq_some_iff.mp hj
  obtain ⟨hilt, rfl⟩ := List.getElem?_eq_some_iff.mp hi
  have hlt := h.forward _ _ hpq
  rwa [hnodup.idxOf_getElem, hnodup.idxOf_getElem] at hlt

theorem IsOrdering.lt_of_transGen {before : Nat → Nat → Prop} {count : Nat} {places : List Nat}
    (h : IsOrdering before count places) {j i : Nat} (hji : Relation.TransGen before j i) :
    places.idxOf j < places.idxOf i := by
  induction hji with
  | single hji => exact h.forward _ _ hji
  | tail _ hlast ih => exact Nat.lt_trans ih (h.forward _ _ hlast)

theorem IsOrdering.acyclic {before : Nat → Nat → Prop} {count : Nat} {places : List Nat}
    (h : IsOrdering before count places) : Acyclic before :=
  fun _ hcycle => Nat.lt_irrefl _ (h.lt_of_transGen hcycle)

/-- Of finitely many places, one comes after none of the others if there is no cycle. -/
theorem exists_source {before : Nat → Nat → Prop} (h : Acyclic before) {l : List Nat}
    (hne : l ≠ []) : ∃ i ∈ l, ∀ j ∈ l, ¬ before j i := by
  let below : {i // i ∈ l} → {i // i ∈ l} → Prop :=
    fun j i => Relation.TransGen before j.1 i.1
  have : Finite {i // i ∈ l} := (List.finite_toSet l).to_subtype
  have : IsTrans {i // i ∈ l} below := ⟨fun _ _ _ => Relation.TransGen.trans⟩
  have : Std.Irrefl below := ⟨fun i => h i.1⟩
  have hwf : WellFounded below := Finite.wellFounded_of_trans_of_irrefl below
  obtain ⟨a, ha⟩ := List.exists_mem_of_ne_nil l hne
  obtain ⟨i, -, hmin⟩ := hwf.has_min Set.univ ⟨⟨a, ha⟩, trivial⟩
  exact ⟨i.1, i.2, fun j hj hji => hmin ⟨j, hj⟩ trivial (Relation.TransGen.single hji)⟩

/-! ## One run of the search -/

/-- The first match in an increasing list is the least. -/
theorem le_of_find?_eq_some {l : List Nat} (hl : l.Pairwise (· < ·)) {q : Nat → Bool} {i n : Nat}
    (h : l.find? q = some i) (hn : n ∈ l) (hq : q n = true) : i ≤ n := by
  obtain ⟨-, before, after, rfl, hbefore⟩ := List.find?_eq_some_iff_append.mp h
  rcases List.mem_append.mp hn with hn | hn
  · have hnot := hbefore n hn
    rw [hq] at hnot
    cases hnot
  · rcases List.mem_cons.mp hn with rfl | hn
    · exact Nat.le_refl n
    · exact Nat.le_of_lt ((List.pairwise_cons.mp (List.pairwise_append.mp hl).2.1).1 n hn)

/-- Nothing that comes later is waited for by what comes earlier. -/
theorem orderReady_pairwise (waits : Nat → List Nat) : ∀ (fuel : Nat) (pending : List Nat),
    (orderReady waits fuel pending).1.Pairwise fun i k => k ∉ waits i := by
  intro fuel
  induction fuel with
  | zero => intro pending; exact List.Pairwise.nil
  | succ fuel ih =>
    intro pending
    cases h : pending.find? (isReady waits pending) with
    | none => rw [orderReady_succ_none h]; exact List.Pairwise.nil
    | some i =>
      rw [orderReady_succ_some h]
      refine List.pairwise_cons.mpr ⟨fun k hk => ?_, ih (pending.erase i)⟩
      -- `i` was ready among all that was pending, and `k` was among these
      have hleft : k ∈ pending.erase i :=
        (orderReady_perm waits fuel (pending.erase i)).subset (List.mem_append_left _ hk)
      exact not_mem_waits_of_isReady (List.find?_some h) (List.mem_of_mem_erase hleft)

/-! ## The waiting table -/

/-- The edges among siblings: `j` leads to `i` if the sibling at `i` waits for the one at `j`. -/
def Precedes (siblings : List Sibling) (j i : Nat) : Prop :=
  j ≠ i ∧ ∃ a b, siblings[j]? = some a ∧ siblings[i]? = some b ∧ b.waitsFor a = true

theorem mem_waitPlaces {siblings : List Sibling} {i j : Nat} {b : Sibling} :
    j ∈ waitPlaces siblings i b ↔
      j ≠ i ∧ ∃ a, siblings[j]? = some a ∧ b.waitsFor a = true := by
  unfold waitPlaces
  simp only [List.mem_map, List.mem_filter, List.mem_zipIdx_iff_getElem?, Prod.exists]
  constructor
  · rintro ⟨a, k, ⟨hk, hcond⟩, rfl⟩
    simp only [Bool.and_eq_true, decide_eq_true_eq] at hcond
    exact ⟨hcond.1, a, hk, hcond.2⟩
  · rintro ⟨hne, a, ha, hwait⟩
    exact ⟨a, j, ⟨ha, by simp [hne, hwait]⟩, rfl⟩

/-- The table lists the edges that lead to a place. -/
theorem mem_waitTable {siblings : List Sibling} {i j : Nat} :
    j ∈ (waitTable siblings)[i]?.getD [] ↔ Precedes siblings j i := by
  have htable : (waitTable siblings)[i]? =
      (siblings[i]?).map fun b => waitPlaces siblings i b := by
    unfold waitTable
    rw [List.getElem?_map, List.getElem?_zipIdx]
    cases siblings[i]? <;> simp
  rw [htable]
  cases hi : siblings[i]? with
  | none => simp [Precedes, hi]
  | some b =>
    simp only [Option.map_some, Option.getD_some, mem_waitPlaces, Precedes, hi]
    constructor
    · rintro ⟨hne, a, ha, hwait⟩
      exact ⟨hne, a, b, ha, rfl, hwait⟩
    · rintro ⟨hne, a, b', ha, hb, hwait⟩
      cases hb
      exact ⟨hne, a, ha, hwait⟩

theorem lt_length_of_precedes {siblings : List Sibling} {j i : Nat}
    (h : Precedes siblings j i) : j < siblings.length ∧ i < siblings.length := by
  obtain ⟨-, a, b, hj, hi, -⟩ := h
  exact ⟨(List.getElem?_eq_some_iff.mp hj).1, (List.getElem?_eq_some_iff.mp hi).1⟩

/-! ## The order of siblings -/

theorem dependencyOrder_eq_ok_iff {siblings : List Sibling} {places : List Nat} :
    dependencyOrder siblings = .ok places ↔ siblingRun siblings = (places, []) := by
  rw [dependencyOrder_eq]
  split <;> simp_all

/-- In a list without repetition, what no earlier entry allows later stands before it. -/
theorem idxOf_lt_idxOf_of_pairwise {before : Nat → Nat → Prop} {places : List Nat}
    (hpair : places.Pairwise fun i k => ¬ before k i) {j i : Nat} (hj : j ∈ places)
    (hi : i ∈ places) (hne : j ≠ i) (hji : before j i) : places.idxOf j < places.idxOf i := by
  rcases Nat.lt_trichotomy (places.idxOf j) (places.idxOf i) with h | h | h
  · exact h
  · exact absurd ((List.idxOf_inj hj).mp h) hne
  · have hlen := List.idxOf_lt_length_of_mem hj
    have hback := List.pairwise_iff_getElem.mp hpair _ _ (List.idxOf_lt_length_of_mem hi) hlen h
    rw [List.getElem_idxOf, List.getElem_idxOf] at hback
    exact absurd hji hback

/-- An order that is given is right. -/
theorem isOrdering_of_dependencyOrder {siblings : List Sibling} {places : List Nat}
    (h : dependencyOrder siblings = .ok places) :
    IsOrdering (Precedes siblings) siblings.length places := by
  have hrun := dependencyOrder_eq_ok_iff.mp h
  have hperm : places.Perm (List.range siblings.length) := by
    have := orderReady_perm (fun i => (waitTable siblings)[i]?.getD []) siblings.length
      (List.range siblings.length)
    rw [show orderReady _ _ _ = (places, []) from hrun] at this
    simpa using this
  have hpair : places.Pairwise fun i k => ¬ Precedes siblings k i := by
    have := orderReady_pairwise (fun i => (waitTable siblings)[i]?.getD []) siblings.length
      (List.range siblings.length)
    rw [show orderReady _ _ _ = (places, []) from hrun] at this
    exact this.imp fun hnot hprec => hnot (mem_waitTable.mpr hprec)
  refine ⟨hperm, fun j i hji => ?_⟩
  obtain ⟨hj, hi⟩ := lt_length_of_precedes hji
  exact idxOf_lt_idxOf_of_pairwise hpair (hperm.mem_iff.mpr (List.mem_range.mpr hj))
    (hperm.mem_iff.mpr (List.mem_range.mpr hi)) hji.1 hji

/-- **Siblings can be ordered exactly if no cycle leads through them.** -/
theorem exists_dependencyOrder_iff {siblings : List Sibling} :
    (∃ places, dependencyOrder siblings = .ok places) ↔ Acyclic (Precedes siblings) := by
  constructor
  · rintro ⟨places, h⟩
    exact (isOrdering_of_dependencyOrder h).acyclic
  · intro hacyclic
    refine ⟨(siblingRun siblings).1, dependencyOrder_eq_ok_iff.mpr ?_⟩
    by_cases hleft : (siblingRun siblings).2 = []
    · exact Prod.ext rfl hleft
    · exfalso
      obtain ⟨i, hi, hsource⟩ := exists_source hacyclic hleft
      obtain ⟨j, hj, hwait⟩ := exists_wait_of_mem_left (by simp) i hi
      exact hsource j hj (mem_waitTable.mp hwait)

/-! ## Things in the order of their places -/

theorem getElem?_pick {α : Type} {things : List α} : ∀ {places : List Nat},
    (∀ p ∈ places, p < things.length) → ∀ k : Nat,
      (pick things places)[k]? = places[k]?.bind (things[·]?)
  | [], _, k => by simp [pick]
  | p :: places, h, k => by
    obtain ⟨thing, hp⟩ : ∃ thing, things[p]? = some thing :=
      ⟨_, List.getElem?_eq_getElem (h p (by simp))⟩
    have hrest := @getElem?_pick _ things places fun q hq => h q (by simp [hq])
    have hcons : pick things (p :: places) = thing :: pick things places := by
      unfold pick
      rw [List.filterMap_cons, hp]
    rw [hcons]
    cases k with
    | zero => simp [hp]
    | succ k => simpa using hrest k

theorem pick_range {α : Type} (things : List α) :
    pick things (List.range things.length) = things := by
  apply List.ext_getElem?
  intro k
  rw [getElem?_pick fun p hp => List.mem_range.mp hp]
  by_cases hk : k < things.length
  · rw [List.getElem?_range hk]
    rfl
  · rw [List.getElem?_eq_none (by simpa using hk), List.getElem?_eq_none (by omega)]
    rfl

/-- Things put in another order are the same things. -/
theorem pick_perm {α : Type} {things : List α} {places : List Nat}
    (h : places.Perm (List.range things.length)) : (pick things places).Perm things := by
  have hpick : (pick things places).Perm (pick things (List.range things.length)) :=
    h.filterMap _
  rwa [pick_range] at hpick

end SchemaGen
