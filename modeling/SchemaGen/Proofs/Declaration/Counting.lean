import Mathlib.Data.List.Induction
import SchemaGen.Declaration.Order

/-!
# Counting down and searching

`dependencyOrder` keeps a `Ledger`: it counts down and never looks through what is pending. What it
does is easier to reason about as a search, and that is `orderReady`: the first of the `pending`
places that waits for none of them goes next.

The two are tied by `Ledger.Tracks`, which says what the books hold when some places are pending. A
counter is the number of those pending places that its own place waits for, and the ready places
are the pending ones whose counter is zero. The books are right at the beginning
(`Ledger.tracks_ofTable`), putting a place in order keeps them right (`Ledger.Tracks.emit`), and so
a whole run puts in order what the search does, place by place (`Ledger.Tracks.run`). At the end the
places with a positive counter are those that the search leaves over, and `dependencyOrder_eq` says
what this comes to.
-/

set_option autoImplicit false

namespace SchemaGen

/-! ## The search -/

/-- Whether the place `i` waits for none of the `pending` ones. -/
def isReady (waits : Nat → List Nat) (pending : List Nat) (i : Nat) : Bool :=
  (waits i).all (!pending.contains ·)

/-- Puts the `pending` places in order, the first that is ready next, as long as one is. Gives the
places ordered and the places left over. -/
def orderReady (waits : Nat → List Nat) : (fuel : Nat) → (pending : List Nat) →
    List Nat × List Nat
  | 0, pending => ([], pending)
  | fuel + 1, pending =>
    match pending.find? (isReady waits pending) with
    | none => ([], pending)
    | some i =>
      let (ordered, left) := orderReady waits fuel (pending.erase i)
      (i :: ordered, left)

theorem isReady_iff {waits : Nat → List Nat} {pending : List Nat} {i : Nat} :
    isReady waits pending i = true ↔ ∀ k ∈ waits i, k ∉ pending := by
  simp [isReady]

theorem not_mem_waits_of_isReady {waits : Nat → List Nat} {pending : List Nat} {i k : Nat}
    (hready : isReady waits pending i = true) (hk : k ∈ pending) : k ∉ waits i :=
  fun hwait => isReady_iff.mp hready k hwait hk

theorem isReady_of_subset {waits : Nat → List Nat} {pending fewer : List Nat} {i : Nat}
    (hready : isReady waits pending i = true) (hsub : fewer ⊆ pending) :
    isReady waits fewer i = true :=
  isReady_iff.mpr fun k hk hmem => isReady_iff.mp hready k hk (hsub hmem)

/-- A place is ready when it waits for no pending place at all. -/
theorem isReady_iff_countP {waits : Nat → List Nat} {pending : List Nat} {i : Nat} :
    isReady waits pending i = true ↔ (waits i).countP (pending.contains ·) = 0 := by
  rw [List.countP_eq_zero, isReady_iff]
  simp

theorem exists_wait_of_not_isReady {waits : Nat → List Nat} {pending : List Nat} {i : Nat}
    (hready : isReady waits pending i = false) : ∃ j ∈ pending, j ∈ waits i := by
  obtain ⟨j, hwait, hj⟩ := List.all_eq_false.mp hready
  exact ⟨j, by simpa using hj, hwait⟩

/-- A step of the search takes a ready place out of the pending ones and goes on with the rest. -/
theorem orderReady_succ_some {waits : Nat → List Nat} {fuel i : Nat} {pending : List Nat}
    (h : pending.find? (isReady waits pending) = some i) :
    orderReady waits (fuel + 1) pending =
      (i :: (orderReady waits fuel (pending.erase i)).1,
        (orderReady waits fuel (pending.erase i)).2) := by
  rw [orderReady, h]

theorem orderReady_succ_none {waits : Nat → List Nat} {fuel : Nat} {pending : List Nat}
    (h : pending.find? (isReady waits pending) = none) :
    orderReady waits (fuel + 1) pending = ([], pending) := by
  rw [orderReady, h]

/-- What is put in order and what is left over make up what was pending. -/
theorem orderReady_perm (waits : Nat → List Nat) : ∀ (fuel : Nat) (pending : List Nat),
    ((orderReady waits fuel pending).1 ++ (orderReady waits fuel pending).2).Perm pending := by
  intro fuel
  induction fuel with
  | zero => intro pending; exact List.Perm.refl _
  | succ fuel ih =>
    intro pending
    cases h : pending.find? (isReady waits pending) with
    | none => rw [orderReady_succ_none h]; exact List.Perm.refl _
    | some i =>
      rw [orderReady_succ_some h]
      have hi : i ∈ pending := List.mem_of_find?_eq_some h
      exact ((ih (pending.erase i)).cons i).trans (List.perm_cons_erase hi).symm

/-- What is left over keeps the order in which it was pending. -/
theorem orderReady_left_sublist (waits : Nat → List Nat) : ∀ (fuel : Nat) (pending : List Nat),
    (orderReady waits fuel pending).2.Sublist pending := by
  intro fuel
  induction fuel with
  | zero => intro pending; exact List.Sublist.refl _
  | succ fuel ih =>
    intro pending
    cases h : pending.find? (isReady waits pending) with
    | none => simp [orderReady_succ_none h]
    | some i =>
      rw [orderReady_succ_some h]
      exact (ih (pending.erase i)).trans List.erase_sublist

/-- With fuel enough, whatever is left over waits for something else that is left over. -/
theorem exists_wait_of_mem_left {waits : Nat → List Nat} : ∀ {fuel : Nat} {pending : List Nat},
    pending.length ≤ fuel → ∀ i ∈ (orderReady waits fuel pending).2,
      ∃ j ∈ (orderReady waits fuel pending).2, j ∈ waits i := by
  intro fuel
  induction fuel with
  | zero =>
    intro pending hlen i hi
    have hnil : pending = [] := List.length_eq_zero_iff.mp (Nat.le_zero.mp hlen)
    simp [orderReady, hnil] at hi
  | succ fuel ih =>
    intro pending hlen i hi
    cases h : pending.find? (isReady waits pending) with
    | none =>
      rw [orderReady_succ_none h] at hi ⊢
      have hready : isReady waits pending i = false := by
        simpa using List.find?_eq_none.mp h i hi
      exact exists_wait_of_not_isReady hready
    | some k =>
      rw [orderReady_succ_some h] at hi ⊢
      refine ih ?_ i hi
      rw [List.length_erase_of_mem (List.mem_of_find?_eq_some h)]
      omega

/-! ## Places in increasing order -/

theorem mem_insertPlace {x k : Nat} : ∀ {places : List Nat},
    x ∈ insertPlace k places ↔ x = k ∨ x ∈ places
  | [] => by simp [insertPlace]
  | i :: rest => by
    unfold insertPlace
    split
    · simp
    split
    · rename_i hk
      simp [hk]
    · simp only [List.mem_cons, mem_insertPlace]
      exact or_left_comm

theorem pairwise_insertPlace (k : Nat) : ∀ {places : List Nat},
    places.Pairwise (· < ·) → (insertPlace k places).Pairwise (· < ·)
  | [], _ => List.pairwise_singleton _ _
  | i :: rest, h => by
    obtain ⟨hi, hrest⟩ := List.pairwise_cons.mp h
    unfold insertPlace
    split
    · rename_i hlt
      refine List.pairwise_cons.mpr ⟨fun x hx => ?_, h⟩
      rcases List.mem_cons.mp hx with rfl | hx
      · exact hlt
      · exact Nat.lt_trans hlt (hi x hx)
    split
    · exact h
    · refine List.pairwise_cons.mpr ⟨fun x hx => ?_, pairwise_insertPlace k hrest⟩
      rcases mem_insertPlace.mp hx with rfl | hx
      · omega
      · exact hi x hx

/-- Increasing lists of the same places are the same. -/
theorem eq_of_increasing {places other : List Nat} (h : places.Pairwise (· < ·))
    (h' : other.Pairwise (· < ·)) (hmem : ∀ i, i ∈ places ↔ i ∈ other) : places = other := by
  have hperm : places.Perm other :=
    (List.perm_ext_iff_of_nodup (h.imp Nat.ne_of_lt) (h'.imp Nat.ne_of_lt)).mpr hmem
  exact hperm.eq_of_pairwise (fun _ _ _ _ hab hba => absurd hba (Nat.lt_asymm hab)) h h'

/-! ## Counting down -/

namespace Ledger

variable {l : Ledger}

@[simp] theorem followers_release (l : Ledger) (k : Nat) :
    (l.release k).followers = l.followers := by
  unfold release
  dsimp only
  split <;> rfl

theorem counters_release (l : Ledger) (k : Nat) :
    (l.release k).counters = l.counters.modify k (· - 1) := by
  unfold release
  dsimp only
  split <;> rfl

theorem counter_release (l : Ledger) (k i : Nat) :
    (l.release k).counter i = l.counter i - if k = i then 1 else 0 := by
  unfold counter
  rw [counters_release, List.getElem?_modify]
  cases l.counters[i]? with
  | none => simp
  | some n => by_cases h : k = i <;> simp [h]

/-- A place that is told becomes ready if this was the last that it waited for. -/
theorem mem_ready_release {k i : Nat} :
    i ∈ (l.release k).ready ↔ i ∈ l.ready ∨ (i = k ∧ (l.release k).counter k = 0) := by
  have hcounter : (l.release k).counter k =
      { l with counters := l.counters.modify k (· - 1) : Ledger }.counter k := by
    unfold counter
    rw [counters_release]
  rw [hcounter]
  unfold release
  dsimp only
  split
  · rename_i hzero
    simp [mem_insertPlace, hzero, or_comm]
  · rename_i hpos
    simp [hpos]

theorem increasing_release (h : l.ready.Pairwise (· < ·)) (k : Nat) :
    (l.release k).ready.Pairwise (· < ·) := by
  unfold release
  dsimp only
  split
  · exact pairwise_insertPlace k h
  · exact h

theorem followers_foldl_release : ∀ (ks : List Nat) (l : Ledger),
    (ks.foldl release l).followers = l.followers
  | [], _ => rfl
  | k :: ks, l => (followers_foldl_release ks (l.release k)).trans (followers_release l k)

theorem length_counters_foldl_release : ∀ (ks : List Nat) (l : Ledger),
    (ks.foldl release l).counters.length = l.counters.length
  | [], _ => rfl
  | k :: ks, l => by
    rw [List.foldl_cons, length_counters_foldl_release, counters_release, List.length_modify]

/-- A counter goes down once for each time that its place is told. -/
theorem counter_foldl_release : ∀ (ks : List Nat) (l : Ledger) (i : Nat),
    (ks.foldl release l).counter i = l.counter i - ks.count i
  | [], _, _ => rfl
  | k :: ks, l, i => by
    rw [List.foldl_cons, counter_foldl_release, counter_release, List.count_cons]
    simp only [beq_iff_eq]
    omega

theorem increasing_foldl_release : ∀ (ks : List Nat) {l : Ledger}, l.ready.Pairwise (· < ·) →
    (ks.foldl release l).ready.Pairwise (· < ·)
  | [], _, h => h
  | k :: ks, _, h => increasing_foldl_release ks (increasing_release h k)

/-- The places that become ready are those told as often as they still waited. -/
theorem mem_ready_foldl_release {i : Nat} : ∀ (ks : List Nat) {l : Ledger},
    ks.count i ≤ l.counter i →
      (i ∈ (ks.foldl release l).ready ↔
        i ∈ l.ready ∨ (i ∈ ks ∧ ks.count i = l.counter i))
  | [], _, _ => by simp
  | k :: ks, l, hle => by
    have hcount : (k :: ks).count i = ks.count i + if k = i then 1 else 0 := by
      simp [List.count_cons]
    have hcounter := counter_release l k i
    have hrest : ks.count i ≤ (l.release k).counter i := by omega
    rw [List.foldl_cons, mem_ready_foldl_release ks hrest, mem_ready_release, List.mem_cons,
      or_assoc]
    refine or_congr_right ?_
    by_cases hk : k = i
    · subst hk
      rw [if_pos rfl] at hcount hcounter
      by_cases hmem : k ∈ ks
      · have hpos : 0 < ks.count k := List.count_pos_iff.mpr hmem
        simp only [hmem, true_and, or_true]
        omega
      · have hzero : ks.count k = 0 := List.count_eq_zero.mpr hmem
        simp only [hmem, true_and, false_and, or_false]
        omega
    · rw [if_neg hk] at hcount hcounter
      have hne : i ≠ k := fun h => hk h.symm
      simp only [hne, false_and, false_or]
      rw [hcount, hcounter, Nat.add_zero, Nat.sub_zero]

/-! ## The books at the beginning -/

theorem followersOf_enter (l : Ledger) (i j k : Nat) :
    (l.enter i j).followersOf k =
      if j = k ∧ k < l.followers.length then l.followersOf k ++ [i] else l.followersOf k := by
  simp only [followersOf, enter, List.getElem?_modify]
  by_cases hk : k < l.followers.length
  · rw [List.getElem?_eq_getElem hk]
    by_cases hj : j = k <;> simp [hj, hk]
  · rw [List.getElem?_eq_none (Nat.le_of_not_lt hk)]
    simp [hk]

theorem counter_enter (l : Ledger) (i j k : Nat) :
    (l.enter i j).counter k =
      if i = k ∧ k < l.counters.length then l.counter k + 1 else l.counter k := by
  simp only [counter, enter, List.getElem?_modify]
  by_cases hk : k < l.counters.length
  · rw [List.getElem?_eq_getElem hk]
    by_cases hi : i = k <;> simp [hi, hk]
  · rw [List.getElem?_eq_none (Nat.le_of_not_lt hk)]
    simp [hk]

/-- The books hold the waits of `count` places: a counter is how many its place waits for, and a
place follows another as often as it waits for it. -/
structure Holds (l : Ledger) (count : Nat) (waits : Nat → List Nat) : Prop where
  counters_length : l.counters.length = count
  followers_length : l.followers.length = count
  counter : ∀ i, l.counter i = (waits i).length
  followers : ∀ j < count, ∀ i, (l.followersOf j).count i = (waits i).count j

theorem holds_blank (count : Nat) : (blank count).Holds count fun _ => [] where
  counters_length := List.length_replicate
  followers_length := List.length_replicate
  counter i := by
    unfold counter blank
    rw [List.getElem?_replicate]
    split <;> rfl
  followers j _ i := by
    unfold followersOf blank
    rw [List.getElem?_replicate]
    split <;> rfl

/-- Entering that `i` waits for `j` adds `j` to what `i` waits for. -/
theorem Holds.enter {count : Nat} {waits : Nat → List Nat} (h : l.Holds count waits) {i : Nat}
    (hi : i < count) (j : Nat) :
    (l.enter i j).Holds count fun k => if k = i then waits k ++ [j] else waits k where
  counters_length := (List.length_modify _ _ _).trans h.counters_length
  followers_length := (List.length_modify _ _ _).trans h.followers_length
  counter k := by
    rw [counter_enter, h.counter, h.counters_length]
    by_cases hk : k = i
    · subst hk
      simp [hi]
    · simp [hk, Ne.symm hk]
  followers k hk a := by
    rw [followersOf_enter, h.followers_length]
    have hcount := h.followers k hk a
    by_cases ha : a = i
    · subst ha
      by_cases hj : j = k <;> simp [hj, hk, hcount]
    · by_cases hj : j = k <;> simp [hj, hk, ha, Ne.symm ha, hcount]

/-- Entering a row of the table adds the row to what its place waits for. -/
theorem Holds.enterRow {count i : Nat} (hi : i < count) : ∀ (row : List Nat) {l : Ledger}
    {waits : Nat → List Nat}, l.Holds count waits →
      (l.enterRow (row, i)).Holds count fun k => if k = i then waits k ++ row else waits k
  | [], l, waits, h => by simpa [Ledger.enterRow] using h
  | j :: row, l, waits, h => by
    have hrest := Holds.enterRow hi row (h.enter hi j)
    have hwaits : (fun k => if k = i then (if k = i then waits k ++ [j] else waits k) ++ row
        else if k = i then waits k ++ [j] else waits k) =
        fun k => if k = i then waits k ++ j :: row else waits k := by
      funext k
      by_cases hk : k = i <;> simp [hk]
    rwa [hwaits] at hrest

/-- The rows entered so far are what the books hold. -/
theorem holds_foldl_enterRow {count : Nat} (table : List (List Nat)) :
    table.length ≤ count →
      (table.zipIdx.foldl enterRow (blank count)).Holds count fun i => table[i]?.getD [] := by
  induction table using List.reverseRecOn with
  | nil => intro _; simpa using holds_blank count
  | append_singleton table row ih =>
    intro hle
    rw [List.length_append, List.length_singleton] at hle
    have hrow := Holds.enterRow (i := table.length) (by omega) row (ih (by omega))
    rw [List.zipIdx_append, List.foldl_append]
    have hwaits : (fun i => (table ++ [row])[i]?.getD []) =
        fun k => if k = table.length then table[k]?.getD [] ++ row else table[k]?.getD [] := by
      funext k
      rcases Nat.lt_trichotomy k table.length with hk | hk | hk
      · rw [List.getElem?_append_left hk, if_neg (Nat.ne_of_lt hk)]
      · subst hk
        simp
      · rw [if_neg (Nat.ne_of_gt hk), List.getElem?_eq_none (by simp; omega),
          List.getElem?_eq_none (Nat.le_of_lt hk)]
    rw [hwaits]
    simpa using hrow

/-! ## The books while places are put in order -/

/-- The books are right when the places `pending` are those not in order yet. -/
structure Tracks (l : Ledger) (waits : Nat → List Nat) (pending : List Nat) : Prop where
  /-- A counter is the number of pending places that its own place waits for. -/
  counter : ∀ i, l.counter i = (waits i).countP (pending.contains ·)
  /-- A place follows a pending one as often as it waits for it. -/
  followers : ∀ j ∈ pending, ∀ i, (l.followersOf j).count i = (waits i).count j
  /-- The ready places are the pending ones that wait for no pending one. -/
  ready : l.ready = pending.filter (isReady waits pending)
  /-- A place in order waits for no pending one. -/
  settled : ∀ i, i ∉ pending → isReady waits pending i = true

/-- **The books are right at the beginning**, when all places are pending. -/
theorem tracks_ofTable {table : List (List Nat)}
    (hrange : ∀ row ∈ table, ∀ j ∈ row, j < table.length) :
    (ofTable table).Tracks (fun i => table[i]?.getD []) (List.range table.length) := by
  have hholds := holds_foldl_enterRow table (Nat.le_refl _)
  have hcountP : ∀ i : Nat, (table[i]?.getD []).countP ((List.range table.length).contains ·) =
      (table[i]?.getD []).length := by
    intro i
    refine List.countP_eq_length.mpr fun j hj => ?_
    cases hrow : table[i]? with
    | none => simp [hrow] at hj
    | some row =>
      have hlt := hrange row (List.mem_of_getElem? hrow) j (by simpa [hrow] using hj)
      simpa using hlt
  refine ⟨fun i => ?_, fun j hj i => ?_, ?_, fun i hi => ?_⟩
  · exact (hholds.counter i).trans (hcountP i).symm
  · exact hholds.followers j (List.mem_range.mp hj) i
  · refine List.filter_congr fun i _ => ?_
    rw [Bool.eq_iff_iff, isReady_iff_countP, hcountP, decide_eq_true_eq, hholds.counter]
  · -- a place out of range has no row
    have hnone : table[i]? = none := List.getElem?_eq_none (by simpa using hi)
    simp [isReady, hnone]

/-- How often a place is waited for, and how many of the other pending ones are. -/
theorem countP_contains_erase {pending : List Nat} (hnodup : pending.Nodup) {i : Nat}
    (hi : i ∈ pending) : ∀ row : List Nat,
      row.countP (pending.contains ·) = row.countP ((pending.erase i).contains ·) + row.count i
  | [] => rfl
  | j :: row => by
    rw [List.countP_cons, List.countP_cons, List.count_cons, countP_contains_erase hnodup hi row]
    by_cases hj : j = i
    · subst hj
      have hgone : j ∉ pending.erase j := hnodup.not_mem_erase
      simp only [List.contains_iff_mem, hi, hgone, beq_self_eq_true, if_true, if_false]
      omega
    · have hsame : j ∈ pending.erase i ↔ j ∈ pending := by simp [hnodup.mem_erase_iff, hj]
      simp only [List.contains_iff_mem, hsame, beq_iff_eq, hj, if_false]
      omega

theorem followersOf_emit (l : Ledger) (i : Nat) (rest : List Nat) (j : Nat) :
    (l.emit i rest).followersOf j = l.followersOf j := by
  unfold followersOf emit
  rw [followers_foldl_release]

theorem length_counters_emit (l : Ledger) (i : Nat) (rest : List Nat) :
    (l.emit i rest).counters.length = l.counters.length :=
  length_counters_foldl_release (l.followersOf i) { l with ready := rest }

theorem counter_emit (l : Ledger) (i : Nat) (rest : List Nat) (k : Nat) :
    (l.emit i rest).counter k = l.counter k - (l.followersOf i).count k :=
  counter_foldl_release (l.followersOf i) { l with ready := rest } k

theorem mem_ready_emit {i k : Nat} {rest : List Nat}
    (hle : (l.followersOf i).count k ≤ l.counter k) :
    k ∈ (l.emit i rest).ready ↔
      k ∈ rest ∨ (k ∈ l.followersOf i ∧ (l.followersOf i).count k = l.counter k) :=
  mem_ready_foldl_release (l := { l with ready := rest }) (l.followersOf i) hle

section Emit

variable {waits : Nat → List Nat} {pending rest : List Nat} {i : Nat}

theorem Tracks.mem_ready (h : l.Tracks waits pending) (k : Nat) :
    k ∈ l.ready ↔ k ∈ pending ∧ isReady waits pending k = true := by
  rw [h.ready, List.mem_filter]

theorem Tracks.mem_followersOf (h : l.Tracks waits pending) (hi : i ∈ pending) (k : Nat) :
    k ∈ l.followersOf i ↔ i ∈ waits k := by
  rw [← List.count_pos_iff, h.followers i hi, List.count_pos_iff]

/-- What a place counts is how often it waits for `i`, and for the other pending places. -/
theorem Tracks.counter_eq_add (h : l.Tracks waits pending) (hnodup : pending.Nodup)
    (hi : i ∈ pending) (k : Nat) :
    l.counter k = (waits k).countP ((pending.erase i).contains ·) + (waits k).count i := by
  rw [h.counter, countP_contains_erase hnodup hi]

/-- Only a pending place waits for a pending one. -/
theorem Tracks.mem_pending_of_wait (h : l.Tracks waits pending) (hi : i ∈ pending) {k : Nat}
    (hwait : i ∈ waits k) : k ∈ pending := by
  by_contra hdone
  exact not_mem_waits_of_isReady (h.settled k hdone) hi hwait

/-- The places that are ready when `i` is in order: those that were, and those that waited for
nothing but `i`. -/
theorem Tracks.mem_ready_emit_iff (h : l.Tracks waits pending) (hnodup : pending.Nodup)
    (hready : l.ready = i :: rest) (hrest : i ∉ rest) (k : Nat) :
    k ∈ (l.emit i rest).ready ↔
      k ∈ pending.erase i ∧ isReady waits (pending.erase i) k = true := by
  obtain ⟨hi, hfree⟩ := (h.mem_ready i).mp (by simp [hready])
  have hcounter := h.counter_eq_add hnodup hi k
  have hcount := h.followers i hi k
  rw [mem_ready_emit (by omega), hnodup.mem_erase_iff, h.mem_followersOf hi]
  constructor
  · rintro (hk | ⟨hwait, hlast⟩)
    · obtain ⟨hpending, hbefore⟩ := (h.mem_ready k).mp (by simp [hready, hk])
      have hne : k ≠ i := fun heq => hrest (heq ▸ hk)
      exact ⟨⟨hne, hpending⟩, isReady_of_subset hbefore (List.erase_subset ..)⟩
    · have hne : k ≠ i := fun heq => not_mem_waits_of_isReady hfree hi (heq ▸ hwait)
      exact ⟨⟨hne, h.mem_pending_of_wait hi hwait⟩, isReady_iff_countP.mpr (by omega)⟩
  · rintro ⟨⟨hne, hpending⟩, hk⟩
    have hnone := isReady_iff_countP.mp hk
    rcases Nat.eq_zero_or_pos ((waits k).count i) with hzero | hpos
    · have hbefore : isReady waits pending k = true := by
        rw [isReady_iff_countP, countP_contains_erase hnodup hi, hnone, hzero]
      have hmem := (h.mem_ready k).mpr ⟨hpending, hbefore⟩
      rw [hready] at hmem
      exact Or.inl ((List.mem_cons.mp hmem).resolve_left hne)
    · exact Or.inr ⟨List.count_pos_iff.mp hpos, by omega⟩

/-- **Putting the first ready place in order keeps the books right.** -/
theorem Tracks.emit (h : l.Tracks waits pending) (hsorted : pending.Pairwise (· < ·))
    (hready : l.ready = i :: rest) : (l.emit i rest).Tracks waits (pending.erase i) := by
  have hnodup : pending.Nodup := hsorted.imp Nat.ne_of_lt
  have hincreasing : (i :: rest).Pairwise (· < ·) := by
    rw [← hready, h.ready]
    exact hsorted.filter _
  obtain ⟨hlow, hrest⟩ := List.pairwise_cons.mp hincreasing
  obtain ⟨hi, hfree⟩ := (h.mem_ready i).mp (by simp [hready])
  refine ⟨fun k => ?_, fun j hj k => ?_, ?_, fun k hk => ?_⟩
  · rw [counter_emit, h.followers i hi, h.counter_eq_add hnodup hi]
    omega
  · rw [followersOf_emit]
    exact h.followers j (List.mem_of_mem_erase hj) k
  · refine eq_of_increasing ?_ ((hsorted.sublist List.erase_sublist).filter _) fun k => ?_
    · exact increasing_foldl_release (l := { l with ready := rest }) _ hrest
    · rw [List.mem_filter]
      exact h.mem_ready_emit_iff hnodup hready (fun hmem => Nat.lt_irrefl i (hlow i hmem)) k
  · by_cases hki : k = i
    · subst hki
      exact isReady_of_subset hfree (List.erase_subset ..)
    · have hdone : k ∉ pending := fun hmem => hk (hnodup.mem_erase_iff.mpr ⟨hki, hmem⟩)
      exact isReady_of_subset (h.settled k hdone) (List.erase_subset ..)

end Emit

/-! ## A whole run -/

theorem run_succ_cons {fuel i : Nat} {rest : List Nat} (h : l.ready = i :: rest) :
    l.run (fuel + 1) = (i :: ((l.emit i rest).run fuel).1, ((l.emit i rest).run fuel).2) := by
  rw [run, h]

theorem run_succ_nil {fuel : Nat} (h : l.ready = []) : l.run (fuel + 1) = ([], l) := by
  rw [run, h]

/-- **Counting down orders what the search orders**, and the books are right for what the search
leaves over. -/
theorem Tracks.run {waits : Nat → List Nat} : ∀ (fuel : Nat) {l : Ledger} {pending : List Nat},
    l.Tracks waits pending → pending.Pairwise (· < ·) →
      (l.run fuel).1 = (orderReady waits fuel pending).1 ∧
      (l.run fuel).2.counters.length = l.counters.length ∧
      (l.run fuel).2.Tracks waits (orderReady waits fuel pending).2 := by
  intro fuel
  induction fuel with
  | zero => intro l pending h _; exact ⟨rfl, rfl, h⟩
  | succ fuel ih =>
    intro l pending h hsorted
    have hhead : pending.find? (isReady waits pending) = l.ready.head? := by
      rw [h.ready, List.head?_filter]
    cases hready : l.ready with
    | nil =>
      rw [run_succ_nil hready, orderReady_succ_none (by rw [hhead, hready]; rfl)]
      exact ⟨rfl, rfl, h⟩
    | cons i rest =>
      rw [run_succ_cons hready, orderReady_succ_some (by rw [hhead, hready]; rfl)]
      obtain ⟨hordered, hlength, hlast⟩ :=
        ih (h.emit hsorted hready) (hsorted.sublist List.erase_sublist)
      exact ⟨congrArg (i :: ·) hordered, hlength.trans (length_counters_emit l i rest), hlast⟩

/-- Where each pending place waits for another one, the places with a positive counter are the
pending ones. -/
theorem Tracks.waiting_eq {waits : Nat → List Nat} {pending : List Nat}
    (h : l.Tracks waits pending) (hsub : pending.Sublist (List.range l.counters.length))
    (hstuck : ∀ i ∈ pending, ∃ j ∈ pending, j ∈ waits i) : l.waiting = pending := by
  refine eq_of_increasing (List.pairwise_lt_range.filter _)
    (List.pairwise_lt_range.sublist hsub) fun i => ?_
  have hzero : l.counter i = 0 ↔ isReady waits pending i = true := by
    rw [h.counter, isReady_iff_countP]
  simp only [waiting, List.mem_filter, decide_eq_true_eq]
  constructor
  · rintro ⟨-, hpos⟩
    by_contra hdone
    exact Nat.ne_of_gt hpos (hzero.mpr (h.settled i hdone))
  · intro hi
    obtain ⟨j, hj, hwait⟩ := hstuck i hi
    refine ⟨hsub.subset hi, Nat.pos_of_ne_zero fun hcounter => ?_⟩
    exact not_mem_waits_of_isReady (hzero.mp hcounter) hj hwait

end Ledger

/-! ## The order of siblings -/

/-- The search among siblings. -/
def siblingRun (siblings : List Sibling) : List Nat × List Nat :=
  orderReady (fun i => (waitTable siblings)[i]?.getD []) siblings.length
    (List.range siblings.length)

theorem siblingRun_perm (siblings : List Sibling) :
    ((siblingRun siblings).1 ++ (siblingRun siblings).2).Perm (List.range siblings.length) :=
  orderReady_perm _ _ _

theorem length_waitTable (siblings : List Sibling) :
    (waitTable siblings).length = siblings.length := by
  simp [waitTable]

theorem lt_of_mem_waitTable {siblings : List Sibling} {row : List Nat}
    (hrow : row ∈ waitTable siblings) {j : Nat} (hj : j ∈ row) : j < siblings.length := by
  obtain ⟨⟨sibling, i⟩, -, rfl⟩ := List.mem_map.mp hrow
  obtain ⟨⟨other, k⟩, hk, rfl⟩ := List.mem_map.mp hj
  have hmem := (List.mem_filter.mp hk).1
  exact (List.getElem?_eq_some_iff.mp (List.mem_zipIdx_iff_getElem?.mp hmem)).1

/-- **The loop of counters gives what the search gives**: the same order, and a fault with the same
names. -/
theorem dependencyOrder_eq (siblings : List Sibling) :
    dependencyOrder siblings =
      match siblingRun siblings with
      | (ordered, []) => .ok ordered
      | (_, left) => .error (.declarationCycle ((left.filterMap (siblings[·]?)).map (·.name))) := by
  have htracks : (Ledger.ofTable (waitTable siblings)).Tracks
      (fun i => (waitTable siblings)[i]?.getD []) (List.range siblings.length) := by
    rw [← length_waitTable]
    refine Ledger.tracks_ofTable fun row hrow j hj => ?_
    rw [length_waitTable]
    exact lt_of_mem_waitTable hrow hj
  obtain ⟨hordered, hlength, hlast⟩ := htracks.run siblings.length List.pairwise_lt_range
  have hcounters : (Ledger.ofTable (waitTable siblings)).counters.length = siblings.length :=
    (Ledger.holds_foldl_enterRow (waitTable siblings) (Nat.le_refl _)).counters_length.trans
      (length_waitTable siblings)
  have hwaiting : ((Ledger.ofTable (waitTable siblings)).run siblings.length).2.waiting =
      (siblingRun siblings).2 := by
    refine hlast.waiting_eq ?_ fun i hi => exists_wait_of_mem_left (by simp) i hi
    rw [hlength, hcounters]
    exact orderReady_left_sublist _ _ _
  have hcount : (siblingRun siblings).1.length + (siblingRun siblings).2.length =
      siblings.length := by
    simpa using (siblingRun_perm siblings).length_eq
  replace hordered : ((Ledger.ofTable (waitTable siblings)).run siblings.length).1 =
      (siblingRun siblings).1 := hordered
  unfold dependencyOrder
  dsimp only
  rw [hordered, hwaiting]
  generalize siblingRun siblings = searched at hcount ⊢
  obtain ⟨ordered, left⟩ := searched
  cases left with
  | nil => exact if_pos hcount
  | cons i left =>
    have hne : ordered.length ≠ siblings.length := by
      rw [← hcount]
      simp
    exact if_neg hne

end SchemaGen
