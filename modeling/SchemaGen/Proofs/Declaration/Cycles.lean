import SchemaGen.Proofs.Declaration.Sorting

/-!
# What a report of a cycle names

When declarations cannot be put in order, the fault names those that the loop has left over. These
are not the declarations on a cycle alone: whatever mentions one of them, directly or through
others, waits for it forever. `Stuck` says this of a place of any graph, and the report names
exactly the stuck places, in the given order (`mem_left_iff_stuck`, `cycle_report`).

One direction is about what was put in order: each of its places has all its predecessors before it
(`precedes_ordered`), so going back from it along edges comes to an end. The other is about what is
left over: each of its places has a predecessor that is left over, so going back never ends, and
there are finitely many places (`stuck_of_closed`).
-/

set_option autoImplicit false

namespace SchemaGen

open Relation

/-! ## Stuck places -/

/-- A place lies on a cycle, or edges lead to it from one. -/
def Stuck (before : Nat → Nat → Prop) (i : Nat) : Prop :=
  ∃ j, TransGen before j j ∧ ReflTransGen before j i

/-- Where every place has a predecessor among finitely many, every one of them is stuck. -/
theorem stuck_of_closed {before : Nat → Nat → Prop} {left : List Nat}
    (h : ∀ i ∈ left, ∃ j ∈ left, before j i) {i : Nat} (hi : i ∈ left) : Stuck before i := by
  classical
  by_contra hnot
  let above := left.filter fun j => ReflTransGen before j i
  have hacyclic : Acyclic fun j k => before j k ∧ ReflTransGen before k i := by
    intro k hcycle
    obtain ⟨-, -, -, hki⟩ := TransGen.tail'_iff.mp hcycle
    have hwhole : TransGen before k k := by
      refine TransGen.mono ?_ _ _ hcycle
      exact fun _ _ hedge => hedge.1
    exact hnot ⟨k, hwhole, hki⟩
  have hne : above ≠ [] :=
    List.ne_nil_of_mem (List.mem_filter.mpr ⟨hi, decide_eq_true ReflTransGen.refl⟩)
  obtain ⟨k, hk, hsource⟩ := exists_source hacyclic hne
  obtain ⟨hleft, hki⟩ := List.mem_filter.mp hk
  obtain ⟨j, hj, hjk⟩ := h k hleft
  -- a predecessor of `k` leads to `i` as `k` does
  have hji : ReflTransGen before j i := ReflTransGen.head hjk (of_decide_eq_true hki)
  exact hsource j (List.mem_filter.mpr ⟨hj, decide_eq_true hji⟩) ⟨hjk, of_decide_eq_true hki⟩

/-- The stuck places among the first `count`, in increasing order. -/
structure AreStuck (before : Nat → Nat → Prop) (count : Nat) (places : List Nat) : Prop where
  increasing : places.Pairwise (· < ·)
  mem_iff : ∀ i, i ∈ places ↔ i < count ∧ Stuck before i

/-! ## What one run leaves over -/

/-- Nothing that is put in order waits for what is left over. -/
theorem not_mem_waits_of_mem_left {waits : Nat → List Nat} : ∀ {fuel : Nat} {pending : List Nat}
    {i k : Nat}, i ∈ (orderReady waits fuel pending).1 → k ∈ (orderReady waits fuel pending).2 →
      k ∉ waits i := by
  intro fuel
  induction fuel with
  | zero => intro pending i k hi; cases hi
  | succ fuel ih =>
    intro pending i k hi hk
    cases h : pending.find? (isReady waits pending) with
    | none =>
      rw [orderReady_succ_none h] at hi
      cases hi
    | some j =>
      rw [orderReady_succ_some h] at hi hk
      rcases List.mem_cons.mp hi with rfl | hi
      · have hpending := (orderReady_left_sublist waits fuel (pending.erase i)).subset hk
        exact not_mem_waits_of_isReady (List.find?_some h) (List.mem_of_mem_erase hpending)
      · exact ih hi hk

section Siblings

variable {siblings : List Sibling} {i j : Nat}

/-- A place that was put in order has all its predecessors before it. -/
theorem precedes_ordered (hi : i ∈ (siblingRun siblings).1) (hji : Precedes siblings j i) :
    j ∈ (siblingRun siblings).1 ∧
      (siblingRun siblings).1.idxOf j < (siblingRun siblings).1.idxOf i := by
  have hwait := mem_waitTable.mpr hji
  have hj : j ∈ (siblingRun siblings).1 := by
    have hmem := (siblingRun_perm siblings).mem_iff.mpr
      (List.mem_range.mpr (lt_length_of_precedes hji).1)
    rcases List.mem_append.mp hmem with hj | hj
    · exact hj
    · exact absurd hwait (not_mem_waits_of_mem_left hi hj)
  have hpair : (siblingRun siblings).1.Pairwise fun i k => ¬ Precedes siblings k i :=
    (orderReady_pairwise _ _ _).imp fun hnot hprec => hnot (mem_waitTable.mpr hprec)
  exact ⟨hj, idxOf_lt_idxOf_of_pairwise hpair hj hi hji.1 hji⟩

theorem transGen_ordered (hi : i ∈ (siblingRun siblings).1)
    (hji : TransGen (Precedes siblings) j i) :
    j ∈ (siblingRun siblings).1 ∧
      (siblingRun siblings).1.idxOf j < (siblingRun siblings).1.idxOf i := by
  induction hji using TransGen.head_induction_on with
  | single hji => exact precedes_ordered hi hji
  | head hjk _ ih =>
    obtain ⟨hj, hlt⟩ := precedes_ordered ih.1 hjk
    exact ⟨hj, Nat.lt_trans hlt ih.2⟩

theorem not_stuck_of_mem_ordered (hi : i ∈ (siblingRun siblings).1) :
    ¬ Stuck (Precedes siblings) i := by
  rintro ⟨j, hcycle, hji⟩
  have hj : j ∈ (siblingRun siblings).1 := by
    rcases reflTransGen_iff_eq_or_transGen.mp hji with rfl | hji
    · exact hi
    · exact (transGen_ordered hi hji).1
  exact Nat.lt_irrefl _ (transGen_ordered hj hcycle).2

/-- **What is left over is what is stuck.** -/
theorem mem_left_iff_stuck :
    i ∈ (siblingRun siblings).2 ↔ i < siblings.length ∧ Stuck (Precedes siblings) i := by
  constructor
  · intro hi
    refine ⟨?_, stuck_of_closed (fun k hk => ?_) hi⟩
    · exact List.mem_range.mp ((siblingRun_perm siblings).mem_iff.mp (List.mem_append_right _ hi))
    · obtain ⟨j, hj, hwait⟩ := exists_wait_of_mem_left (by simp) k hk
      exact ⟨j, hj, mem_waitTable.mp hwait⟩
  · rintro ⟨hlt, hstuck⟩
    have hmem := (siblingRun_perm siblings).mem_iff.mpr (List.mem_range.mpr hlt)
    rcases List.mem_append.mp hmem with hi | hi
    · exact absurd hstuck (not_stuck_of_mem_ordered hi)
    · exact hi

theorem areStuck_left (siblings : List Sibling) :
    AreStuck (Precedes siblings) siblings.length (siblingRun siblings).2 where
  increasing := List.pairwise_lt_range.sublist (orderReady_left_sublist _ _ _)
  mem_iff _ := mem_left_iff_stuck

end Siblings

/-! ## Reports -/

/-- A fault reports a cycle among declarations of these names: it names those of them that are
stuck, and there are some. -/
structure ReportsCycle (before : Nat → Nat → Prop) (names : List String) (fault : Fault) : Prop where
  code : fault.code = some .failedPrecondition
  message : ∃ places, places ≠ [] ∧ AreStuck before names.length places ∧
    fault.message =
      "declaration cycle detected involving: " ++ ", ".intercalate (pick names places)

theorem reportsCycle_of_dependencyOrder {siblings : List Sibling} {fault : Fault}
    (h : dependencyOrder siblings = .error fault) :
    ReportsCycle (Precedes siblings) (siblings.map (·.name)) fault := by
  have hleft : (siblingRun siblings).2 ≠ [] := by
    intro hnil
    have hok : dependencyOrder siblings = .ok (siblingRun siblings).1 :=
      dependencyOrder_eq_ok_iff.mpr (Prod.ext rfl hnil)
    rw [hok] at h
    cases h
  have hfault : fault = .declarationCycle (pick (siblings.map (·.name)) (siblingRun siblings).2) := by
    have hnames : pick (siblings.map (·.name)) (siblingRun siblings).2 =
        ((siblingRun siblings).2.filterMap (siblings[·]?)).map (·.name) := by
      rw [pick, List.map_filterMap]
      simp only [List.getElem?_map]
    rw [hnames]
    rw [dependencyOrder_eq] at h
    split at h
    · cases h
    · next ordered left hrun =>
      rw [show (siblingRun siblings).2 = _ from congrArg Prod.snd hrun]
      exact (Except.error.inj h).symm
  rw [hfault]
  refine ⟨rfl, (siblingRun siblings).2, hleft, ?_, rfl⟩
  rw [List.length_map]
  exact areStuck_left siblings

/-- **A report of a cycle names what is stuck, and nothing else happens.** For the children of any
node of a forest, and for the declarations of a scope: if they cannot be put in order, the fault
names, in their order, exactly those that lie on a cycle of mentions or mention, directly or through
others, one that does. The forest is left as it was. -/
theorem cycle_report :
    (∀ (w : World) (node : NodeId) (fault : Fault), (w.sortChildren node).2.result = .error fault →
      (w.sortChildren node).1 = w ∧
      ReportsCycle (w.MustPrecede node) ((w.decls.children node).map (declName w.decls)) fault) ∧
    (∀ (scope : String) (trees : List (Tree Decl)) (fault : Fault),
      (orderTrees scope trees).result = .error fault →
        ReportsCycle (MustPrecede trees) (trees.map (·.label.name)) fault) := by
  constructor
  · intro w node fault h
    cases horder : dependencyOrder ((w.decls.children node).map w.siblingAt) with
    | ok places =>
      rw [(World.sortChildren_of_order horder).1] at h
      cases h
    | error fault' =>
      have hsort : w.sortChildren node = (w, .fail fault') := by
        unfold World.sortChildren
        simp only [horder]
      rw [hsort] at h ⊢
      cases h
      have hreport := reportsCycle_of_dependencyOrder horder
      rw [List.map_map, World.precedes_siblingAt] at hreport
      exact ⟨rfl, hreport⟩
  · intro scope trees fault h
    rw [orderTrees_result] at h
    cases horder : dependencyOrder (trees.map .ofTree) with
    | ok places =>
      rw [horder] at h
      cases h
    | error fault' =>
      rw [horder] at h
      cases h
      have hreport := reportsCycle_of_dependencyOrder horder
      rw [List.map_map, precedes_ofTree] at hreport
      exact hreport

/-! ## Two classes that need each other -/

/-- Two classes that have a member of each other's type, one that has a member of the first's, and
two types that have nothing to do with them. -/
def entangledDecls : Tree (Tree.Numbered Decl) :=
  .node ⟨0, .scope "n"⟩
    [.node ⟨1, .struct { name := "Outside" }⟩ [.leaf ⟨2, .stored "left" "Left"⟩],
      .node ⟨3, .struct { name := "Left" }⟩ [.leaf ⟨4, .stored "right" "Right"⟩],
      .node ⟨5, .struct { name := "User" }⟩ [.leaf ⟨6, .stored "plain" "Plain"⟩],
      .node ⟨7, .struct { name := "Right" }⟩ [.leaf ⟨8, .stored "left" "Left"⟩],
      .leaf ⟨9, .enumeration "Plain" []⟩]

/-- A forest that holds them. -/
def entangledWorld : World :=
  { decls := ({} : Forest Decl).plant entangledDecls }

/-- The report names the two, and the class that waits for them. -/
theorem cycle_report_entangled :
    (entangledWorld.sortChildren 0).2.result =
      .error (.declarationCycle ["Outside", "Left", "Right"]) ∧
    (entangledWorld.sortChildren 0).1 = entangledWorld ∧
    ReportsCycle (entangledWorld.MustPrecede 0) ["Outside", "Left", "User", "Right", "Plain"]
      (.declarationCycle ["Outside", "Left", "Right"]) := by
  have hfault : (entangledWorld.sortChildren 0).2.result =
      .error (.declarationCycle ["Outside", "Left", "Right"]) := by
    rfl
  obtain ⟨hsame, hreport⟩ := cycle_report.1 entangledWorld 0 _ hfault
  exact ⟨hfault, hsame, hreport⟩

end SchemaGen
