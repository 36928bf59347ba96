import SchemaGen.Proofs.Declaration.Sorting

/-!
# The canonical order

Of all orders that put what is mentioned first, sorting gives the lowest: the one in which the first
place is lowest, then the second, and so on (`isLowest_of_dependencyOrder`). So the result hangs on
the declarations alone, and a file that is generated again comes out as before.

The loop takes the lowest place that is ready. Whatever another order starts with is ready as well,
since nothing in this order stands before it, so it is not lower (`orderReady_notAbove`). The case
of an order that keeps all places is stated apart (`orderReady_of_forward`): declarations that are
in order stay where they are. Sorting a second time is such a case, because reordering children
changes nothing that is below any of them, and so no mention (`mentionsName_setChildren_iff`).
-/

set_option autoImplicit false

namespace SchemaGen

/-! ## The lowest order -/

/-- Nothing in an order is preceded by what comes later. -/
theorem IsOrdering.pairwise {before : Nat → Nat → Prop} {count : Nat} {places : List Nat}
    (h : IsOrdering before count places) : places.Pairwise fun i k => ¬ before k i := by
  refine List.pairwise_iff_getElem.mpr fun x y hx hy hlt hbefore => ?_
  have hback : y < x :=
    h.lt_of_before (List.getElem?_eq_getElem hy) (List.getElem?_eq_getElem hx) hbefore
  exact Nat.lt_asymm hlt hback

/-- Two lists of places are the same, or the first is lower where they first differ. -/
def NotAbove (places other : List Nat) : Prop :=
  places = other ∨ List.Lex (· < ·) places other

theorem notAbove_nil : ∀ other : List Nat, NotAbove [] other
  | [] => Or.inl rfl
  | _ :: _ => Or.inr .nil

theorem notAbove_of_lt {i a : Nat} (h : i < a) (places other : List Nat) :
    NotAbove (i :: places) (a :: other) :=
  Or.inr (.rel h)

theorem NotAbove.cons {places other : List Nat} (h : NotAbove places other) (i : Nat) :
    NotAbove (i :: places) (i :: other) :=
  h.imp (congrArg (i :: ·)) .cons

/-- **A run gives the lowest order of what is pending**: no list of the pending places in which
nothing waits for a later one is lower. -/
theorem orderReady_notAbove {waits : Nat → List Nat} (hself : ∀ i, i ∉ waits i) :
    ∀ (fuel : Nat) {pending other : List Nat}, pending.Pairwise (· < ·) → other.Perm pending →
      other.Pairwise (fun i k => k ∉ waits i) →
        NotAbove (orderReady waits fuel pending).1 other := by
  intro fuel
  induction fuel with
  | zero => intro pending other _ _ _; exact notAbove_nil other
  | succ fuel ih =>
    intro pending other hsorted hperm hother
    cases h : pending.find? (isReady waits pending) with
    | none =>
      rw [orderReady_succ_none h]
      exact notAbove_nil other
    | some i =>
      rw [orderReady_succ_some h]
      cases other with
      | nil =>
        rw [← hperm.nil_eq] at h
        cases h
      | cons a rest =>
        obtain ⟨hfirst, hrest⟩ := List.pairwise_cons.mp hother
        have ha : a ∈ pending := hperm.subset List.mem_cons_self
        -- what the other order starts with waits for nothing that is pending
        have hready : isReady waits pending a = true := by
          refine List.all_eq_true.mpr fun k hk => ?_
          have hnot : k ∉ pending := by
            intro hkpending
            rcases List.mem_cons.mp (hperm.mem_iff.mpr hkpending) with rfl | hkrest
            · exact hself k hk
            · exact hfirst k hkrest hk
          simpa using hnot
        rcases Nat.lt_or_eq_of_le (le_of_find?_eq_some hsorted h ha hready) with hlt | rfl
        · exact notAbove_of_lt hlt _ _
        · exact (ih (hsorted.sublist List.erase_sublist)
            (List.cons_perm_iff_perm_erase.mp hperm).2 hrest).cons i

/-- Pending places none of which waits for a later one are put in order as they are. -/
theorem orderReady_of_forward {waits : Nat → List Nat} (hforward : ∀ i, ∀ k ∈ waits i, k < i) :
    ∀ {fuel : Nat} {pending : List Nat}, pending.length ≤ fuel → pending.Pairwise (· < ·) →
      orderReady waits fuel pending = (pending, []) := by
  intro fuel
  induction fuel with
  | zero =>
    intro pending hlen _
    rw [List.length_eq_zero_iff.mp (Nat.le_zero.mp hlen)]
    rfl
  | succ fuel ih =>
    intro pending hlen hsorted
    cases pending with
    | nil => rfl
    | cons i rest =>
      obtain ⟨hlow, hrest⟩ := List.pairwise_cons.mp hsorted
      have hready : isReady waits (i :: rest) i = true := by
        refine List.all_eq_true.mpr fun k hk => ?_
        have hki : k < i := hforward i k hk
        have hnot : k ∉ i :: rest := by
          intro hmem
          rcases List.mem_cons.mp hmem with rfl | hmem
          · exact Nat.lt_irrefl _ hki
          · exact Nat.lt_asymm hki (hlow k hmem)
        simpa using hnot
      rw [orderReady_succ_some (List.find?_cons_of_pos hready), List.erase_cons_head,
        ih (Nat.le_of_succ_le_succ hlen) hrest]

/-- An order that is not above any other. -/
structure IsLowest (before : Nat → Nat → Prop) (count : Nat) (places : List Nat) : Prop where
  isOrdering : IsOrdering before count places
  notAbove : ∀ other, IsOrdering before count other → NotAbove places other

section Siblings

variable {siblings : List Sibling}

theorem isLowest_of_dependencyOrder {places : List Nat}
    (h : dependencyOrder siblings = .ok places) :
    IsLowest (Precedes siblings) siblings.length places := by
  refine ⟨isOrdering_of_dependencyOrder h, fun other hother => ?_⟩
  have hself : ∀ i, i ∉ (waitTable siblings)[i]?.getD [] := fun i hi => (mem_waitTable.mp hi).1 rfl
  have hle := orderReady_notAbove hself siblings.length List.pairwise_lt_range hother.perm
    (hother.pairwise.imp fun hnot hwait => hnot (mem_waitTable.mp hwait))
  rwa [show orderReady _ _ _ = (places, []) from dependencyOrder_eq_ok_iff.mp h] at hle

theorem dependencyOrder_of_forward (h : ∀ j i, Precedes siblings j i → j < i) :
    dependencyOrder siblings = .ok (List.range siblings.length) := by
  refine dependencyOrder_eq_ok_iff.mpr (orderReady_of_forward (fun i k hk => ?_) ?_ ?_)
  · exact h k i (mem_waitTable.mp hk)
  · exact Nat.le_of_eq List.length_range
  · exact List.pairwise_lt_range

end Siblings

/-- A list in the lowest of the orders in which every edge between old places leads forward. -/
def Canonical {α : Type} (before : Nat → Nat → Prop) (old new : List α) : Prop :=
  ∃ places, IsLowest before old.length places ∧ new = pick old places

/-! ## The declarations of a scope -/

theorem canonical_of_orderTrees {scope : String} {trees ordered : List (Tree Decl)}
    (h : (orderTrees scope trees).result = .ok ordered) :
    Canonical (MustPrecede trees) trees ordered := by
  obtain ⟨places, hplaces, rfl⟩ := orderTrees_eq_ok_iff.mp h
  have hlowest := isLowest_of_dependencyOrder hplaces
  rw [List.length_map, precedes_ofTree] at hlowest
  exact ⟨places, hlowest, rfl⟩

theorem orderTrees_of_forward {scope : String} {trees : List (Tree Decl)}
    (h : ∀ j i, MustPrecede trees j i → j < i) : (orderTrees scope trees).result = .ok trees := by
  rw [← precedes_ofTree] at h
  refine orderTrees_eq_ok_iff.mpr ⟨_, dependencyOrder_of_forward h, ?_⟩
  rw [List.length_map, pick_range]

/-! ## The children of a node -/

namespace Forest

variable {α : Type}

/-- Child lists in another order lead to the same nodes. -/
theorem below_setChildren_iff {f : Forest α} {id a b : NodeId} {ordered : List NodeId}
    (h : ordered.Perm (f.children id)) : (f.setChildren id ordered).Below a b ↔ f.Below a b := by
  have hlinks : (fun x y => y ∈ (f.setChildren id ordered).children x) =
      fun x y => y ∈ f.children x := by
    funext x y
    exact propext (children_setChildren_perm h x).mem_iff
  rw [Below, Below, hlinks]

theorem find?_setChildren_children {f : Forest α} {id other : NodeId} :
    (f.setChildren id (f.children id)).find? other = f.find? other := by
  by_cases h : other = id
  · rw [h, find?_setChildren_self]
    cases hf : f.find? id with
    | none => rfl
    | some e => rw [children_of_find? hf]; rfl
  · exact find?_setChildren_of_ne h

end Forest

namespace World

/-- Two worlds that know the same of every node. -/
structure Same (w w' : World) : Prop where
  decls : ∀ id, w'.decls.find? id = w.decls.find? id
  defns : w'.defns = w.defns

variable {w : World} {node : NodeId}

theorem mentionsName_setChildren_iff {ordered : List NodeId} {child : NodeId} {name : String}
    (h : ordered.Perm (w.decls.children node)) :
    ({ w with decls := w.decls.setChildren node ordered } : World).MentionsName child name ↔
      w.MentionsName child name := by
  unfold MentionsName
  simp only [Forest.below_setChildren_iff h, Forest.value?_setChildren]

/-- An edge from one declaration to another: the second mentions the first by its name. -/
def NeededBy (w : World) (a b : NodeId) : Prop :=
  declName w.decls a ≠ "" ∧ w.MentionsName b (declName w.decls a)

theorem neededBy_setChildren {ordered : List NodeId} (h : ordered.Perm (w.decls.children node)) :
    ({ w with decls := w.decls.setChildren node ordered } : World).NeededBy = w.NeededBy := by
  funext a b
  have hname : declName (w.decls.setChildren node ordered) a = declName w.decls a := by
    rw [declName, Forest.value?_setChildren, declName]
  rw [eq_iff_iff, NeededBy, NeededBy, mentionsName_setChildren_iff h, hname]

theorem mustPrecede_eq (w : World) (node : NodeId) :
    w.MustPrecede node = EdgesOf w.NeededBy (w.decls.children node) :=
  rfl

theorem canonical_of_sortChildren (h : (w.sortChildren node).2.result = .ok ()) :
    Canonical (w.MustPrecede node) (w.decls.children node)
      ((w.sortChildren node).1.decls.children node) := by
  obtain ⟨places, hplaces⟩ := exists_order_of_sortChildren h
  have hlowest := isLowest_of_dependencyOrder hplaces
  rw [List.length_map, precedes_siblingAt] at hlowest
  rw [(sortChildren_of_order hplaces).2]
  exact ⟨places, hlowest, Forest.children_setChildren_self (pick_perm hlowest.1.perm)⟩

theorem sortChildren_of_forward (h : ∀ j i, w.MustPrecede node j i → j < i) :
    (w.sortChildren node).2.result = .ok () ∧ Same w (w.sortChildren node).1 := by
  rw [← precedes_siblingAt] at h
  obtain ⟨hresult, hworld⟩ := sortChildren_of_order (dependencyOrder_of_forward h)
  rw [List.length_map, pick_range] at hworld
  refine ⟨hresult, ?_⟩
  rw [hworld]
  exact ⟨fun _ => Forest.find?_setChildren_children, rfl⟩

/-- Once they are sorted, children mention forward only. -/
theorem lt_of_mustPrecede_sorted (h : (w.sortChildren node).2.result = .ok ()) {j i : Nat}
    (hji : (w.sortChildren node).1.MustPrecede node j i) : j < i := by
  obtain ⟨hsorted, -⟩ := sortedFrom_of_sortChildren h
  obtain ⟨places, hplaces⟩ := exists_order_of_sortChildren h
  have hordering := isOrdering_of_dependencyOrder hplaces
  rw [List.length_map] at hordering
  rw [mustPrecede_eq, (sortChildren_of_order hplaces).2,
    neededBy_setChildren (pick_perm hordering.perm)] at hji
  rw [mustPrecede_eq, (sortChildren_of_order hplaces).2] at hsorted
  exact hsorted.lt_of_edge hji

end World

/-- **Sorting gives the lowest order, and keeps what is in order.** For the children of any node of a
forest, and for the declarations of a scope: when sorting succeeds, the places that the declarations
had, read in their new order, are the lowest of all orders in which every edge leads forward, and
sorting once more succeeds and changes nothing. Declarations among which every edge leads forward
are sorted by leaving them where they are. -/
theorem canonical_order :
    (∀ (w : World) (node : NodeId),
      ((w.sortChildren node).2.result = .ok () →
        Canonical (w.MustPrecede node) (w.decls.children node)
            ((w.sortChildren node).1.decls.children node) ∧
          ((w.sortChildren node).1.sortChildren node).2.result = .ok () ∧
          World.Same (w.sortChildren node).1 ((w.sortChildren node).1.sortChildren node).1) ∧
      ((∀ j i, w.MustPrecede node j i → j < i) →
        (w.sortChildren node).2.result = .ok () ∧ World.Same w (w.sortChildren node).1)) ∧
    (∀ (scope : String) (trees : List (Tree Decl)),
      (∀ ordered, (orderTrees scope trees).result = .ok ordered →
        Canonical (MustPrecede trees) trees ordered ∧
          (orderTrees scope ordered).result = .ok ordered) ∧
      ((∀ j i, MustPrecede trees j i → j < i) →
        (orderTrees scope trees).result = .ok trees)) := by
  refine ⟨fun w node => ⟨fun h => ⟨World.canonical_of_sortChildren h, ?_⟩, ?_⟩,
    fun scope trees => ⟨fun ordered h => ⟨canonical_of_orderTrees h, ?_⟩, ?_⟩⟩
  · exact World.sortChildren_of_forward fun _ _ hji => World.lt_of_mustPrecede_sorted h hji
  · exact World.sortChildren_of_forward
  · exact orderTrees_of_forward fun _ _ hji => lt_of_mustPrecede_ordered h hji
  · exact orderTrees_of_forward

/-! ## A class in front of its type -/

/-- A class that has a member of the last type, one that mentions nothing, and the type. -/
def layeredWorld : World where
  decls := ({} : Forest Decl).plant
    (.node ⟨0, .scope "n"⟩
      [.node ⟨1, .struct { name := "User" }⟩ [.leaf ⟨2, .stored "plain" "Plain"⟩],
        .leaf ⟨3, .struct { name := "Other" }⟩,
        .leaf ⟨4, .enumeration "Plain" []⟩])

/-- The class goes behind its type; the class between them need not follow either, and goes first
since it stood before the type. -/
theorem canonical_order_layered :
    (layeredWorld.sortChildren 0).2.result = .ok () ∧
    (layeredWorld.sortChildren 0).1.decls.children 0 = [3, 4, 1] ∧
    Canonical (layeredWorld.MustPrecede 0) [1, 3, 4] [3, 4, 1] ∧
    World.Same (layeredWorld.sortChildren 0).1
      ((layeredWorld.sortChildren 0).1.sortChildren 0).1 := by
  have hok : (layeredWorld.sortChildren 0).2.result = .ok () := by
    rfl
  obtain ⟨hcanonical, -, hsame⟩ := (canonical_order.1 layeredWorld 0).1 hok
  exact ⟨hok, rfl, hcanonical, hsame⟩

end SchemaGen
