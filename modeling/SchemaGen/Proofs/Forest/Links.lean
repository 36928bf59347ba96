import Mathlib.Data.Finset.Card
import Mathlib.Tactic.Choose
import Mathlib.Tactic.SplitIfs
import SchemaGen.Proofs.Forest.Create

/-!
# Links in both directions

A forest holds two links for every child: the one in its own entry and the one in the child list of
its parent. `Paired` says that the two agree. A new node keeps it, so does a root that becomes a
child, and so do child lists in another order.

Agreement does not rule out a loop. Following parents comes to an end (`Ends`) unless some root was
linked below itself, and then never again (`Paired.ends_link_iff`). Where it does come to an end the
bounds in `depth` and `outline?` are no bounds at all: a depth is the number of steps to a root, and
an outline is made of the outlines of the children (`Paired.climbs_depth`, `Paired.outline?_eq`).
-/

set_option autoImplicit false

namespace SchemaGen.Forest

open Relation

variable {α : Type} {f f' : Forest α} {id p c : NodeId} {n m d : Nat}

/-! ## Linking -/

theorem find?_link : (f.link p c).find? id = (f.find? id).map fun e =>
    { e with
      parent := if id = c then some p else e.parent
      children := e.children ++ if id = p then [c] else [] } := by
  rw [link, find?_update (by intro e; rfl), find?_update (by intro e; rfl), Option.map_map]
  refine Option.map_congr fun e he => ?_
  obtain ⟨i, v, q, cs⟩ := e
  obtain rfl : i = id := find?_id he
  simp only [Function.comp_apply]
  split_ifs <;> simp_all

theorem parent?_link (hc : (f.find? c).isSome) :
    (f.link p c).parent? id = if id = c then some p else f.parent? id := by
  rw [parent?, find?_link, parent?]
  by_cases hid : id = c
  · obtain ⟨e, he⟩ := Option.isSome_iff_exists.mp hc
    simp [hid, he]
  · cases f.find? id <;> simp [hid]

theorem children_link (hp : (f.find? p).isSome) :
    (f.link p c).children id = f.children id ++ if id = p then [c] else [] := by
  rw [children, find?_link, children]
  by_cases hid : id = p
  · obtain ⟨e, he⟩ := Option.isSome_iff_exists.mp hp
    simp [hid, he]
  · cases f.find? id <;> simp [hid]

theorem value?_link : (f.link p c).value? id = f.value? id := by
  rw [value?, find?_link, Option.map_map, value?]
  rfl

/-- What a node has after a link, if there is such a node. -/
theorem children_link_of_isSome (h : (f.find? id).isSome) :
    (f.link p c).children id = f.children id ++ if id = p then [c] else [] := by
  obtain ⟨e, he⟩ := Option.isSome_iff_exists.mp h
  rw [children, find?_link, he, children, he]
  rfl

/-- A new node is no change to one that is there. -/
theorem find?_create_of_isSome (h : (f.find? id).isSome) (v : α) :
    (f.create none v).1.find? id = f.find? id := by
  obtain ⟨e, he⟩ := Option.isSome_iff_exists.mp h
  rw [find?_create, he]
  rfl

theorem value?_create_of_isSome (h : (f.find? id).isSome) (v : α) :
    (f.create none v).1.value? id = f.value? id := by
  rw [value?, find?_create_of_isSome h, value?]

theorem parent?_create (h : f.WellNumbered) (v : α) :
    (f.create none v).1.parent? id = f.parent? id := by
  rw [parent?, find?_create, parent?]
  by_cases hid : f.next = id
  · rw [← hid, h.find?_next]
    simp
  · simp [hid]

theorem children_create (h : f.WellNumbered) (v : α) :
    (f.create none v).1.children id = f.children id := by
  rw [children, find?_create, children]
  by_cases hid : f.next = id
  · rw [← hid, h.find?_next]
    simp
  · simp [hid]

/-! ## Agreement -/

/-- The two links of every child agree: the parent of a node is the one that has it among its
children, and has it once. -/
structure Paired (f : Forest α) : Prop where
  numbered : f.WellNumbered
  agree : ∀ p c, f.parent? c = some p ↔ c ∈ f.children p
  once : ∀ p, (f.children p).Nodup

theorem paired_empty : ({} : Forest α).Paired where
  numbered := ⟨fun _ he => (nomatch he), fun _ he => (nomatch he)⟩
  agree _ _ := ⟨fun h => (nomatch h), fun h => (nomatch h)⟩
  once _ := .nil

theorem Paired.isSome_parent (h : f.Paired) (hparent : f.parent? c = some p) :
    (f.find? p).isSome := by
  obtain ⟨e, he⟩ := exists_find?_of_mem_children ((h.agree p c).mp hparent)
  rw [he]
  rfl

theorem isSome_of_parent? (hparent : f.parent? c = some p) : (f.find? c).isSome := by
  obtain ⟨e, he, -⟩ := Option.bind_eq_some_iff.mp hparent
  rw [he]
  rfl

theorem lt_next_of_isSome (h : f.WellNumbered) (hid : (f.find? id).isSome) : id < f.next := by
  obtain ⟨e, he⟩ := Option.isSome_iff_exists.mp hid
  exact find?_id he ▸ h.ids e (List.mem_of_find?_eq_some he)

theorem Paired.create (h : f.Paired) (v : α) : (f.create none v).1.Paired where
  numbered := h.numbered.create v
  agree p c := by rw [parent?_create h.numbered, children_create h.numbered, h.agree]
  once p := by rw [children_create h.numbered]; exact h.once p

/-- A node without parent is in no child list, so it is in one afterwards. -/
theorem Paired.link (h : f.Paired) (hp : (f.find? p).isSome) (hc : (f.find? c).isSome)
    (hroot : f.parent? c = none) : (f.link p c).Paired := by
  have hfree (q : NodeId) : c ∉ f.children q := by
    intro hmem
    rw [(h.agree q c).mpr hmem] at hroot
    cases hroot
  refine ⟨?_, fun q x => ?_, fun q => ?_⟩
  · refine WellNumbered.update ?_ p (fun _ => rfl) fun e x hx => ?_
    · exact h.numbered.update c (fun _ => rfl) fun _ _ hx => Or.inl hx
    rcases List.mem_append.mp hx with hx | hx
    · exact Or.inl hx
    · rw [List.mem_singleton.mp hx]
      exact Or.inr (show c < f.next from lt_next_of_isSome h.numbered hc)
  · rw [parent?_link hc, children_link hp, List.mem_append, ← h.agree]
    by_cases hx : x = c
    · rw [if_pos hx, hx, hroot]
      by_cases hq : q = p
      · simp [hq]
      · simp [hq, Ne.symm hq]
    · rw [if_neg hx]
      by_cases hq : q = p <;> simp [hq, hx]
  · rw [children_link hp]
    by_cases hq : q = p
    · rw [if_pos hq, ← List.concat_eq_append]
      exact (h.once q).concat (hfree q)
    · rw [if_neg hq, List.append_nil]
      exact h.once q

theorem Paired.setChildren (h : f.Paired) {ordered : List NodeId}
    (hperm : ordered.Perm (f.children id)) : (f.setChildren id ordered).Paired where
  numbered := h.numbered.update id (fun _ => rfl) fun _ _ hx =>
    Or.inr (lt_next_of_mem_children h.numbered (hperm.subset hx))
  agree q x := by
    rw [parent?_setChildren, (children_setChildren_perm hperm q).mem_iff, h.agree]
  once q := (children_setChildren_perm hperm q).nodup_iff.mpr (h.once q)

/-! ## Following parents -/

/-- After this many steps from child to parent there is no parent. -/
def Climbs (f : Forest α) : Nat → NodeId → Prop
  | 0, id => f.parent? id = none
  | n + 1, id => ∃ p, f.parent? id = some p ∧ f.Climbs n p

/-- Following parents comes to an end, wherever it starts. -/
def Ends (f : Forest α) : Prop :=
  ∀ id, ∃ n, f.Climbs n id

theorem ends_empty : ({} : Forest α).Ends :=
  fun _ => ⟨0, rfl⟩

theorem Climbs.unique : ∀ {n m : Nat} {id : NodeId}, f.Climbs n id → f.Climbs m id → n = m
  | 0, 0, _, _, _ => rfl
  | 0, _ + 1, _, h, ⟨_, hp, _⟩ => by cases hp.symm.trans h
  | _ + 1, 0, _, ⟨_, hp, _⟩, h => by cases hp.symm.trans h
  | n + 1, m + 1, _, ⟨p, hp, hn⟩, ⟨q, hq, hm⟩ => by
    cases hp.symm.trans hq
    rw [hn.unique hm]

theorem Climbs.congr (hsame : ∀ id, f'.parent? id = f.parent? id) :
    ∀ {n : Nat} {id : NodeId}, f.Climbs n id → f'.Climbs n id
  | 0, id, h => (hsame id).trans h
  | _ + 1, id, ⟨p, hp, hn⟩ => ⟨p, (hsame id).trans hp, hn.congr hsame⟩

theorem ends_congr (hsame : ∀ id, f'.parent? id = f.parent? id) : f'.Ends ↔ f.Ends :=
  ⟨fun h id => (h id).imp fun _ hn => hn.congr fun x => (hsame x).symm,
    fun h id => (h id).imp fun _ hn => hn.congr hsame⟩

/-! ## Loops -/

/-- What ends after a link has ended before: it may end earlier, at the new child. -/
theorem Climbs.of_link (hc : (f.find? c).isSome) (hroot : f.parent? c = none) :
    ∀ {n : Nat} {id : NodeId}, (f.link p c).Climbs n id → ∃ m, f.Climbs m id
  | 0, id, h => by
    have hid : (f.link p c).parent? id = none := h
    rw [parent?_link hc] at hid
    split at hid
    · cases hid
    · exact ⟨0, hid⟩
  | n + 1, id, ⟨q, hq, hn⟩ => by
    rw [parent?_link hc] at hq
    split at hq
    next hid => exact ⟨0, hid ▸ hroot⟩
    next =>
      obtain ⟨m, hm⟩ := hn.of_link hc hroot
      exact ⟨m + 1, q, hq, hm⟩

/-- From a node that is not below the new child nothing has changed. -/
theorem Paired.climbs_link_of_not_below (h : f.Paired) (hc : (f.find? c).isSome) :
    ∀ {n : Nat} {id : NodeId}, f.Climbs n id → ¬ f.Below c id → (f.link p c).Climbs n id
  | 0, id, hn, hbelow => by
    have hid : id ≠ c := fun hid => hbelow (hid ▸ .refl)
    show (f.link p c).parent? id = none
    rw [parent?_link hc, if_neg hid]
    exact hn
  | n + 1, id, ⟨q, hq, hn⟩, hbelow => by
    have hid : id ≠ c := fun hid => hbelow (hid ▸ .refl)
    refine ⟨q, ?_, h.climbs_link_of_not_below hc hn fun hq' => ?_⟩
    · rw [parent?_link hc, if_neg hid, hq]
    · exact hbelow (hq'.tail ((h.agree q id).mp hq))

/-- **A loop.** Once a root is linked below itself, nothing at or below it leads to an end. -/
theorem Paired.not_climbs_link (h : f.Paired) (hc : (f.find? c).isSome) (hbelow : f.Below c p) :
    ∀ {n : Nat} {id : NodeId}, f.Below c id → ¬ (f.link p c).Climbs n id := by
  -- every node at or below `c` has a parent there: `c` itself has `p`, the others keep theirs
  have hparent {id : NodeId} (hid : f.Below c id) :
      ∃ q, (f.link p c).parent? id = some q ∧ f.Below c q := by
    rw [parent?_link hc]
    split
    next => exact ⟨p, rfl, hbelow⟩
    next hne =>
      rcases ReflTransGen.cases_tail hid with heq | ⟨q, hq, hlink⟩
      · exact absurd heq hne
      · exact ⟨q, (h.agree q id).mpr hlink, hq⟩
  intro n
  induction n with
  | zero =>
    intro id hid hn
    obtain ⟨q, hq, -⟩ := hparent hid
    cases hq.symm.trans hn
  | succ n ih =>
    rintro id hid ⟨q', hq', hn⟩
    obtain ⟨q, hq, hqbelow⟩ := hparent hid
    cases hq.symm.trans hq'
    exact ih hqbelow hn

/-- **When parents still come to an end.** -/
theorem Paired.ends_link_iff (h : f.Paired) (hc : (f.find? c).isSome)
    (hroot : f.parent? c = none) : (f.link p c).Ends ↔ f.Ends ∧ ¬ f.Below c p := by
  constructor
  · refine fun hends => ⟨fun id => ?_, fun hbelow => ?_⟩
    · obtain ⟨n, hn⟩ := hends id
      exact hn.of_link hc hroot
    · obtain ⟨n, hn⟩ := hends p
      exact h.not_climbs_link hc hbelow hbelow hn
  · rintro ⟨hends, hbelow⟩ id
    -- a way to the new child goes on at `p`, and from there it does not come back
    obtain ⟨d, hd⟩ := hends p
    have hp := h.climbs_link_of_not_below (p := p) hc hd hbelow
    obtain ⟨n, hn⟩ := hends id
    induction n generalizing id with
    | zero =>
      by_cases hid : id = c
      · exact ⟨d + 1, p, by rw [parent?_link hc, if_pos hid], hp⟩
      · refine ⟨0, ?_⟩
        show (f.link p c).parent? id = none
        rw [parent?_link hc, if_neg hid]
        exact hn
    | succ n ih =>
      obtain ⟨q, hq, hn⟩ := hn
      obtain ⟨m, hm⟩ := ih q hn
      have hid : id ≠ c := by
        rintro rfl
        cases hq.symm.trans hroot
      exact ⟨m + 1, q, by rw [parent?_link hc, if_neg hid, hq], hm⟩

/-- Below a node there are nodes only. -/
theorem Paired.isSome_of_below (h : f.Paired) (hid : (f.find? id).isSome) (hbelow : f.Below id c) :
    (f.find? c).isSome := by
  rcases ReflTransGen.cases_tail hbelow with rfl | ⟨q, -, hlink⟩
  · exact hid
  · exact isSome_of_parent? ((h.agree q c).mpr hlink)

/-- A loop of two nodes has no end. -/
theorem not_ends_of_loop (hp : f.parent? p = some c) (hc : f.parent? c = some p) : ¬ f.Ends := by
  have hloop (n : Nat) : ¬ f.Climbs n p ∧ ¬ f.Climbs n c := by
    induction n with
    | zero => exact ⟨fun h => Option.some_ne_none c (hp.symm.trans h),
        fun h => Option.some_ne_none p (hc.symm.trans h)⟩
    | succ n ih =>
      constructor
      · rintro ⟨q, hq, hn⟩
        cases hp.symm.trans hq
        exact ih.2 hn
      · rintro ⟨q, hq, hn⟩
        cases hc.symm.trans hq
        exact ih.1 hn
  intro hends
  obtain ⟨n, hn⟩ := hends p
  exact (hloop n).1 hn

/-! ## New children -/

/-- The number of a node, if there is a node. -/
def known? (f : Forest α) (id : Option NodeId) : Option NodeId :=
  id.filter fun id => (f.find? id).isSome

theorem known?_eq_some_iff {id? : Option NodeId} :
    f.known? id? = some id ↔ id? = some id ∧ (f.find? id).isSome :=
  Option.filter_eq_some_iff

/-- A new child is a new root that is linked at once. -/
theorem Paired.new_root (h : f.Paired) (hp : (f.find? p).isSome) (v : α) :
    ((f.create none v).1.find? p).isSome ∧ ((f.create none v).1.find? f.next).isSome ∧
      (f.create none v).1.parent? f.next = none := by
  refine ⟨?_, ?_, ?_⟩
  · rw [find?_create, Option.isSome_or, hp]
    rfl
  · rw [find?_create]
    simp
  · rw [parent?_create h.numbered, parent?, h.numbered.find?_next]
    rfl

/-- A new node keeps links in agreement, and does not matter for whether they end. -/
theorem Paired.create_known (h : f.Paired) (parent : Option NodeId) (v : α) :
    (f.create (f.known? parent) v).1.Paired ∧
      ((f.create (f.known? parent) v).1.Ends ↔ f.Ends) := by
  have hroots : (f.create none v).1.Ends ↔ f.Ends :=
    ends_congr fun id => parent?_create h.numbered v
  cases hparent : f.known? parent with
  | none => exact ⟨h.create v, hroots⟩
  | some p =>
    have hp := (known?_eq_some_iff.mp hparent).2
    obtain ⟨hp', hnext, hroot⟩ := h.new_root hp v
    refine ⟨(h.create v).link hp' hnext hroot, ?_⟩
    show ((f.create none v).1.link p f.next).Ends ↔ f.Ends
    rw [(h.create v).ends_link_iff hnext hroot, hroots, and_iff_left_iff_imp]
    -- nothing is below the new node yet
    rintro - hbelow
    rcases ReflTransGen.cases_head hbelow with heq | ⟨q, hq, -⟩
    · exact Nat.ne_of_gt (lt_next_of_isSome h.numbered hp) heq
    · rw [children_create h.numbered, children, h.numbered.find?_next] at hq
      cases hq

/-! ## Depths and outlines -/

/-- From a node on there is a node for every number of steps that are left. -/
theorem Paired.exists_climbs (h : f.Paired) : ∀ {n : Nat} {id : NodeId}, f.Climbs n id →
    (f.find? id).isSome → ∀ k ≤ n, ∃ x ∈ f.ids, f.Climbs k x
  | n, id, hn, hid, k, hk => by
    rcases Nat.lt_or_eq_of_le hk with hlt | rfl
    · obtain ⟨n, rfl⟩ := Nat.exists_eq_add_one.mpr (Nat.zero_lt_of_lt hlt)
      obtain ⟨q, hq, hn⟩ := hn
      exact h.exists_climbs hn (h.isSome_parent hq) k (Nat.le_of_lt_succ hlt)
    · obtain ⟨e, he⟩ := Option.isSome_iff_exists.mp hid
      exact ⟨id, mem_ids_of_find? he, hn⟩

/-- No way up is as long as there are nodes. -/
theorem Paired.lt_length (h : f.Paired) (hn : f.Climbs n id) (hid : (f.find? id).isSome) :
    n < f.entries.length := by
  choose! x hx hclimbs using h.exists_climbs hn hid
  have hinj : Set.InjOn x (Finset.range (n + 1)) := by
    intro i hi j hj hij
    have hi' := hclimbs i (Nat.le_of_lt_succ (Finset.mem_range.mp hi))
    have hj' := hclimbs j (Nat.le_of_lt_succ (Finset.mem_range.mp hj))
    exact hi'.unique (hij ▸ hj')
  have hcard := Finset.card_le_card_of_injOn x
    (fun i hi => hx i (Nat.le_of_lt_succ (Finset.mem_range.mp hi))) hinj
  rw [Finset.card_range] at hcard
  exact Nat.lt_of_lt_of_le hcard f.card_ids_le

theorem depthWithin_of_climbs : ∀ {fuel n : Nat} {id : NodeId}, f.Climbs n id → n ≤ fuel →
    f.depthWithin fuel id = n
  | 0, n, _, _, hle => (Nat.le_zero.mp hle).symm
  | fuel + 1, 0, id, hn, _ => by
    have hid : f.parent? id = none := hn
    rw [depthWithin, hid]
  | fuel + 1, n + 1, id, ⟨q, hq, hn⟩, hle => by
    rw [depthWithin, hq]
    dsimp only
    rw [depthWithin_of_climbs hn (Nat.le_of_succ_le_succ hle)]

/-- **A depth is the number of steps to a node without parent.** -/
theorem Paired.climbs_depth (h : f.Paired) (hends : f.Ends) (id : NodeId) :
    f.Climbs (f.depth id) id := by
  obtain ⟨n, hn⟩ := hends id
  have hle : n ≤ f.entries.length := by
    cases hid : f.find? id with
    | none =>
      have hroot : f.Climbs 0 id := by
        show f.parent? id = none
        rw [parent?, hid]
        rfl
      rw [hn.unique hroot]
      exact Nat.zero_le _
    | some e => exact (h.lt_length hn (by rw [hid]; rfl)).le
  rw [depth, depthWithin_of_climbs hn hle]
  exact hn

/-- At the depth `d` fuel for the depths that are left is as good as any. -/
theorem Paired.outlineWithin_eq (h : f.Paired) : ∀ {fuel fuel' d : Nat} {id : NodeId},
    f.Climbs d id → f.entries.length ≤ fuel + d → f.entries.length ≤ fuel' + d →
      f.outlineWithin fuel id = f.outlineWithin fuel' id := by
  intro fuel
  induction fuel with
  | zero =>
    intro fuel' d id hd hfuel hfuel'
    cases hid : f.find? id with
    | none => cases fuel' <;> simp [outlineWithin, hid]
    | some e =>
      have hlt := h.lt_length hd (by rw [hid]; rfl)
      omega
  | succ fuel ih =>
    intro fuel' d id hd hfuel hfuel'
    cases hid : f.find? id with
    | none => cases fuel' <;> simp [outlineWithin, hid]
    | some e =>
      have hlt := h.lt_length hd (by rw [hid]; rfl)
      obtain ⟨fuel', rfl⟩ := Nat.exists_eq_add_one.mpr (show 0 < fuel' by omega)
      rw [outlineWithin_succ hid, outlineWithin_succ hid]
      have hrest : (f.children id).filterMap (f.outlineWithin fuel) =
          (f.children id).filterMap (f.outlineWithin fuel') := by
        refine List.filterMap_congr fun c hc => ?_
        have hc' : f.Climbs (d + 1) c := ⟨id, (h.agree id c).mpr hc, hd⟩
        exact ih hc' (by omega) (by omega)
      rw [hrest]

/-- **An outline is made of the outlines of the children**, with no bound in between. -/
theorem Paired.outline?_eq (h : f.Paired) (hends : f.Ends) (id : NodeId) :
    f.outline? id = (f.find? id).map fun e =>
      .node { id, value := e.value, depth := f.depth id } (e.children.filterMap f.outline?) := by
  obtain ⟨d, hd⟩ := hends id
  cases hid : f.find? id with
  | none =>
    rw [outline?]
    cases f.entries.length <;> simp [outlineWithin, hid]
  | some e =>
    have hlt := h.lt_length hd (by rw [hid]; rfl)
    obtain ⟨fuel, hfuel⟩ := Nat.exists_eq_add_one.mpr (Nat.zero_lt_of_lt hlt)
    rw [outline?, hfuel, outlineWithin_succ hid, children_of_find? hid]
    have hrest : e.children.filterMap (f.outlineWithin fuel) = e.children.filterMap f.outline? := by
      refine List.filterMap_congr fun c hc => ?_
      rw [← children_of_find? hid] at hc
      have hc' : f.Climbs (d + 1) c := ⟨id, (h.agree id c).mpr hc, hd⟩
      exact h.outlineWithin_eq hc' (by omega) (by omega)
    rw [hrest]
    rfl

/-! ## In short -/

/-- Parents and child lists say the same, and a child list has each child once. -/
def LinksAgree (f : Forest α) : Prop :=
  ∀ p c, (f.parent? c = some p ↔ c ∈ f.children p) ∧
    (c ∈ f.children p → (f.children p).count c = 1)

theorem Paired.linksAgree (h : f.Paired) : f.LinksAgree :=
  fun p c => ⟨h.agree p c, List.count_eq_one_of_mem (h.once p)⟩

/-- What follows links comes to an end without a bound: a depth counts the steps to a node without
parent, and the outline of a node is its value above the outlines of its children. -/
structure Unbounded (f : Forest α) : Prop where
  depth : ∀ id, f.Climbs (f.depth id) id
  outline : ∀ id, f.outline? id = (f.find? id).map fun e =>
    .node { id, value := e.value, depth := f.depth id } (e.children.filterMap f.outline?)

theorem Paired.unbounded (h : f.Paired) (hends : f.Ends) : f.Unbounded where
  depth := h.climbs_depth hends
  outline := h.outline?_eq hends

end SchemaGen.Forest
