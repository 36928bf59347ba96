import SchemaGen.Proofs.Forest.Links
import SchemaGen.World

/-!
# Editing trees, step by step

Whoever builds trees by hand makes nodes, appends them and reorders children, in any order and as
often as they like (`Edit`). Whatever they do, the two links of every child agree, and an operation
that is refused leaves no trace. One thing that a forest should rule out is not ruled out: a node
may be appended if it has no parent, and a root has none, so a root may be appended below itself
(`Edit.ClosesLoop`). Then parents never come to an end, and neither do walks. An append that does
this is the only edit that can, and what it does is never undone (`Edit.ends_run_iff`).
-/

set_option autoImplicit false

namespace SchemaGen

/-! ## Edits -/

/-- One operation on the nodes of a world. A number that no node has stands for no node. -/
inductive Edit where
  | declare (parent : Option NodeId) (value : Decl)
  | define (parent : Option NodeId) (value : Defn)
  | append (target child : Option NodeId)
  | appendDefn (target child : Option NodeId)
  | reorder (node : NodeId) (ordered : List NodeId)

namespace Edit

/-- What an edit does to a world, and whether it is refused. -/
def run (w : World) : Edit → Act
  | declare parent value =>
    ({ w with decls := (w.decls.create (w.decls.known? parent) value).1 }, .ok ())
  | define parent value =>
    ({ w with defns := (w.defns.create (w.defns.known? parent) value).1 }, .ok ())
  | append target child => w.append (w.decls.known? target) (w.decls.known? child)
  | appendDefn target child => w.appendDefn (w.defns.known? target) (w.defns.known? child)
  | reorder node ordered => w.reorderChildren node ordered

/-- An accepted edit appends a node to itself or to a node below it. -/
def ClosesLoop (w : World) : Edit → Prop
  | append target child => ((append target child).run w).2 = .ok () ∧
      ∃ t c, target = some t ∧ child = some c ∧ w.decls.Below c t
  | appendDefn target child => ((appendDefn target child).run w).2 = .ok () ∧
      ∃ t c, target = some t ∧ child = some c ∧ w.defns.Below c t
  | _ => False

end Edit

namespace World

/-- The world after some edits. -/
def edited (w : World) : List Edit → World
  | [] => w
  | e :: es => (e.run w).1.edited es

/-- None of the edits, each in the world that it finds, closes a loop. -/
def ClosesNoLoop (w : World) : List Edit → Prop
  | [] => True
  | e :: es => ¬ e.ClosesLoop w ∧ (e.run w).1.ClosesNoLoop es

/-- The links of all nodes agree. -/
def Paired (w : World) : Prop :=
  w.decls.Paired ∧ w.defns.Paired

/-- Following parents comes to an end among declarations and among definitions. -/
def Ends (w : World) : Prop :=
  w.decls.Ends ∧ w.defns.Ends

end World

/-! ## What appending does -/

namespace Forest

variable {α : Type} {f f' : Forest α} {target child : Option NodeId}

/-- What an accepted append makes of a forest: without a target nothing, and with one a root is
linked to it. -/
inductive Appended (f : Forest α) (target child : Option NodeId) : Forest α → Prop where
  | dropped {c : NodeId} (hc : child = some c) (ht : target = none) : Appended f target child f
  | linked {t c : NodeId} (ht : target = some t) (hc : child = some c)
      (hroot : f.parent? c = none) : Appended f target child (f.link t c)

theorem Appended.paired (h : f.Paired) (ha : f.Appended (f.known? target) (f.known? child) f') :
    f'.Paired := by
  cases ha with
  | dropped hc ht => exact h
  | linked ht hc hroot =>
    exact h.link (known?_eq_some_iff.mp ht).2 (known?_eq_some_iff.mp hc).2 hroot

/-- No node is below one that is there without being there itself. -/
theorem Paired.not_below_unknown (h : f.Paired) {t c : NodeId} (hc : (f.find? c).isSome)
    (ht : f.known? (some t) = none) : ¬ f.Below c t := by
  intro hbelow
  have hsome := h.isSome_of_below hc hbelow
  rw [known?, Option.filter_some, if_pos hsome] at ht
  cases ht

theorem Appended.ends_iff (h : f.Paired) (ha : f.Appended (f.known? target) (f.known? child) f') :
    f'.Ends ↔ f.Ends ∧ ¬ ∃ t c, target = some t ∧ child = some c ∧ f.Below c t := by
  cases ha with
  | dropped hc ht =>
    refine (and_iff_left ?_).symm
    rintro ⟨t, c', rfl, rfl, hbelow⟩
    obtain ⟨hchild, hsome⟩ := known?_eq_some_iff.mp hc
    cases hchild
    exact h.not_below_unknown hsome ht hbelow
  | linked ht hc hroot =>
    obtain ⟨hchild, hsome⟩ := known?_eq_some_iff.mp hc
    obtain ⟨htarget, -⟩ := known?_eq_some_iff.mp ht
    rw [h.ends_link_iff hsome hroot, htarget, hchild]
    simp

end Forest

/-- Appending is refused and changes nothing, or it is accepted. -/
theorem World.append_cases (w : World) (target child : Option NodeId) :
    (∃ fault, w.append target child = (w, .error fault)) ∨
    ∃ f, w.decls.Appended target child f ∧
      w.append target child = ({ w with decls := f }, .ok ()) := by
  unfold World.append
  cases child with
  | none => exact Or.inl ⟨_, rfl⟩
  | some c =>
    dsimp only
    cases hparent : w.decls.parent? c with
    | some q => exact Or.inl ⟨_, rfl⟩
    | none =>
      cases target with
      | none => exact Or.inr ⟨_, .dropped rfl rfl, rfl⟩
      | some t => exact Or.inr ⟨_, .linked rfl rfl hparent, rfl⟩

/-- The same for definitions, which have one more reason to be refused. -/
theorem World.appendDefn_cases (w : World) (target child : Option NodeId) :
    (∃ fault, w.appendDefn target child = (w, .error fault)) ∨
    ∃ f, w.defns.Appended target child f ∧
      w.appendDefn target child = ({ w with defns := f }, .ok ()) := by
  unfold World.appendDefn
  cases child with
  | none => exact Or.inl ⟨_, rfl⟩
  | some c =>
    dsimp only
    cases (w.defns.value? c).bind Defn.decl? with
    | none => exact Or.inl ⟨_, rfl⟩
    | some d =>
      cases hparent : w.defns.parent? c with
      | some q => exact Or.inl ⟨_, rfl⟩
      | none =>
        cases target with
        | none => exact Or.inr ⟨_, .dropped rfl rfl, rfl⟩
        | some t => exact Or.inr ⟨_, .linked rfl rfl hparent, rfl⟩

theorem World.reorderChildren_cases (w : World) (node : NodeId) (ordered : List NodeId) :
    (∃ fault, w.reorderChildren node ordered = (w, .error fault)) ∨
    ordered.Perm (w.decls.children node) ∧
      w.reorderChildren node ordered =
        ({ w with decls := w.decls.setChildren node ordered }, .ok ()) := by
  unfold World.reorderChildren
  cases hreorder : w.decls.reorder node ordered with
  | ok decls =>
    obtain ⟨hperm, rfl⟩ := Forest.reorder_eq_ok_iff.mp hreorder
    exact Or.inr ⟨hperm, rfl⟩
  | error problem => cases problem <;> exact Or.inl ⟨_, rfl⟩

/-- **A refused edit changes nothing.** -/
theorem Edit.run_error {w : World} {e : Edit} {fault : Fault} (h : (e.run w).2 = .error fault) :
    (e.run w).1 = w := by
  cases e with
  | declare parent value => cases h
  | define parent value => cases h
  | append target child =>
    rcases w.append_cases (w.decls.known? target) (w.decls.known? child) with
      ⟨_, hact⟩ | ⟨f, -, hact⟩
    · rw [run, hact]
    · rw [run, hact] at h
      cases h
  | appendDefn target child =>
    rcases w.appendDefn_cases (w.defns.known? target) (w.defns.known? child) with
      ⟨_, hact⟩ | ⟨f, -, hact⟩
    · rw [run, hact]
    · rw [run, hact] at h
      cases h
  | reorder node ordered =>
    rcases w.reorderChildren_cases node ordered with ⟨_, hact⟩ | ⟨-, hact⟩
    · rw [run, hact]
    · rw [run, hact] at h
      cases h

/-! ## One edit -/

theorem World.paired_empty : ({} : World).Paired :=
  ⟨Forest.paired_empty, Forest.paired_empty⟩

/-- **Every edit keeps links in agreement.** -/
theorem Edit.paired_run {w : World} (h : w.Paired) (e : Edit) : (e.run w).1.Paired := by
  cases e with
  | declare parent value => exact ⟨(h.1.create_known parent value).1, h.2⟩
  | define parent value => exact ⟨h.1, (h.2.create_known parent value).1⟩
  | append target child =>
    rcases w.append_cases (w.decls.known? target) (w.decls.known? child) with
      ⟨_, hact⟩ | ⟨f, hf, hact⟩ <;> rw [run, hact]
    · exact h
    · exact ⟨hf.paired h.1, h.2⟩
  | appendDefn target child =>
    rcases w.appendDefn_cases (w.defns.known? target) (w.defns.known? child) with
      ⟨_, hact⟩ | ⟨f, hf, hact⟩ <;> rw [run, hact]
    · exact h
    · exact ⟨h.1, hf.paired h.2⟩
  | reorder node ordered =>
    rcases w.reorderChildren_cases node ordered with ⟨_, hact⟩ | ⟨hperm, hact⟩ <;> rw [run, hact]
    · exact h
    · exact ⟨h.1.setChildren hperm, h.2⟩

/-- What is refused closes no loop and leaves everything as it was. -/
theorem Edit.ends_of_refused {w : World} {e : Edit} {fault : Fault}
    (h : e.run w = (w, .error fault)) : (e.run w).1.Ends ↔ w.Ends ∧ ¬ e.ClosesLoop w := by
  have hclear : ¬ e.ClosesLoop w := by
    intro hloop
    cases e with
    | append target child => exact absurd (hloop.1.symm.trans (congrArg Prod.snd h)) (by simp)
    | appendDefn target child => exact absurd (hloop.1.symm.trans (congrArg Prod.snd h)) (by simp)
    | declare parent value => exact hloop
    | define parent value => exact hloop
    | reorder node ordered => exact hloop
  rw [h]
  exact (and_iff_left hclear).symm

/-- **Only a closed loop keeps parents from coming to an end.** -/
theorem Edit.ends_run_iff {w : World} (h : w.Paired) (e : Edit) :
    (e.run w).1.Ends ↔ w.Ends ∧ ¬ e.ClosesLoop w := by
  cases e with
  | declare parent value =>
    refine Iff.trans ?_ (and_iff_left id).symm
    exact and_congr_left fun _ => (h.1.create_known parent value).2
  | define parent value =>
    refine Iff.trans ?_ (and_iff_left id).symm
    exact and_congr_right fun _ => (h.2.create_known parent value).2
  | append target child =>
    rcases w.append_cases (w.decls.known? target) (w.decls.known? child) with
      ⟨_, hact⟩ | ⟨f, hf, hact⟩
    · exact ends_of_refused hact
    · rw [ClosesLoop, run, hact, and_iff_right rfl]
      show ({ w with decls := f } : World).Ends ↔ _
      rw [World.Ends, World.Ends, hf.ends_iff h.1, and_right_comm]
  | appendDefn target child =>
    rcases w.appendDefn_cases (w.defns.known? target) (w.defns.known? child) with
      ⟨_, hact⟩ | ⟨f, hf, hact⟩
    · exact ends_of_refused hact
    · rw [ClosesLoop, run, hact, and_iff_right rfl]
      show ({ w with defns := f } : World).Ends ↔ _
      rw [World.Ends, World.Ends, hf.ends_iff h.2, and_assoc]
  | reorder node ordered =>
    rcases w.reorderChildren_cases node ordered with ⟨_, hact⟩ | ⟨hperm, hact⟩
    · exact ends_of_refused hact
    · rw [run, hact]
      refine Iff.trans ?_ (and_iff_left id).symm
      exact and_congr_left fun _ => Forest.ends_congr fun _ => Forest.parent?_setChildren

/-! ## All edits -/

theorem World.paired_edited {w : World} (h : w.Paired) (edits : List Edit) :
    (w.edited edits).Paired := by
  induction edits generalizing w with
  | nil => exact h
  | cons e es ih => exact ih (e.paired_run h)

theorem World.ends_edited_iff {w : World} (h : w.Paired) (edits : List Edit) :
    (w.edited edits).Ends ↔ w.Ends ∧ w.ClosesNoLoop edits := by
  induction edits generalizing w with
  | nil => exact (and_iff_left trivial).symm
  | cons e es ih => rw [edited, ih (e.paired_run h), e.ends_run_iff h, ClosesNoLoop, and_assoc]

/-- **Links agree, and end unless a loop was closed.** After any edits, from no nodes on, the two
links of every child agree, among declarations and among definitions, and a further edit that is
refused changes nothing. Following parents comes to an end everywhere exactly if no accepted append
has put a node below itself; and where it does, depths and walks need no bound. -/
theorem links_agree_and_end_iff (edits : List Edit) :
    let w := ({} : World).edited edits
    w.decls.LinksAgree ∧ w.defns.LinksAgree ∧
    (w.Ends ↔ ({} : World).ClosesNoLoop edits) ∧
    (w.decls.Ends → w.decls.Unbounded) ∧ (w.defns.Ends → w.defns.Unbounded) ∧
    ∀ e fault, (Edit.run w e).2 = .error fault → (Edit.run w e).1 = w := by
  have hpaired := World.paired_edited World.paired_empty edits
  have hstart : ({} : World).Ends := ⟨Forest.ends_empty, Forest.ends_empty⟩
  refine ⟨hpaired.1.linksAgree, hpaired.2.linksAgree, ?_, hpaired.1.unbounded, hpaired.2.unbounded,
    fun e fault => Edit.run_error⟩
  rw [World.ends_edited_iff World.paired_empty]
  exact and_iff_right hstart

/-- A namespace with a class. -/
def scopeEdits : List Edit :=
  [.declare none (.scope "n"), .declare (some 0) (.struct { name := "G" })]

/-- The namespace is appended to its class, and that is accepted, although it is the root of the
tree that the class is in. Each of the two is the parent of the other then, and parents never come
to an end. -/
theorem root_appended_below_itself :
    ((Edit.append (some 1) (some 0)).run (({} : World).edited scopeEdits)).2 = .ok () ∧
    (({} : World).edited (scopeEdits ++ [.append (some 1) (some 0)])).decls.parent? 0 = some 1 ∧
    (({} : World).edited (scopeEdits ++ [.append (some 1) (some 0)])).decls.parent? 1 = some 0 ∧
    ¬ (({} : World).edited (scopeEdits ++ [.append (some 1) (some 0)])).decls.Ends := by
  have hroot : (({} : World).edited (scopeEdits ++ [.append (some 1) (some 0)])).decls.parent? 0 =
      some 1 := by decide +kernel
  have hclass : (({} : World).edited (scopeEdits ++ [.append (some 1) (some 0)])).decls.parent? 1 =
      some 0 := by decide +kernel
  exact ⟨rfl, hroot, hclass, Forest.not_ends_of_loop hroot hclass⟩

end SchemaGen
