import SchemaGen.CodeUnit
import SchemaGen.Plugin.Builtin
import SchemaGen.Proofs.Forest.Create
import SchemaGen.Proofs.Forest.Keeps

/-!
# What the lookup counter does

The plugin that is always registered adds one declaration below each class of lookup variables: a
counter of its members. This module says so of one call (`callOnClass_lookupCounterEnum`) and of a
whole run (`extend_defaultRegistry`). A run cannot fail, since adding a child takes none away.

Calls are made one after another, each on what the calls before have left. They do not get in each
other's way: a new node gets a number that nothing refers to yet (`WellNumbered`), and a counter is
no data member, so what a call counts is what was there before the run.
-/

set_option autoImplicit false

namespace SchemaGen

/-! ## One call -/

theorem appendNew_eq {w : World} (h : w.decls.WellNumbered) (target : NodeId) (d : Decl) :
    appendNew target d w = ({ w with decls := w.decls.adopt target d }, .ok ()) := by
  have hparent : (w.decls.create none d).1.parent? w.decls.next = none := by
    rw [Forest.parent?, Forest.find?_create, h.find?_next]
    simp
  unfold appendNew World.append
  dsimp only
  rw [if_neg]
  · rfl
  · rw [show (w.decls.create none d).2 = w.decls.next from rfl, hparent]
    exact Bool.false_ne_true

/-- The counter of the members that a class has now. -/
def memberCounter (decls : Forest Decl) (id : NodeId) : Decl :=
  .ofMembers ((membersOf decls id).map (·.name))

theorem memberCounter_eq (decls : Forest Decl) (id : NodeId) :
    memberCounter decls id = .ofMembers ((Decl.members (decls.childValues id)).map (·.name)) :=
  rfl

/-- **What a call does**: it adds the counter, and nothing is lost. -/
theorem callOnClass_lookupCounterEnum {w : World} (h : w.decls.WellNumbered)
    (root : Option NodeId) {target : NodeId} (htarget : (w.decls.value? target).isSome)
    (struct : String) :
    lookupCounterEnum.callOnClass root target struct w =
      ({ w with decls := w.decls.adopt target (memberCounter w.decls target) }, .ok ()) := by
  have hkeeps (root : NodeId) : Forest.Keeps root w.decls
      (w.decls.adopt target (memberCounter w.decls target)) := by
    intro id _
    rw [Forest.children_adopt h htarget]
    exact List.prefix_append _ _
  have hact : lookupCounterEnum.extendClass target w =
      ({ w with decls := w.decls.adopt target (memberCounter w.decls target) }, .ok ()) :=
    appendNew_eq h target _
  rw [Plugin.callOnClass, Plugin.checked, hact]
  have hloss : World.declLoss?
      { w with decls := w.decls.adopt target (memberCounter w.decls target) }
      ((root.map w.decls.snapshot).getD []) = none := by
    rw [World.declLoss?]
    cases root with
    | none => rfl
    | some root =>
      rw [Option.map_some, Option.getD_some,
        Forest.loss?_snapshot_eq_none_iff.mpr (hkeeps root)]
      rfl
  simp only [hloss]

theorem callOnFunction_lookupCounterEnum (w : World) (root owner definition : NodeId)
    (struct : String) :
    lookupCounterEnum.callOnFunction root owner definition struct w = (w, .ok ()) := by
  have hloss : w.defnLoss? (w.defns.snapshot root) = none := by
    rw [World.defnLoss?, Forest.loss?_snapshot_eq_none_iff.mpr (Forest.Keeps.refl root _)]
    rfl
  have hact : lookupCounterEnum.extendFunction owner definition w = (w, .ok ()) := rfl
  rw [Plugin.callOnFunction, Plugin.checked, hact]
  simp only [hloss]

/-! ## A run -/

/-- The forest after calls on these classes, one after another. -/
def countAll : List NodeId → Forest Decl → Forest Decl
  | [], f => f
  | target :: rest, f => countAll rest (f.adopt target (memberCounter f target))

/-- A call leaves the classes of later calls where they are. -/
theorem isSome_value?_adopt {f : Forest Decl} (h : f.WellNumbered) {target : NodeId}
    (htarget : (f.value? target).isSome) (d : Decl) {id : NodeId} (hid : (f.value? id).isSome) :
    ((f.adopt target d).value? id).isSome := by
  obtain ⟨v, hv⟩ := Option.isSome_iff_exists.mp htarget
  rw [Forest.value?_adopt h (h.lt_next hv)]
  split
  · rfl
  · exact hid

theorem runClassCalls_lookupCounterEnum (root : Option NodeId) :
    ∀ (targets : List (NodeId × String)) (w : World), w.decls.WellNumbered →
      (∀ t ∈ targets, (w.decls.value? t.1).isSome) →
      let run := Registry.runClassCalls root
        (targets.map fun t => ⟨lookupCounterEnum, t.1, t.2⟩) w
      run.1 = { w with decls := countAll (targets.map (·.1)) w.decls } ∧ run.2.result = .ok ()
  | [], w, _, _ => ⟨rfl, rfl⟩
  | t :: ts, w, hw, htargets => by
    have htarget := htargets t List.mem_cons_self
    obtain ⟨hworld, hresult⟩ := runClassCalls_lookupCounterEnum root ts
      { w with decls := w.decls.adopt t.1 (memberCounter w.decls t.1) } (hw.adopt _ _)
      fun t' ht' => isSome_value?_adopt hw htarget _ (htargets t' (List.mem_cons_of_mem _ ht'))
    dsimp only
    rw [List.map_cons, Registry.runClassCalls, callOnClass_lookupCounterEnum hw root htarget]
    refine ⟨hworld, ?_⟩
    rw [Report.result_andThen]
    exact hresult

theorem runFunctionCalls_lookupCounterEnum (root : NodeId) :
    ∀ (calls : List FunctionCall) (w : World), (∀ call ∈ calls, call.plugin = lookupCounterEnum) →
      Registry.runFunctionCalls root calls w = (w, .ok ())
  | [], _, _ => rfl
  | call :: rest, w, h => by
    rw [Registry.runFunctionCalls, h call List.mem_cons_self, callOnFunction_lookupCounterEnum]
    exact runFunctionCalls_lookupCounterEnum root rest w fun call hcall =>
      h call (List.mem_cons_of_mem _ hcall)

/-- **What a run of calls adds**: to each class that is called on, the counter of the members it had
before the run. -/
theorem childValues_countAll : ∀ {targets : List NodeId} {f : Forest Decl}, f.WellNumbered →
    targets.Nodup → (∀ t ∈ targets, (f.value? t).isSome) → ∀ id,
      (countAll targets f).childValues id =
        f.childValues id ++ if id ∈ targets then [memberCounter f id] else []
  | [], f, _, _, _, id => by simp [countAll]
  | t :: ts, f, hf, hnodup, htargets, id => by
    obtain ⟨hnot, hnodup⟩ := List.nodup_cons.mp hnodup
    have htarget := htargets t List.mem_cons_self
    rw [countAll, childValues_countAll (hf.adopt _ _) hnodup fun t' ht' =>
        isSome_value?_adopt hf htarget _ (htargets t' (List.mem_cons_of_mem _ ht')),
      Forest.childValues_adopt hf htarget]
    by_cases hid : id = t
    · rw [hid, if_pos rfl, if_neg hnot, if_pos List.mem_cons_self, List.append_nil]
    · -- a class that is called on later has the members it had
      have hsame : memberCounter (f.adopt t (memberCounter f t)) id = memberCounter f id := by
        rw [memberCounter_eq _ id, Forest.childValues_adopt hf htarget, if_neg hid,
          List.append_nil, memberCounter_eq]
      simp [hid, hsame]

/-! ## The default registry -/

theorem forRole_defaultRegistry (role : Role) :
    defaultRegistry.forRole role =
      if role = .lookupVariables then [lookupCounterEnum] else [] := by
  cases role <;> rfl

/-- Whether a declaration is a class of lookup variables. -/
def isLookupClass (d : Decl) : Bool :=
  d.struct?.any (·.role = .lookupVariables)

/-- The classes of lookup variables at and below a node, with their names. -/
def lookupClasses (w : World) (root : NodeId) : List (NodeId × String) :=
  ((w.classesBelow root).filter (isLookupClass ·.value)).map fun c => (c.id, c.value.name)

theorem classCalls_defaultRegistry (w : World) (root : NodeId) :
    defaultRegistry.classCalls w (some root) =
      (lookupClasses w root).map fun t => ⟨lookupCounterEnum, t.1, t.2⟩ := by
  rw [Registry.classCalls, lookupClasses, List.map_map, ← List.filterMap_eq_filter,
    List.map_filterMap, List.filterMap_eq_flatMap_toList]
  refine List.flatMap_congr fun c _ => ?_
  cases hvalue : c.value with
  | struct s =>
    dsimp only
    rw [forRole_defaultRegistry]
    by_cases hrole : s.role = .lookupVariables <;>
      simp [isLookupClass, Decl.struct?, Decl.name, Option.guard, hvalue, hrole]
  | _ => simp [isLookupClass, Decl.struct?, Option.guard, hvalue]

theorem plugin_of_mem_functionCalls {w : World} {root : NodeId} {call : FunctionCall}
    (h : call ∈ defaultRegistry.functionCalls w root) : call.plugin = lookupCounterEnum := by
  obtain ⟨body, -, h⟩ := List.mem_flatMap.mp h
  split at h
  · cases h
  · split at h
    · obtain ⟨p, hp, rfl⟩ := List.mem_map.mp h
      exact List.mem_singleton.mp (List.mem_of_mem_filter hp)
    · cases h

theorem apply_defaultRegistry {w : World} (h : w.decls.WellNumbered) (declRoot defnRoot : NodeId)
    (hnodes : ∀ c ∈ lookupClasses w declRoot, (w.decls.value? c.1).isSome) :
    let run := defaultRegistry.apply (some declRoot) (some defnRoot) w
    run.1 = { w with decls := countAll ((lookupClasses w declRoot).map (·.1)) w.decls } ∧
      run.2.result = .ok () := by
  obtain ⟨hworld, hresult⟩ := runClassCalls_lookupCounterEnum (some declRoot) _ w h hnodes
  rw [← classCalls_defaultRegistry] at hworld hresult
  dsimp only
  rw [Registry.apply]
  cases hrun : Registry.runClassCalls (some declRoot)
    (defaultRegistry.classCalls w (some declRoot)) w with
  | mk w' declared =>
    rw [hrun] at hworld hresult
    dsimp only at hworld hresult ⊢
    rw [hresult]
    dsimp only
    rw [runFunctionCalls_lookupCounterEnum _ _ _ fun _ hcall => plugin_of_mem_functionCalls hcall,
      Report.result_andThen, hresult]
    exact ⟨hworld, rfl⟩

/-- **What the default registry does to a code unit**: it gives each class of lookup variables the
counter of its members, behind all else, and leaves the definitions as they are. -/
theorem extend_defaultRegistry {t : CodeUnit} (h : t.world.decls.WellNumbered)
    (hnodup : ((lookupClasses t.world t.declRoot).map (·.1)).Nodup)
    (hnodes : ∀ c ∈ lookupClasses t.world t.declRoot, (t.world.decls.value? c.1).isSome) :
    ∃ t', (t.extend defaultRegistry).result = .ok t' ∧ t'.world.defns = t.world.defns ∧
      ∀ id, t'.world.decls.childValues id = t.world.decls.childValues id ++
        if id ∈ (lookupClasses t.world t.declRoot).map (·.1)
        then [memberCounter t.world.decls id] else [] := by
  obtain ⟨hworld, hresult⟩ := apply_defaultRegistry h t.declRoot t.defnRoot hnodes
  refine ⟨{ t with world := (defaultRegistry.apply (some t.declRoot) (some t.defnRoot) t.world).1 },
    ?_, ?_, ?_⟩
  · rw [CodeUnit.extend, Report.result_andThen, hresult]
    rfl
  · dsimp only
    rw [hworld]
  · dsimp only
    rw [hworld]
    refine childValues_countAll h hnodup fun id hid => ?_
    obtain ⟨c, hc, rfl⟩ := List.mem_map.mp hid
    exact hnodes c hc

end SchemaGen
