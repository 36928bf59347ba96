import SchemaGen.Plugin.Apply
import SchemaGen.Plugin.Scripted
import SchemaGen.Proofs.Catalog.Index
import SchemaGen.Proofs.Forest.Keeps

/-!
# What a run of plugins may change

A plugin may add to what there is and nothing else. Its hooks are free to do anything, so every call
is checked after it was made. Here is what the checks are worth, for hooks of any kind.

The two kinds of call are made by two loops of one shape. `HookCall` is a call of either kind,
`runCalls` the loop, and `callsMade` the calls that it makes, each with the world that it finds. The
two loops in a row are one run (`Registry.apply_eq_runCalls`), so all that is said of a registry
comes from three facts about the loop: it succeeds if every call that is made
goes well (`runCalls_eq_ok_iff`), it fails in the name of the first that does not
(`runCalls_of_not_goesWell`), and what every call preserves, the run does (`rel_runCalls`).

A call is checked on the tree that its hook is for. The hook for function bodies is handed a
class, too, and nothing looks at what it does there: `apply_checks_own_tree` is what can be relied
on, and `function_hook_reorders_class` a run that succeeds although the children of a class have
been turned around.
-/

set_option autoImplicit false

namespace SchemaGen

/-! ## Roots -/

/-- The roots of the declarations and of the definitions, either of which may be missing. -/
structure Roots where
  decls : Option NodeId
  defns : Option NodeId

namespace Roots

/-- One of the two trees has kept its children. -/
def Keeps (roots : Roots) (side : TreeSide) (w w' : World) : Prop :=
  match side with
  | .declaration => ∀ root ∈ roots.decls, Forest.Keeps root w.decls w'.decls
  | .implementation => ∀ root ∈ roots.defns, Forest.Keeps root w.defns w'.defns

theorem Keeps.refl (roots : Roots) (side : TreeSide) (w : World) : roots.Keeps side w w := by
  cases side <;> exact fun root _ => Forest.Keeps.refl root _

theorem Keeps.trans {roots : Roots} {side : TreeSide} {w w' w'' : World}
    (h : roots.Keeps side w w') (h' : roots.Keeps side w' w'') : roots.Keeps side w w'' := by
  cases side <;> exact fun root hroot => Forest.Keeps.trans (h root hroot) (h' root hroot)

/-- What one of the two trees has lost since it was as in `w`. -/
def loss? (roots : Roots) (side : TreeSide) (w w' : World) : Option Fault :=
  match side with
  | .declaration => w'.declLoss? ((roots.decls.map w.decls.snapshot).getD [])
  | .implementation => w'.defnLoss? ((roots.defns.map w.defns.snapshot).getD [])

theorem loss?_getD_eq_none_iff {α : Type} {f f' : Forest α} {root : Option NodeId} :
    f'.loss? ((root.map f.snapshot).getD []) = none ↔ ∀ r ∈ root, Forest.Keeps r f f' := by
  cases root with
  | none => simp [Forest.loss?]
  | some r => simp [Forest.loss?_snapshot_eq_none_iff]

theorem loss?_eq_none_iff {roots : Roots} {side : TreeSide} {w w' : World} :
    roots.loss? side w w' = none ↔ roots.Keeps side w w' := by
  cases side <;> exact Option.map_eq_none_iff.trans loss?_getD_eq_none_iff

instance (roots : Roots) (side : TreeSide) (w w' : World) : Decidable (roots.Keeps side w w') :=
  decidable_of_iff ((roots.loss? side w w').isNone = true)
    (Option.isNone_iff_eq_none.trans loss?_eq_none_iff)

end Roots

/-! ## Calls -/

/-- A call of a hook: whose it is, on which class, which tree it is to extend, what it does. -/
structure HookCall where
  plugin : Plugin
  struct : String
  side : TreeSide
  hook : World → Act

/-- A call on a class is to extend the declarations. -/
def ClassCall.hookCall (call : ClassCall) : HookCall where
  plugin := call.plugin
  struct := call.struct
  side := .declaration
  hook := call.plugin.extendClass call.target

/-- A call on a function body is to extend the definitions. -/
def FunctionCall.hookCall (call : FunctionCall) : HookCall where
  plugin := call.plugin
  struct := call.struct
  side := .implementation
  hook := call.plugin.extendFunction call.owner call.definition

namespace HookCall

/-- Makes a call and checks it. -/
def make (roots : Roots) (call : HookCall) (w : World) : Act :=
  call.plugin.checked call.struct (call.hook w) (roots.loss? call.side w)

/-- The hook does not fail, and the tree that it is to extend keeps what it had. -/
def GoesWell (roots : Roots) (call : HookCall) (w : World) : Prop :=
  (call.hook w).2 = .ok () ∧ roots.Keeps call.side w (call.hook w).1

/-- A check changes nothing. -/
theorem make_fst (roots : Roots) (call : HookCall) (w : World) :
    (call.make roots w).1 = (call.hook w).1 := by
  unfold make Plugin.checked
  split
  · rfl
  · split <;> rfl

theorem make_of_goesWell {roots : Roots} {call : HookCall} {w : World}
    (h : call.GoesWell roots w) : (call.make roots w).2 = .ok () := by
  unfold make Plugin.checked
  simp only [h.1, Roots.loss?_eq_none_iff.mpr h.2]

/-- A call that does not go well fails in the name of its plugin. -/
theorem make_of_not_goesWell {roots : Roots} {call : HookCall} {w : World}
    (h : ¬ call.GoesWell roots w) :
    ∃ cause, (call.make roots w).2 = .error (.pluginFailed call.plugin.name call.struct cause) := by
  unfold make Plugin.checked
  cases hresult : (call.hook w).2 with
  | error cause => exact ⟨cause, rfl⟩
  | ok u =>
    cases hloss : roots.loss? call.side w (call.hook w).1 with
    | some cause => exact ⟨cause, rfl⟩
    | none => exact absurd ⟨hresult, Roots.loss?_eq_none_iff.mp hloss⟩ h

end HookCall

/-! ## Runs -/

/-- Makes calls, up to the first that does not go well. -/
def runCalls (roots : Roots) : List HookCall → World → Act
  | [], w => (w, .ok ())
  | call :: rest, w =>
    match (call.make roots w).2 with
    | .error fault => ((call.make roots w).1, .error fault)
    | .ok () => runCalls roots rest (call.make roots w).1

/-- The calls that such a run makes, each with the world that it finds. -/
def callsMade (roots : Roots) : List HookCall → World → List (HookCall × World)
  | [], _ => []
  | call :: rest, w =>
    (call, w) :: match (call.make roots w).2 with
      | .error _ => []
      | .ok () => callsMade roots rest (call.make roots w).1

/-- A step of a run whose call goes well. -/
theorem run_cons_of_goesWell {roots : Roots} {call : HookCall} {w : World}
    (h : call.GoesWell roots w) (rest : List HookCall) :
    runCalls roots (call :: rest) w = runCalls roots rest (call.hook w).1 ∧
      callsMade roots (call :: rest) w = (call, w) :: callsMade roots rest (call.hook w).1 := by
  have hok := HookCall.make_of_goesWell h
  rw [runCalls, callsMade, hok, HookCall.make_fst]
  exact ⟨rfl, rfl⟩

/-- A step of a run whose call does not go well, which is the last one. -/
theorem run_cons_of_not_goesWell {roots : Roots} {call : HookCall} {w : World}
    (h : ¬ call.GoesWell roots w) (rest : List HookCall) :
    (∃ cause, runCalls roots (call :: rest) w =
        ((call.hook w).1, .error (.pluginFailed call.plugin.name call.struct cause))) ∧
      callsMade roots (call :: rest) w = [(call, w)] := by
  obtain ⟨cause, hcause⟩ := HookCall.make_of_not_goesWell h
  rw [runCalls, callsMade, hcause, HookCall.make_fst]
  exact ⟨⟨cause, rfl⟩, rfl⟩

/-- **A run fails in the name of a call that does not go well.** -/
theorem runCalls_of_not_goesWell {roots : Roots} : ∀ {calls : List HookCall} {w : World}
    {made : HookCall × World}, made ∈ callsMade roots calls w → ¬ made.1.GoesWell roots made.2 →
      ∃ cause, (runCalls roots calls w).2 =
        .error (.pluginFailed made.1.plugin.name made.1.struct cause)
  | [], _, _, hmade, _ => by cases hmade
  | call :: rest, w, made, hmade, hnot => by
    by_cases hcall : call.GoesWell roots w
    · obtain ⟨hrun, hcalls⟩ := run_cons_of_goesWell hcall rest
      rw [hcalls] at hmade
      rw [hrun]
      rcases List.mem_cons.mp hmade with rfl | hmade
      · exact absurd hcall hnot
      · exact runCalls_of_not_goesWell hmade hnot
    · obtain ⟨⟨cause, hrun⟩, hcalls⟩ := run_cons_of_not_goesWell hcall rest
      rw [hcalls] at hmade
      cases List.mem_singleton.mp hmade
      exact ⟨cause, by rw [hrun]⟩

/-- **A run succeeds exactly if every call that it makes goes well.** -/
theorem runCalls_eq_ok_iff {roots : Roots} {calls : List HookCall} {w : World} :
    (runCalls roots calls w).2 = .ok () ↔
      ∀ made ∈ callsMade roots calls w, made.1.GoesWell roots made.2 := by
  constructor
  · intro h made hmade
    by_contra hnot
    obtain ⟨cause, hcause⟩ := runCalls_of_not_goesWell hmade hnot
    rw [hcause] at h
    cases h
  · intro h
    induction calls generalizing w with
    | nil => rfl
    | cons call rest ih =>
      have hcall : call.GoesWell roots w := h (call, w) List.mem_cons_self
      obtain ⟨hrun, hcalls⟩ := run_cons_of_goesWell hcall rest
      rw [hcalls] at h
      rw [hrun]
      exact ih fun made hmade => h made (List.mem_cons_of_mem _ hmade)

/-- **What every call preserves, a run preserves.** -/
theorem rel_runCalls {roots : Roots} {R : World → World → Prop} (hrefl : ∀ w, R w w)
    (htrans : ∀ {w w' w''}, R w w' → R w' w'' → R w w'') :
    ∀ {calls : List HookCall} {w : World},
      (∀ made ∈ callsMade roots calls w, R made.2 (made.1.hook made.2).1) →
        R w (runCalls roots calls w).1
  | [], w, _ => hrefl w
  | call :: rest, w, h => by
    by_cases hcall : call.GoesWell roots w
    · obtain ⟨hrun, hcalls⟩ := run_cons_of_goesWell hcall rest
      rw [hcalls] at h
      rw [hrun]
      exact htrans (h (call, w) List.mem_cons_self)
        (rel_runCalls hrefl htrans fun made hmade => h made (List.mem_cons_of_mem _ hmade))
    · obtain ⟨⟨cause, hrun⟩, hcalls⟩ := run_cons_of_not_goesWell hcall rest
      rw [hcalls] at h
      rw [hrun]
      exact h (call, w) (List.mem_singleton_self _)

/-- A run of calls and more calls comes to the second ones if the first ones go well. -/
theorem runCalls_append (roots : Roots) : ∀ (calls more : List HookCall) (w : World),
    runCalls roots (calls ++ more) w =
      match (runCalls roots calls w).2 with
      | .error fault => ((runCalls roots calls w).1, .error fault)
      | .ok () => runCalls roots more (runCalls roots calls w).1
  | [], _, _ => rfl
  | call :: rest, more, w => by
    by_cases hcall : call.GoesWell roots w
    · rw [List.cons_append, (run_cons_of_goesWell hcall _).1, (run_cons_of_goesWell hcall _).1]
      exact runCalls_append roots rest more _
    · obtain ⟨cause, hcause⟩ := HookCall.make_of_not_goesWell hcall
      rw [List.cons_append, runCalls, runCalls, hcause]

theorem callsMade_append (roots : Roots) : ∀ (calls more : List HookCall) (w : World),
    callsMade roots (calls ++ more) w = callsMade roots calls w ++
      match (runCalls roots calls w).2 with
      | .error _ => []
      | .ok () => callsMade roots more (runCalls roots calls w).1
  | [], _, _ => rfl
  | call :: rest, more, w => by
    by_cases hcall : call.GoesWell roots w
    · obtain ⟨hrun, hcalls⟩ := run_cons_of_goesWell hcall rest
      rw [List.cons_append, (run_cons_of_goesWell hcall _).2, hcalls, hrun, List.cons_append,
        callsMade_append roots rest more _]
    · obtain ⟨⟨cause, hrun⟩, hcalls⟩ := run_cons_of_not_goesWell hcall rest
      rw [List.cons_append, (run_cons_of_not_goesWell hcall _).2, hcalls, hrun]
      rfl

theorem mem_of_mem_callsMade {roots : Roots} : ∀ {calls : List HookCall} {w : World}
    {made : HookCall × World}, made ∈ callsMade roots calls w → made.1 ∈ calls
  | [], _, _, hmade => by cases hmade
  | call :: rest, w, made, hmade => by
    by_cases hcall : call.GoesWell roots w
    · rw [(run_cons_of_goesWell hcall rest).2] at hmade
      rcases List.mem_cons.mp hmade with rfl | hmade
      · exact List.mem_cons_self
      · exact List.mem_cons_of_mem _ (mem_of_mem_callsMade hmade)
    · rw [(run_cons_of_not_goesWell hcall rest).2] at hmade
      cases List.mem_singleton.mp hmade
      exact List.mem_cons_self

/-! ## The two loops -/

namespace Registry

theorem runClassCalls_eq (roots : Roots) : ∀ (calls : List ClassCall) (w : World),
    ((runClassCalls roots.decls calls w).1, (runClassCalls roots.decls calls w).2.result) =
      runCalls roots (calls.map (·.hookCall)) w
  | [], w => rfl
  | call :: rest, w => by
    have hmake : call.plugin.callOnClass roots.decls call.target call.struct w =
        call.hookCall.make roots w := rfl
    rw [List.map_cons, runCalls, runClassCalls, hmake]
    cases hcall : call.hookCall.make roots w with
    | mk w' result =>
      cases result with
      | error fault => rfl
      | ok u =>
        dsimp only
        rw [Report.result_andThen, ← runClassCalls_eq roots rest w']
        rfl

theorem runFunctionCalls_eq {roots : Roots} {root : NodeId} (hroot : roots.defns = some root) :
    ∀ (calls : List FunctionCall) (w : World),
      runFunctionCalls root calls w = runCalls roots (calls.map (·.hookCall)) w
  | [], w => rfl
  | call :: rest, w => by
    have hmake : call.plugin.callOnFunction root call.owner call.definition call.struct w =
        call.hookCall.make roots w := by
      unfold HookCall.make Roots.loss?
      rw [show call.hookCall.side = .implementation from rfl, hroot]
      rfl
    rw [List.map_cons, runCalls, runFunctionCalls, hmake]
    cases hcall : call.hookCall.make roots w with
    | mk w' result =>
      cases result with
      | error fault => rfl
      | ok u => exact runFunctionCalls_eq hroot rest w'

/-- The calls on classes, as they are due on entry. -/
def classHooks (r : Registry) (roots : Roots) (w : World) : List HookCall :=
  (r.classCalls w roots.decls).map (·.hookCall)

/-- The calls on function bodies, as they are due when the classes are done. -/
def functionHooks (r : Registry) (roots : Roots) (w : World) : List HookCall :=
  (roots.defns.toList.flatMap (r.functionCalls w)).map (·.hookCall)

/-- The world that the classes are left in. -/
def afterClasses (r : Registry) (roots : Roots) (w : World) : World :=
  (runCalls roots (r.classHooks roots w) w).1

/-- The run of the calls on function bodies, once the classes are done. -/
def bodyRun (r : Registry) (roots : Roots) (w : World) : Act :=
  runCalls roots (r.functionHooks roots (r.afterClasses roots w)) (r.afterClasses roots w)

/-- All calls that a run of a registry makes, in order, each with the world that it finds. -/
def madeCalls (r : Registry) (roots : Roots) (w : World) : List (HookCall × World) :=
  callsMade roots (r.classHooks roots w) w ++
    match (runCalls roots (r.classHooks roots w) w).2 with
    | .error _ => []
    | .ok () => callsMade roots (r.functionHooks roots (r.afterClasses roots w))
        (r.afterClasses roots w)

/-- A run of a registry is a run of the calls on classes, and of the calls on bodies if that went
well. -/
theorem apply_eq (r : Registry) (roots : Roots) (w : World) :
    ((r.apply roots.decls roots.defns w).1, (r.apply roots.decls roots.defns w).2.result) =
      match (runCalls roots (r.classHooks roots w) w).2 with
      | .error fault => (r.afterClasses roots w, .error fault)
      | .ok () => r.bodyRun roots w := by
  have hclasses := runClassCalls_eq roots (r.classCalls w roots.decls) w
  rw [bodyRun, afterClasses, classHooks, ← hclasses]
  unfold apply
  cases hrun : runClassCalls roots.decls (r.classCalls w roots.decls) w with
  | mk w' declared =>
    dsimp only
    cases hresult : declared.result with
    | error fault => exact Prod.ext rfl hresult
    | ok u =>
      cases hroot : roots.defns with
      | none =>
        rw [functionHooks, hroot]
        exact Prod.ext rfl hresult
      | some root =>
        dsimp only
        rw [runFunctionCalls_eq hroot, functionHooks, hroot, Report.result_andThen, hresult,
          Option.toList_some, List.flatMap_singleton]
        rfl

/-- All calls that a run comes to if they go well. -/
def hooks (r : Registry) (roots : Roots) (w : World) : List HookCall :=
  r.classHooks roots w ++ r.functionHooks roots (r.afterClasses roots w)

/-- **A run of a registry is one run of calls**, those on classes before those on bodies. -/
theorem apply_eq_runCalls (r : Registry) (roots : Roots) (w : World) :
    ((r.apply roots.decls roots.defns w).1, (r.apply roots.decls roots.defns w).2.result) =
      runCalls roots (r.hooks roots w) w := by
  rw [apply_eq, hooks, runCalls_append]
  rfl

theorem madeCalls_eq_callsMade (r : Registry) (roots : Roots) (w : World) :
    r.madeCalls roots w = callsMade roots (r.hooks roots w) w := by
  rw [madeCalls, hooks, callsMade_append]
  rfl

end Registry

/-! ## A run of a registry -/

section Apply

variable {r : Registry} {roots : Roots} {w : World}

theorem apply_world (r : Registry) (roots : Roots) (w : World) :
    (r.apply roots.decls roots.defns w).1 = (runCalls roots (r.hooks roots w) w).1 :=
  congrArg Prod.fst (r.apply_eq_runCalls roots w)

theorem apply_result (r : Registry) (roots : Roots) (w : World) :
    (r.apply roots.decls roots.defns w).2.result = (runCalls roots (r.hooks roots w) w).2 :=
  congrArg Prod.snd (r.apply_eq_runCalls roots w)

theorem apply_of_not_goesWell {made : HookCall × World} (hmade : made ∈ r.madeCalls roots w)
    (hnot : ¬ made.1.GoesWell roots made.2) :
    ∃ cause, (r.apply roots.decls roots.defns w).2.result =
      .error (.pluginFailed made.1.plugin.name made.1.struct cause) := by
  rw [Registry.madeCalls_eq_callsMade] at hmade
  rw [apply_result]
  exact runCalls_of_not_goesWell hmade hnot

theorem apply_eq_ok_iff :
    (r.apply roots.decls roots.defns w).2.result = .ok () ↔
      ∀ made ∈ r.madeCalls roots w, made.1.GoesWell roots made.2 := by
  rw [apply_result, Registry.madeCalls_eq_callsMade]
  exact runCalls_eq_ok_iff

/-- What every call of a run preserves, the run preserves. -/
theorem rel_apply {R : World → World → Prop} (hrefl : ∀ w, R w w)
    (htrans : ∀ {w w' w''}, R w w' → R w' w'' → R w w'')
    (h : ∀ made ∈ r.madeCalls roots w, R made.2 (made.1.hook made.2).1) :
    R w (r.apply roots.decls roots.defns w).1 := by
  rw [Registry.madeCalls_eq_callsMade] at h
  rw [apply_world]
  exact rel_runCalls hrefl htrans h

end Apply

/-! ## What plugins can reach -/

/-- The class hook of a plugin is handed declarations, from which no definition can be reached. -/
def Plugin.LeavesDefinitions (p : Plugin) : Prop :=
  ∀ target w, (p.extendClass target w).1.defns = w.defns

/-- A call for the declarations is one of a class hook. -/
theorem defns_of_mem_madeCalls {r : Registry} {roots : Roots} {w : World}
    (hreach : ∀ p ∈ r.plugins, p.LeavesDefinitions) {made : HookCall × World}
    (hmade : made ∈ r.madeCalls roots w) (hside : made.1.side = .declaration) :
    (made.1.hook made.2).1.defns = made.2.defns := by
  rcases List.mem_append.mp hmade with hmade | hmade
  · obtain ⟨call, hcall, heq⟩ := List.mem_map.mp (mem_of_mem_callsMade hmade)
    obtain ⟨c, -, hcall⟩ := List.mem_flatMap.mp hcall
    split at hcall
    · obtain ⟨p, hp, rfl⟩ := List.mem_map.mp hcall
      rw [← heq]
      exact hreach p (List.mem_of_mem_filter hp) c.id made.2
    · cases hcall
  · split at hmade
    · cases hmade
    · obtain ⟨call, -, heq⟩ := List.mem_map.mp (mem_of_mem_callsMade hmade)
      rw [← heq] at hside
      cases hside

/-- **Each call is checked on the tree that its hook is for.** A run of plugins succeeds exactly if
every call that it makes goes well, and a call that does not makes it fail with an internal fault
in the name of its plugin. After a success all definitions have kept their children; the
declarations have, if the calls on function bodies did not take any from them. -/
theorem apply_checks_own_tree (r : Registry) (roots : Roots) (w : World) :
    ((r.apply roots.decls roots.defns w).2.result = .ok () ↔
      ∀ made ∈ r.madeCalls roots w, made.1.GoesWell roots made.2) ∧
    (∀ made ∈ r.madeCalls roots w, ¬ made.1.GoesWell roots made.2 →
      ∃ fault, (r.apply roots.decls roots.defns w).2.result = .error fault ∧
        fault.code = some .internal ∧
        fault.message = "plugin " ++ made.1.plugin.name ++ " failed on " ++ made.1.struct) ∧
    ((∀ p ∈ r.plugins, p.LeavesDefinitions) →
      (r.apply roots.decls roots.defns w).2.result = .ok () →
        roots.Keeps .implementation w (r.apply roots.decls roots.defns w).1 ∧
        ((∀ made ∈ r.madeCalls roots w, made.1.side = .implementation →
            roots.Keeps .declaration made.2 (made.1.hook made.2).1) →
          roots.Keeps .declaration w (r.apply roots.decls roots.defns w).1)) := by
  refine ⟨apply_eq_ok_iff, fun made hmade hnot => ?_, fun hreach hok => ⟨?_, fun hbodies => ?_⟩⟩
  · obtain ⟨cause, hcause⟩ := apply_of_not_goesWell hmade hnot
    exact ⟨_, hcause, rfl, rfl⟩
  · refine rel_apply (Roots.Keeps.refl roots _) Roots.Keeps.trans fun made hmade => ?_
    cases hside : made.1.side with
    | implementation => exact hside ▸ (apply_eq_ok_iff.mp hok made hmade).2
    | declaration =>
      intro root _
      rw [defns_of_mem_madeCalls hreach hmade hside]
      exact Forest.Keeps.refl root _
  · refine rel_apply (Roots.Keeps.refl roots _) Roots.Keeps.trans fun made hmade => ?_
    cases hside : made.1.side with
    | declaration => exact hside ▸ (apply_eq_ok_iff.mp hok made hmade).2
    | implementation => exact hbodies made hmade hside

/-! ## A class of grid variables -/

/-- A class in a namespace, with a function that it declares and a flag. -/
def gridDecls : Tree (Tree.Numbered Decl) :=
  .node ⟨0, .scope "n"⟩
    [.node ⟨1, .struct { name := "G", role := .gridVariables }⟩
      [.leaf ⟨2, .function
          { kind := .override, name := "populate_performance_map", returns := "void" }⟩,
        .leaf ⟨3, .isSet "a"⟩]]

/-- The body of that function. -/
def gridDefns : Tree (Tree.Numbered Defn) :=
  .node ⟨0, .scope 0⟩ [.node ⟨1, .function 2 (some 1)⟩ [.leaf ⟨2, .finalize 2⟩]]

/-- Both, as plugins find them. -/
def gridWorld : World where
  decls := ({} : Forest Decl).plant gridDecls
  defns := ({} : Forest Defn).plant gridDefns

/-- The roots of both. -/
def gridRoots : Roots := ⟨some 0, some 0⟩

/-- A plugin that adds a text to each class and to each body. -/
def markingPlugin : Plugin :=
  { name := "mark", role := .gridVariables, onClass := "marker", onFunction := "marker" :
    PluginScript }.plugin

theorem leavesDefinitions_markingPlugin : markingPlugin.LeavesDefinitions := by
  intro target w
  show (appendNew target _ w).1.defns = w.defns
  unfold appendNew World.append
  dsimp only
  split <;> rfl

/-- A run of a plugin that only adds: it succeeds, and nothing is lost in either tree. -/
theorem apply_checks_own_tree_marking :
    (∀ p ∈ (⟨[markingPlugin]⟩ : Registry).plugins, p.LeavesDefinitions) ∧
    ((⟨[markingPlugin]⟩ : Registry).madeCalls gridRoots gridWorld).length = 2 ∧
    gridRoots.Keeps .implementation gridWorld
      ((⟨[markingPlugin]⟩ : Registry).apply gridRoots.decls gridRoots.defns gridWorld).1 ∧
    gridRoots.Keeps .declaration gridWorld
      ((⟨[markingPlugin]⟩ : Registry).apply gridRoots.decls gridRoots.defns gridWorld).1 := by
  have hreach : ∀ p ∈ (⟨[markingPlugin]⟩ : Registry).plugins, p.LeavesDefinitions := by
    intro p hp
    rw [List.mem_singleton.mp hp]
    exact leavesDefinitions_markingPlugin
  have hok : ((⟨[markingPlugin]⟩ : Registry).apply gridRoots.decls gridRoots.defns
      gridWorld).2.result = .ok () :=
    eq_ok_of_toOption (by decide +kernel)
  have hkept : ((⟨[markingPlugin]⟩ : Registry).madeCalls gridRoots gridWorld).all
      (fun made => gridRoots.Keeps .declaration made.2 (made.1.hook made.2).1) = true := by
    decide +kernel
  obtain ⟨-, -, hkeeps⟩ := apply_checks_own_tree ⟨[markingPlugin]⟩ gridRoots gridWorld
  obtain ⟨hdefns, hdecls⟩ := hkeeps hreach hok
  exact ⟨hreach, by decide +kernel, hdefns,
    hdecls fun made hmade _ => of_decide_eq_true (List.all_eq_true.mp hkept made hmade)⟩

/-- A plugin whose hook for function bodies turns the children of their class around. -/
def turningPlugin : Plugin where
  name := "turn"
  role := .gridVariables
  extendClass _ w := (w, .ok ())
  extendFunction owner _ w := PluginScript.reverseChildren w owner

/-- **A run may succeed although children were reordered**: the class hook of this plugin does
nothing, and its hook for function bodies turns a class around. -/
theorem function_hook_reorders_class :
    (∀ p ∈ (⟨[turningPlugin]⟩ : Registry).plugins, p.LeavesDefinitions) ∧
    ((⟨[turningPlugin]⟩ : Registry).apply gridRoots.decls gridRoots.defns gridWorld).2.result =
      .ok () ∧
    gridWorld.decls.children 1 = [2, 3] ∧
    ((⟨[turningPlugin]⟩ : Registry).apply gridRoots.decls gridRoots.defns
      gridWorld).1.decls.children 1 = [3, 2] ∧
    ¬ gridRoots.Keeps .declaration gridWorld
      ((⟨[turningPlugin]⟩ : Registry).apply gridRoots.decls gridRoots.defns gridWorld).1 := by
  refine ⟨?_, eq_ok_of_toOption (by decide +kernel), by decide +kernel, by decide +kernel,
    by decide +kernel⟩
  intro p hp target w
  rw [List.mem_singleton.mp hp]
  rfl

end SchemaGen
