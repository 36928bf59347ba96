import SchemaGen.Proofs.Declaration.Cycles
import SchemaGen.Proofs.Declaration.Shape
import SchemaGen.Proofs.Generation.Overwriting
import SchemaGen.Proofs.Plugin.Schedule
import SchemaGen.Proofs.TypeExpr.Selector

/-!
# The faults of the phases of a run

Which faults a phase gives is said function by function, by induction where a function is a loop.
Most phases give no failed precondition. The version check and the catalog may, and then the fault
is one of three kinds (`Fault.IsRefusal`); what cannot be put in order gives a cycle; and what
plugins do, whatever a hook fails with, reaches the run in a fault of its own.
-/

set_option autoImplicit false

namespace SchemaGen

/-- The failed preconditions of a schema that is refused before anything is declared. -/
inductive Fault.IsRefusal : Fault → Prop where
  | noVersion (schema constraint : String) : IsRefusal (.noVersion schema constraint)
  | versionRefused (schema version constraint : String) :
    IsRefusal (.versionRefused schema version constraint)
  | ambiguousReference (name kept repeated : String) :
    IsRefusal (.ambiguousReference name kept repeated)

/-- If a fault is a failed precondition, the schema is refused. -/
def Fault.RefusesIfAny (fault : Fault) : Prop :=
  fault.code = some .failedPrecondition → fault.IsRefusal

theorem bind_eq_error_iff {ε α β : Type} {x : Except ε α} {f : α → Except ε β} {e : ε} :
    x.bind f = .error e ↔ x = .error e ∨ ∃ a, x = .ok a ∧ f a = .error e := by
  cases x <;> simp [Except.bind]

variable {fault : Fault}

/-! ## Choosing plugins and loading -/

namespace Registry

theorem code_of_register {r : Registry} {p : Option Plugin} (h : r.register p = .error fault) :
    fault.code ≠ some .failedPrecondition := by
  unfold register at h
  split at h
  · cases h; nofun
  · split at h
    · cases h; nofun
    split at h
    · cases h; nofun
    split at h
    · cases h; nofun
    · cases h

theorem code_of_pickInto {r : Registry} : ∀ {names : List String} {chosen : Registry},
    r.pickInto names chosen = .error fault → fault.code ≠ some .failedPrecondition
  | [], _, h => by cases h
  | name :: rest, chosen, h => by
    rw [pickInto] at h
    split at h
    · cases h; nofun
    · split at h
      next hregister =>
        cases h
        exact code_of_register hregister
      next => exact code_of_pickInto h

end Registry

theorem FileStore.code_of_loadSchema {s : FileStore} {path : String}
    (h : s.loadSchema path = .error fault) : fault.code ≠ some .failedPrecondition := by
  unfold FileStore.loadSchema at h
  split at h
  · cases h; nofun
  split at h
  next hread =>
    cases h
    unfold SchemaDocument.readObjects at hread
    split at hread
    · cases hread; nofun
    · cases hread
    · split at hread
      · split at hread
        · cases hread
        · cases hread; nofun
      · cases hread; nofun
  next => cases h

/-! ## The version and the catalog -/

theorem refuses_of_checkVersion {schema : Schema} {text : String}
    (h : (checkVersion schema text).result = .error fault) : fault.RefusesIfAny := by
  unfold checkVersion at h
  dsimp only at h
  split at h
  · cases h
  split at h
  · cases h; nofun
  split at h
  · cases h
    exact fun _ => .noVersion _ _
  split at h
  · cases h; nofun
  split at h
  · cases h
  · cases h
    exact fun _ => .versionRefused _ _ _

namespace Catalog

theorem refuses_of_addObject {c : Catalog} {strict : Bool} {place : Nat} {schema : String}
    {o : SchemaObject} (h : (c.addObject strict place schema o).result = .error fault) :
    fault.RefusesIfAny := by
  unfold addObject at h
  split at h
  · unfold addPrimitive at h
    split at h <;> cases h
  split at h
  · unfold addExport at h
    split at h
    · cases h
    split at h
    · cases h
    split at h
    · cases h
    split at h
    · cases h
      exact fun _ => .ambiguousReference _ _ _
    · cases h
  · cases h

theorem refuses_of_addObjects {strict : Bool} {place : Nat} {schema : String} :
    ∀ {os : List SchemaObject} {c : Catalog},
      (addObjects strict place schema os c).result = .error fault → fault.RefusesIfAny
  | [], _, h => by cases h
  | o :: os, c, h => by
    rw [addObjects, Report.result_andThen, bind_eq_error_iff] at h
    rcases h with hfirst | ⟨c₁, -, hrest⟩
    · exact refuses_of_addObject hfirst
    · exact refuses_of_addObjects hrest

theorem refuses_of_add {c : Catalog} {strict : Bool} {s : Schema}
    (h : (c.add strict s).result = .error fault) : fault.RefusesIfAny := by
  rw [add, Report.result_andThen, bind_eq_error_iff] at h
  rcases h with hobjects | ⟨c₁, -, hdone⟩
  · exact refuses_of_addObjects hobjects
  · cases hdone

theorem refuses_of_follow {loader : Loader} {schema : Schema} :
    ∀ {references met : List String},
      follow loader schema references met = .error fault → fault.RefusesIfAny
  | [], _, h => by cases h
  | reference :: rest, met, h => by
    unfold follow at h
    split at h
    · cases h; nofun
    split at h
    · exact refuses_of_follow h
    split at h
    · cases h; nofun
    split at h
    next hrest =>
      cases h
      exact refuses_of_follow hrest
    next => cases h

theorem refuses_of_addAll {loader : Loader} {strict : Bool} {met : List String}
    {queue : List Schema} {c : Catalog}
    (h : (addAll loader strict met queue c).result = .error fault) : fault.RefusesIfAny := by
  induction met, queue, c using addAll.induct loader with
  | case1 met c =>
    rw [addAll] at h
    cases h
  | case2 met c schema rest ih =>
    rw [addAll, Report.result_andThen, bind_eq_error_iff] at h
    rcases h with hadd | ⟨c₁, -, hrest⟩
    · exact refuses_of_add hadd
    · split at hrest
      next hfollow =>
        cases hrest
        exact refuses_of_follow hfollow
      next met' more hfollow => exact ih c₁ met' more hfollow hrest

theorem refuses_of_build {loader : Loader} {strict : Bool} {s : Schema}
    (h : (build loader strict s).result = .error fault) : fault.RefusesIfAny := by
  rw [build, Report.result_andThen, bind_eq_error_iff] at h
  rcases h with hall | ⟨c, -, hsay⟩
  · exact refuses_of_addAll hall
  · cases hsay

end Catalog

/-! ## Declarations and definitions -/

section Groups

variable {o : DeclOptions} {r : TypeExpr.Resolver} {rootGroup : String}

theorem code_of_resolveMembers {group : SchemaObject} : ∀ {es : List DataElement},
    resolveMembers r group es = .error fault → fault.code = some .invalidArgument
  | [], h => by cases h
  | e :: es, h => by
    rw [resolveMembers] at h
    split at h
    next hresolve =>
      cases h
      exact TypeExpr.code_of_resolve hresolve
    next =>
      split at h
      next hrest =>
        cases h
        exact code_of_resolveMembers hrest
      next => cases h

theorem code_of_buildGroups : ∀ {groups : List SchemaObject},
    buildGroups o r rootGroup groups = .error fault → fault.code = some .invalidArgument
  | [], h => by cases h
  | group :: rest, h => by
    rw [buildGroups] at h
    split at h
    next hgroup =>
      cases h
      unfold buildGroup at hgroup
      split at hgroup
      next hmembers =>
        cases hgroup
        exact code_of_resolveMembers hmembers
      next => cases hgroup
    next =>
      split at h
      next hrest =>
        cases h
        exact code_of_buildGroups hrest
      next => cases h

theorem exists_resolveMembers_iff {group : SchemaObject} {es : List DataElement} :
    (∃ members, resolveMembers r group es = .ok members) ↔
      ∀ e ∈ es, ∃ type, r.resolve group e = .ok type := by
  induction es with
  | nil => simp [resolveMembers]
  | cons e es ih =>
    rw [List.forall_mem_cons, ← ih, resolveMembers]
    cases r.resolve group e with
    | error fault => simp
    | ok type => cases resolveMembers r group es <;> simp

/-- **Groups can be declared** exactly if the types of all their elements mean something. -/
theorem exists_buildGroups_iff {groups : List SchemaObject} :
    (∃ built, buildGroups o r rootGroup groups = .ok built) ↔
      ∀ group ∈ groups, ∀ e ∈ group.elements, ∃ type, r.resolve group e = .ok type := by
  induction groups with
  | nil => simp [buildGroups]
  | cons group rest ih =>
    rw [List.forall_mem_cons, ← ih, ← exists_resolveMembers_iff, buildGroups, buildGroup]
    cases resolveMembers r group group.elements with
    | error fault => simp
    | ok members => cases buildGroups o r rootGroup rest <;> simp

end Groups

/-- What cannot be put in order is a cycle. -/
theorem eq_declarationCycle_of_orderTrees {scope : String} {trees : List (Tree Decl)}
    (h : (orderTrees scope trees).result = .error fault) :
    ∃ names, fault = .declarationCycle names := by
  rw [orderTrees_result] at h
  unfold dependencyOrder at h
  dsimp only at h
  split at h
  · cases h
  · cases h
    exact ⟨_, rfl⟩

theorem code_of_defineAll {c : Catalog} {siblings : List (Tree (Tree.Numbered Decl))} :
    ∀ {ts : List (Tree (Tree.Numbered Decl))},
      defineAll c siblings ts = .error fault → fault.code = some .internal
  | [], h => by cases h
  | t :: ts, h => by
    rw [defineAll] at h
    split at h
    next hfirst =>
      cases h
      unfold define at hfirst
      split at hfirst
      · cases hfirst
      · split at hfirst
        · split at hfirst
          · cases hfirst
          · cases hfirst
            rfl
        · cases hfirst
      · cases hfirst
    next =>
      split at h
      next hrest =>
        cases h
        exact code_of_defineAll hrest
      next => cases h

theorem code_of_buildDefinitions {c : Catalog} {schemaName : String} {container : Option NodeId}
    {scope : Tree (Tree.Numbered Decl)}
    (h : (buildDefinitions c schemaName container scope).result = .error fault) :
    fault.code = some .internal := by
  unfold buildDefinitions at h
  split at h
  next hdefine =>
    cases h
    exact code_of_defineAll hdefine
  next => cases h

/-! ## Writing -/

theorem FileStore.code_of_writeInto {s t : FileStore} {dir name text : String}
    (h : s.writeInto dir name text = (t, .error fault)) :
    fault.code ≠ some .failedPrecondition := by
  unfold FileStore.writeInto at h
  split at h
  · cases h; nofun
  split at h
  · cases h; nofun
  dsimp only at h
  split at h
  · cases h; nofun
  · cases h

theorem FileStore.code_of_writeAll {dir : String} : ∀ {files : List (String × String)}
    {w : Written}, w.fault = none → (FileStore.writeAll dir files w).fault = some fault →
      fault.code ≠ some .failedPrecondition
  | [], w, hnone, h => by
    rw [FileStore.writeAll, hnone] at h
    cases h
  | (name, text) :: rest, w, _, h => by
    rw [FileStore.writeAll] at h
    split at h
    next hwrite =>
      cases h
      exact FileStore.code_of_writeInto hwrite
    next => exact FileStore.code_of_writeAll rfl h

theorem FileStore.code_of_writeUnit {s : FileStore} {dir : String} {u : RenderedUnit}
    (h : (s.writeUnit dir u).fault = some fault) : fault.code ≠ some .failedPrecondition := by
  unfold FileStore.writeUnit at h
  split at h
  · cases h; nofun
  · exact FileStore.code_of_writeAll rfl h

/-! ## Plugins -/

/-- What a hook fails with becomes the cause of the fault of its run. -/
theorem runCalls_of_hook_error {roots : Roots} {cause : Fault} : ∀ {calls : List HookCall}
    {w : World} {made : HookCall × World}, made ∈ callsMade roots calls w →
      (made.1.hook made.2).2 = .error cause →
      (runCalls roots calls w).2 =
        .error (.pluginFailed made.1.plugin.name made.1.struct cause)
  | [], _, _, hmade, _ => by cases hmade
  | call :: rest, w, made, hmade, hcause => by
    by_cases hwell : call.GoesWell roots w
    · obtain ⟨hrun, hcalls⟩ := run_cons_of_goesWell hwell rest
      rw [hcalls] at hmade
      rw [hrun]
      rcases List.mem_cons.mp hmade with rfl | hmade
      · rw [hwell.1] at hcause
        cases hcause
      · exact runCalls_of_hook_error hmade hcause
    · obtain ⟨-, hcalls⟩ := run_cons_of_not_goesWell hwell rest
      rw [hcalls] at hmade
      obtain rfl := List.mem_singleton.mp hmade
      have hmake : (call.make roots w).2 =
          .error (.pluginFailed call.plugin.name call.struct cause) := by
        unfold HookCall.make Plugin.checked
        rw [hcause]
      rw [runCalls, hmake]

namespace CodeUnit

/-- The roots of both trees. -/
def roots (t : CodeUnit) : Roots :=
  ⟨some t.declRoot, some t.defnRoot⟩

theorem extend_eq_error_iff {t : CodeUnit} {plugins : Registry} :
    (t.extend plugins).result = .error fault ↔
      (runCalls t.roots (plugins.hooks t.roots t.world) t.world).2 = .error fault := by
  have happly : (plugins.apply (some t.declRoot) (some t.defnRoot) t.world).2.result =
      (runCalls t.roots (plugins.hooks t.roots t.world) t.world).2 :=
    apply_result plugins t.roots t.world
  unfold extend
  dsimp only
  rw [Report.result_andThen, happly]
  cases (runCalls t.roots (plugins.hooks t.roots t.world) t.world).2 <;> simp [Except.bind]

/-- Plugins make a run fail in the name of one of them. -/
theorem eq_pluginFailed_of_extend {t : CodeUnit} {plugins : Registry}
    (h : (t.extend plugins).result = .error fault) :
    ∃ plugin struct cause, fault = .pluginFailed plugin struct cause := by
  obtain ⟨-, last, cause, -, -, -, hfault⟩ :=
    exists_last_of_runCalls_eq_error (extend_eq_error_iff.mp h)
  exact ⟨_, _, cause, hfault⟩

end CodeUnit

end SchemaGen
