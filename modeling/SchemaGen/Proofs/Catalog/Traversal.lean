import Mathlib.Data.Set.Card
import Mathlib.Logic.Function.Iterate
import SchemaGen.Proofs.Catalog.BreadthFirst

/-!
# A traversal of references, step by step

`Catalog.build` is a function because a loader bounds itself: its recursion counts down the paths
that the loader names. That it ends says little, then. Here the same traversal is cut into steps
that know of no bound (`Traversal.step`): one schema is taken from the queue, or one reference is
followed. The steps ask a `Source`, which may answer whatever it likes, and write down which paths
they load.

What a step can do is said once (`Traversal.Stepped`). Every step keeps `Traversal.Sound`: no path
was loaded twice, and the origins and the queue are the local schema and what was loaded. If only
finitely many paths can be loaded, the steps come to an end, and there they say what the function
says (`exists_iterate_addAll`): its recursion gives the number of steps. `traversal_ends` puts the
two together.
-/

set_option autoImplicit false

namespace SchemaGen

/-- Where a traversal finds schemas. Unlike a `Loader` it says nothing of what can be loaded. -/
structure Source where
  /-- The path that an identifier means when the schema at `source` uses it. -/
  resolve : (source identifier : String) → Except Fault String
  /-- The schema at a path. -/
  load : (path : String) → Except Fault Schema

namespace Source

/-- The paths that can be loaded. -/
def loadable (s : Source) : Set String :=
  {path | ∃ schema, s.load path = .ok schema}

/-- The schema at a path, if it can be loaded. -/
def loaded? (s : Source) (path : String) : Option Schema :=
  (s.load path).toOption

theorem loaded?_eq_some_iff {s : Source} {path : String} {schema : Schema} :
    s.loaded? path = some schema ↔ s.load path = .ok schema := by
  unfold loaded?
  cases s.load path <;> simp [Except.toOption]

/-- A source with finitely many paths that can be loaded, as a loader that names these. -/
noncomputable def loader (s : Source) (h : s.loadable.Finite) : Loader where
  resolve := s.resolve
  load := s.load
  paths := h.toFinset.toList
  mem_paths hload := by simpa using ⟨_, hload⟩

end Source

/-- A loader without its bound. -/
def Loader.source (loader : Loader) : Source where
  resolve := loader.resolve
  load := loader.load

@[simp] theorem Loader.resolve_source (loader : Loader) : loader.source.resolve = loader.resolve :=
  rfl

@[simp] theorem Loader.load_source (loader : Loader) : loader.source.load = loader.load :=
  rfl

/-- A loader names all paths that can be loaded, so these are finitely many. -/
theorem Loader.finite_loadable (loader : Loader) : loader.source.loadable.Finite := by
  refine loader.paths.toFinset.finite_toSet.subset ?_
  rintro path ⟨schema, hload⟩
  simpa using loader.mem_paths hload

/-! ## Steps -/

/-- A traversal on the way. -/
structure Traversal where
  /-- The paths met. -/
  met : List String
  /-- The schemas that wait for their turn. -/
  queue : List Schema
  /-- The schema whose turn it is, with those of its references that have not been followed. -/
  turn : Option (Schema × List String) := none
  catalog : Catalog := {}
  /-- The paths that were loaded or tried, in order. -/
  loads : List String := []
  /-- What came of the traversal, once it has ended. -/
  outcome : Option (Except Fault Catalog) := none

namespace Traversal

/-- Only the local schema is met, and it waits. -/
def start (root : Schema) : Traversal where
  met := [root.path]
  queue := [root]

/-- A traversal that has ended. -/
def fail (t : Traversal) (fault : Fault) : Traversal :=
  { t with outcome := some (.error fault) }

/-- Gives the turn to the first schema of the queue, which becomes an origin. With an empty queue
the traversal has ended. -/
def stepQueue (strict : Bool) (t : Traversal) : Traversal :=
  match t.queue with
  | [] => { t with outcome := some (.ok t.catalog) }
  | schema :: rest =>
    match (t.catalog.add strict schema).result with
    | .error fault => t.fail fault
    | .ok catalog =>
      { t with queue := rest, turn := some (schema, schema.references), catalog }

/-- Follows one reference of `schema`, which leaves `rest`. What it leads to is loaded unless its
path was met, and waits then. -/
def stepReference (source : Source) (schema : Schema) (reference : String) (rest : List String)
    (t : Traversal) : Traversal :=
  match source.resolve schema.path reference with
  | .error cause => t.fail (.missingReference reference schema.name cause)
  | .ok path =>
    if t.met.contains path then { t with turn := some (schema, rest) }
    else match source.load path with
      | .error cause =>
        { t with met := path :: t.met, loads := t.loads ++ [path] }.fail
          (.missingReference reference schema.name cause)
      | .ok loaded =>
        { t with
          met := Catalog.meet path loaded t.met, queue := t.queue ++ [loaded]
          turn := some (schema, rest), loads := t.loads ++ [path] }

/-- One step. -/
def step (source : Source) (strict : Bool) (t : Traversal) : Traversal :=
  if t.outcome.isSome then t
  else match t.turn with
    | none => t.stepQueue strict
    | some (_, []) => { t with turn := none }
    | some (schema, reference :: rest) => t.stepReference source schema reference rest

/-- The steps from a local schema lead to `t`. -/
def Reached (source : Source) (strict : Bool) (root : Schema) (t : Traversal) : Prop :=
  ∃ steps, (step source strict)^[steps] (start root) = t

variable {source : Source} {loader : Loader} {strict : Bool} {root schema : Schema}
  {t : Traversal} {reference : String} {rest : List String}

/-! ## What a step can do -/

/-- What can become of a traversal in one step. -/
inductive Stepped (source : Source) (strict : Bool) (t : Traversal) : Traversal → Prop where
  | stay (hended : t.outcome.isSome = true) : Stepped source strict t t
  /-- The queue is empty. -/
  | finish (hgoing : t.outcome = none) (hqueue : t.queue = []) :
    Stepped source strict t { t with outcome := some (.ok t.catalog) }
  /-- A schema gets its turn and is an origin. -/
  | take {schema : Schema} {rest : List Schema} {catalog : Catalog} (hgoing : t.outcome = none)
    (hqueue : t.queue = schema :: rest)
    (horigins : catalog.origins = t.catalog.origins ++ [.ofSchema schema]) :
    Stepped source strict t
      { t with queue := rest, turn := some (schema, schema.references), catalog }
  /-- A reference leads to a path that is met, or there is none left. -/
  | pass (turn : Option (Schema × List String)) (hgoing : t.outcome = none) :
    Stepped source strict t { t with turn }
  | fail (fault : Fault) : Stepped source strict t (t.fail fault)
  /-- A reference leads to a path that is not met and does not load. -/
  | refuse {path : String} (fault : Fault) (hnew : path ∉ t.met)
    (hload : source.loaded? path = none) :
    Stepped source strict t
      ({ t with met := path :: t.met, loads := t.loads ++ [path] }.fail fault)
  /-- A reference leads to a path that is not met, and what is there waits from now on. -/
  | load {path : String} {loaded : Schema} (turn : Option (Schema × List String))
    (hgoing : t.outcome = none) (hnew : path ∉ t.met)
    (hload : source.loaded? path = some loaded) :
    Stepped source strict t
      { t with
        met := Catalog.meet path loaded t.met, queue := t.queue ++ [loaded], turn
        loads := t.loads ++ [path] }

theorem origins_of_add {c c' : Catalog} (h : (c.add strict schema).result = .ok c') :
    c'.origins = c.origins ++ [.ofSchema schema] := by
  obtain ⟨c₁, hobjects, hdone⟩ := Report.exists_of_andThen h
  cases hdone
  rw [(Catalog.addObjects_spec hobjects).1]

theorem stepped_queue (hgoing : t.outcome = none) :
    Stepped source strict t (t.stepQueue strict) := by
  unfold stepQueue
  split
  next hqueue => exact .finish hgoing hqueue
  next schema rest hqueue =>
    split
    next fault _ => exact .fail fault
    next catalog hadd => exact .take hgoing hqueue (origins_of_add hadd)

theorem stepped_reference (hgoing : t.outcome = none) :
    Stepped source strict t (t.stepReference source schema reference rest) := by
  unfold stepReference
  split
  next cause _ => exact .fail _
  next path _ =>
    split
    next => exact .pass _ hgoing
    next hknown =>
      have hnew : path ∉ t.met := by simpa using hknown
      split
      next cause hload => exact .refuse _ hnew (by simp [Source.loaded?, hload, Except.toOption])
      next loaded hload => exact .load _ hgoing hnew (Source.loaded?_eq_some_iff.mpr hload)

/-- **All that one step can do.** -/
theorem stepped_step (source : Source) (strict : Bool) (t : Traversal) :
    Stepped source strict t (t.step source strict) := by
  unfold step
  split
  next hended => exact .stay hended
  next hgoing =>
    have hgoing : t.outcome = none := by simpa using hgoing
    split
    · exact stepped_queue hgoing
    · exact .pass none hgoing
    · exact stepped_reference hgoing

/-- What every step keeps holds as long as it held at the start. -/
theorem Reached.keeps {P : Traversal → Prop} (h : Reached source strict root t)
    (hstart : P (start root)) (hstep : ∀ {t t'}, Stepped source strict t t' → P t → P t') :
    P t := by
  obtain ⟨steps, rfl⟩ := h
  induction steps with
  | zero => exact hstart
  | succ steps ih =>
    rw [Function.iterate_succ_apply']
    exact hstep (stepped_step source strict _) ih

/-! ## What every step keeps -/

/-- What holds all along. -/
structure Sound (source : Source) (root : Schema) (t : Traversal) : Prop where
  /-- A path that was loaded is met. -/
  loads_met : ∀ path ∈ t.loads, path ∈ t.met
  /-- No path was loaded twice. -/
  loads_nodup : t.loads.Nodup
  /-- The local schema and all that was loaded are origins, or wait. -/
  origins : t.catalog.origins ++ t.queue.map .ofSchema =
    (root :: t.loads.filterMap source.loaded?).map .ofSchema
  /-- A traversal that ended well did so with its catalog and nothing left. -/
  ended : ∀ c, t.outcome = some (.ok c) → c = t.catalog ∧ t.queue = []

theorem sound_start (source : Source) (root : Schema) : Sound source root (start root) where
  loads_met path hpath := by cases hpath
  loads_nodup := .nil
  origins := rfl
  ended c hc := by cases hc

/-- A path that is not met is loaded and met from then on. -/
theorem Sound.loads_concat {path : String} {met : List String} (h : Sound source root t)
    (hnew : path ∉ t.met) (hpath : path ∈ met) (hmet : ∀ p ∈ t.met, p ∈ met) :
    (∀ p ∈ t.loads ++ [path], p ∈ met) ∧ (t.loads ++ [path]).Nodup := by
  constructor
  · intro p hp
    rcases List.mem_append.mp hp with hp | hp
    · exact hmet p (h.loads_met p hp)
    · rwa [List.mem_singleton.mp hp]
  · refine List.nodup_append.mpr ⟨h.loads_nodup, List.nodup_singleton path, ?_⟩
    rintro a ha b hb rfl
    rw [List.mem_singleton.mp hb] at ha
    exact hnew (h.loads_met _ ha)

theorem Sound.step {t' : Traversal} (hstep : Stepped source strict t t')
    (h : Sound source root t) : Sound source root t' := by
  cases hstep with
  | stay => exact h
  | finish hgoing hqueue =>
    exact ⟨h.loads_met, h.loads_nodup, h.origins, fun c hc => by cases hc; exact ⟨rfl, hqueue⟩⟩
  | take hgoing hqueue horigins =>
    refine ⟨h.loads_met, h.loads_nodup, ?_, fun c hc => by cases hgoing.symm.trans hc⟩
    rw [← h.origins, hqueue, horigins, List.append_assoc]
    rfl
  | pass turn hgoing =>
    exact ⟨h.loads_met, h.loads_nodup, h.origins, fun c hc => by cases hgoing.symm.trans hc⟩
  | fail fault => exact ⟨h.loads_met, h.loads_nodup, h.origins, fun c hc => by cases hc⟩
  | refuse fault hnew hload =>
    obtain ⟨hmet, hnodup⟩ := h.loads_concat hnew List.mem_cons_self
      fun p hp => List.mem_cons_of_mem _ hp
    refine ⟨hmet, hnodup, ?_, fun c hc => by cases hc⟩
    show t.catalog.origins ++ t.queue.map .ofSchema = _
    rw [h.origins, Traversal.fail, List.filterMap_append, List.filterMap_cons_none hload,
      List.filterMap_nil, List.append_nil]
  | @load path loaded turn hgoing hnew hload =>
    obtain ⟨hmet, hnodup⟩ := h.loads_concat hnew (Catalog.mem_meet_self path loaded t.met)
      (Catalog.subset_meet path loaded t.met)
    refine ⟨hmet, hnodup, ?_, fun c hc => by cases hgoing.symm.trans hc⟩
    rw [List.map_append, ← List.append_assoc, h.origins, List.filterMap_append,
      List.filterMap_cons_some hload, List.filterMap_nil, ← List.map_append]
    rfl

/-- **What holds of every traversal**, however far it got. -/
theorem Reached.sound (h : Reached source strict root t) : Sound source root t :=
  h.keeps (sound_start source root) Sound.step

/-- What was loaded well are different paths that can be loaded. -/
theorem Sound.length_loaded_le (h : Sound source root t) (hfin : source.loadable.Finite) :
    (t.loads.filterMap source.loaded?).length ≤ source.loadable.ncard := by
  have hlength : (t.loads.filterMap source.loaded?).length =
      (t.loads.filter fun path => (source.loaded? path).isSome).length := by
    rw [List.length_filterMap_eq_countP, List.countP_eq_length_filter]
  rw [hlength, ← List.toFinset_card_of_nodup (h.loads_nodup.filter _), ← Set.ncard_coe_finset]
  refine Set.ncard_le_ncard ?_ hfin
  intro path hpath
  have hpath := List.of_mem_filter (List.mem_toFinset.mp hpath)
  obtain ⟨schema, hschema⟩ := Option.isSome_iff_exists.mp hpath
  exact ⟨schema, Source.loaded?_eq_some_iff.mp hschema⟩

/-- So there are no more origins than these and the local schema. -/
theorem Sound.length_origins_le {c : Catalog} (h : Sound source root t)
    (hfin : source.loadable.Finite) (hc : t.outcome = some (.ok c)) :
    c.origins.length ≤ source.loadable.ncard + 1 := by
  obtain ⟨rfl, hqueue⟩ := h.ended c hc
  have horigins := congrArg List.length h.origins
  rw [hqueue, List.map_nil, List.append_nil, List.length_map, List.length_cons] at horigins
  rw [horigins]
  exact Nat.succ_le_succ (h.length_loaded_le hfin)

/-! ## The end -/

theorem step_of_ended (h : t.outcome.isSome = true) : t.step source strict = t :=
  if_pos h

theorem iterate_of_ended (source : Source) (strict : Bool) (h : t.outcome.isSome = true)
    (steps : Nat) :
    (step source strict)^[steps] t = t :=
  Function.iterate_fixed (step_of_ended h) steps

theorem step_of_turn (source : Source) (strict : Bool) (hgoing : t.outcome = none)
    (hturn : t.turn = some (schema, reference :: rest)) :
    t.step source strict = t.stepReference source schema reference rest := by
  simp only [step, hgoing, Option.isSome_none, Bool.false_eq_true, if_false, hturn]

theorem step_of_turn_nil (source : Source) (strict : Bool) (hgoing : t.outcome = none)
    (hturn : t.turn = some (schema, [])) :
    t.step source strict = { t with turn := none } := by
  simp only [step, hgoing, Option.isSome_none, Bool.false_eq_true, if_false, hturn]

theorem step_of_no_turn (source : Source) (strict : Bool) (hgoing : t.outcome = none)
    (hturn : t.turn = none) :
    t.step source strict = t.stepQueue strict := by
  simp only [step, hgoing, Option.isSome_none, Bool.false_eq_true, if_false, hturn]

/-- **The references of one schema** are followed in finitely many steps, as `follow` does it. -/
theorem exists_iterate_follow (loader : Loader) (strict : Bool) (hgoing : t.outcome = none)
    (hturn : t.turn = some (schema, rest)) :
    ∃ steps, match Catalog.follow loader schema rest t.met with
      | .error fault => ((step loader.source strict)^[steps] t).outcome = some (.error fault)
      | .ok (met, more) => ∃ loads, (step loader.source strict)^[steps] t =
          { t with met, queue := t.queue ++ more, turn := none, loads } := by
  induction rest generalizing t with
  | nil =>
    refine ⟨1, t.loads, ?_⟩
    rw [Function.iterate_one, step_of_turn_nil _ _ hgoing hturn, List.append_nil]
  | cons reference rest ih =>
    have hstep := step_of_turn loader.source strict hgoing hturn
    rw [stepReference, loader.resolve_source, loader.load_source] at hstep
    unfold Catalog.follow
    cases hresolve : loader.resolve schema.path reference with
    | error cause =>
      rw [hresolve] at hstep
      exact ⟨1, by rw [Function.iterate_one, hstep]; rfl⟩
    | ok path =>
      rw [hresolve] at hstep
      dsimp only at hstep ⊢
      by_cases hknown : t.met.contains path = true
      · rw [if_pos hknown] at hstep ⊢
        obtain ⟨steps, hsteps⟩ := ih (t := t.step loader.source strict)
          (by rw [hstep]; exact hgoing) (by rw [hstep])
        refine ⟨steps + 1, ?_⟩
        rw [Function.iterate_succ_apply]
        rw [hstep] at hsteps ⊢
        exact hsteps
      · rw [if_neg hknown] at hstep ⊢
        cases hload : loader.load path with
        | error cause =>
          rw [hload] at hstep
          exact ⟨1, by rw [Function.iterate_one, hstep]; rfl⟩
        | ok loaded =>
          rw [hload] at hstep
          obtain ⟨steps, hsteps⟩ := ih (t := t.step loader.source strict)
            (by rw [hstep]; exact hgoing) (by rw [hstep])
          refine ⟨steps + 1, ?_⟩
          rw [Function.iterate_succ_apply]
          rw [hstep] at hsteps ⊢
          dsimp only at hsteps ⊢
          cases hfollow : Catalog.follow loader schema rest (Catalog.meet path loaded t.met) with
          | error fault =>
            rw [hfollow] at hsteps
            exact hsteps
          | ok followed =>
            rw [hfollow] at hsteps
            obtain ⟨loads, hsteps⟩ := hsteps
            refine ⟨loads, ?_⟩
            rw [hsteps, List.append_assoc]
            rfl

/-- **The queue** runs empty in finitely many steps, or the traversal fails in one of them; either
way it comes to what `addAll` comes to. -/
theorem exists_iterate_addAll (loader : Loader) (strict : Bool) {met : List String}
    {queue : List Schema} {c : Catalog} (hgoing : t.outcome = none) (hturn : t.turn = none)
    (hmet : t.met = met) (hqueue : t.queue = queue) (hc : t.catalog = c) :
    ∃ steps, ((step loader.source strict)^[steps] t).outcome =
      some (Catalog.addAll loader strict met queue c).result := by
  -- by the recursion of the function, which counts down the paths that its loader names
  induction met, queue, c using Catalog.addAll.induct loader generalizing t with
  | case1 met c =>
    refine ⟨1, ?_⟩
    rw [Function.iterate_one, step_of_no_turn _ _ hgoing hturn, stepQueue, Catalog.addAll, hqueue,
      hc]
    rfl
  | case2 met c schema rest ih =>
    subst hmet hc
    have hstep := step_of_no_turn loader.source strict hgoing hturn
    rw [stepQueue, hqueue] at hstep
    dsimp only at hstep
    rw [Catalog.addAll, Report.result_andThen]
    cases hadd : (t.catalog.add strict schema).result with
    | error fault =>
      rw [hadd] at hstep
      exact ⟨1, by rw [Function.iterate_one, hstep]; rfl⟩
    | ok c₁ =>
      rw [hadd] at hstep
      dsimp only [Except.bind] at hstep ⊢
      obtain ⟨steps, hsteps⟩ := exists_iterate_follow loader strict
        (t := t.step loader.source strict) (by rw [hstep]; exact hgoing) (by rw [hstep])
      have hmet : (t.step loader.source strict).met = t.met := by rw [hstep]
      rw [hmet] at hsteps
      split
      next fault hfollow =>
        rw [hfollow] at hsteps
        exact ⟨steps + 1, by rw [Function.iterate_succ_apply]; exact hsteps⟩
      next met' more hfollow =>
        rw [hfollow] at hsteps
        obtain ⟨loads, hsteps⟩ := hsteps
        obtain ⟨steps', hsteps'⟩ := ih c₁ met' more hfollow
          (t := (step loader.source strict)^[steps] (t.step loader.source strict))
          (by rw [hsteps, hstep]; exact hgoing) (by rw [hsteps]) (by rw [hsteps])
          (by rw [hsteps, hstep]) (by rw [hsteps, hstep])
        refine ⟨steps' + (steps + 1), ?_⟩
        rw [Function.iterate_add_apply, Function.iterate_succ_apply]
        exact hsteps'

/-- The steps come to what `build` comes to. -/
theorem exists_iterate_build (loader : Loader) (strict : Bool) (root : Schema) :
    ∃ steps, ((step loader.source strict)^[steps] (start root)).outcome =
      some (Catalog.build loader strict root).result := by
  have hall : ∃ steps, ((step loader.source strict)^[steps] (start root)).outcome =
      some (Catalog.addAll loader strict [root.path] [root] {}).result :=
    exists_iterate_addAll loader strict rfl rfl rfl rfl rfl
  obtain ⟨steps, hsteps⟩ := hall
  refine ⟨steps, ?_⟩
  rw [hsteps, Catalog.build, Report.result_andThen]
  cases (Catalog.addAll loader strict [root.path] [root] {}).result with
  | error fault => rfl
  | ok c => rfl

/-- What a traversal came to when it ended does not depend on when one looks. -/
theorem Reached.outcome_eq {result result' : Except Fault Catalog} {steps : Nat}
    (ht : Reached source strict root t) (h : t.outcome = some result)
    (h' : ((step source strict)^[steps] (start root)).outcome = some result') :
    result = result' := by
  obtain ⟨steps₁, rfl⟩ := ht
  have hfixed : (step source strict)^[steps] (start root) =
      (step source strict)^[steps₁] (start root) := by
    rw [← iterate_of_ended source strict (Option.isSome_of_eq_some h') steps₁,
      ← Function.iterate_add_apply, Nat.add_comm, Function.iterate_add_apply,
      iterate_of_ended source strict (Option.isSome_of_eq_some h)]
  rw [hfixed, h] at h'
  exact Option.some.inj h'

/-- **A traversal of references ends**, whatever references resolve to and whatever paths the
schemas report, if only finitely many paths can be loaded. However far it got, it has loaded no path
twice; where it ended it has what `Catalog.build` gives, and an origin more than there are paths to
load at most. -/
theorem traversal_ends (hfin : source.loadable.Finite) (strict : Bool) (root : Schema) :
    (∃ steps, ∀ later, steps ≤ later →
      ((step source strict)^[later] (start root)).outcome.isSome = true) ∧
    ∀ t, Reached source strict root t → t.loads.Nodup ∧
      ∀ result, t.outcome = some result →
        (∀ loader : Loader, loader.source = source →
          (Catalog.build loader strict root).result = result) ∧
        ∀ c, result = .ok c → c.origins.length ≤ source.loadable.ncard + 1 := by
  constructor
  · obtain ⟨steps, hsteps⟩ := exists_iterate_build (source.loader hfin) strict root
    have hended := Option.isSome_of_eq_some hsteps
    refine ⟨steps, fun later hlater => ?_⟩
    obtain ⟨more, rfl⟩ := Nat.exists_eq_add_of_le' hlater
    rw [Function.iterate_add_apply]
    exact (congrArg (·.outcome.isSome) (iterate_of_ended source strict hended more)).trans hended
  · intro t ht
    refine ⟨ht.sound.loads_nodup, fun result hresult => ⟨?_, ?_⟩⟩
    · rintro loader rfl
      obtain ⟨steps, hsteps⟩ := exists_iterate_build loader strict root
      exact (ht.outcome_eq hresult hsteps).symm
    · rintro c rfl
      exact ht.sound.length_origins_le hfin hresult

/-! ### A file of two paths -/

/-- A schema that refers to itself, by both of its paths, and to `A`. -/
def twoPathFile : Schema where
  name := "B"
  path := "B"
  objects := (referringSchema "B" ["A", "b", "B"]).objects ++ [{ name := "T", type := .stringType }]

/-- It loads from `B`, which is what it reports, and from `b`; and `A` is not among the schemas. -/
def twoPathSet : SchemaSet where
  entries := [("B", twoPathFile), ("b", twoPathFile)]
  aliases := [("A", "A")]

/-- From `A` on, the steps load both paths, each once, and come to an end. -/
theorem traversal_ends_two_paths :
    twoPathSet.loader.source.loadable.Finite ∧
    ∃ t c, Reached twoPathSet.loader.source false (referringSchema "A" ["B", "b", "A"]) t ∧
      t.loads = ["B", "b"] ∧ t.loads.Nodup ∧ t.outcome = some (.ok c) ∧
      (Catalog.build twoPathSet.loader false (referringSchema "A" ["B", "b", "A"])).result = .ok c ∧
      c.origins.length = 3 ∧ c.origins.length ≤ twoPathSet.loader.source.loadable.ncard + 1 := by
  have hfin := twoPathSet.loader.finite_loadable
  obtain ⟨-, hreached⟩ := traversal_ends hfin false (referringSchema "A" ["B", "b", "A"])
  let t := (step twoPathSet.loader.source false)^[20]
    (start (referringSchema "A" ["B", "b", "A"]))
  have hloads : t.loads = ["B", "b"] := by decide +kernel
  have hlength :
      t.outcome.bind (fun result => result.toOption.map (·.origins.length)) = some 3 := by
    decide +kernel
  obtain ⟨result, hresult, hlength⟩ := Option.bind_eq_some_iff.mp hlength
  obtain ⟨c, hc, hlength⟩ := Option.map_eq_some_iff.mp hlength
  have hc := eq_ok_of_toOption hc
  obtain ⟨hnodup, hended⟩ := hreached t ⟨20, rfl⟩
  obtain ⟨hbuild, hbound⟩ := hended result hresult
  refine ⟨hfin, t, c, ⟨20, rfl⟩, hloads, hnodup, ?_, ?_, hlength, hbound c hc⟩
  · rw [hresult, hc]
  · rw [hbuild _ rfl, hc]

end Traversal

end SchemaGen
