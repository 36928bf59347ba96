import Mathlib.Data.List.Forall2
import Mathlib.Data.List.Nodup
import Mathlib.Data.List.Perm.Basic
import Mathlib.Logic.Function.Basic
import SchemaGen.Plugin.Builtin
import SchemaGen.Proofs.Generation.Outputs

/-!
# Jobs that run side by side

The schemas of a request are independent jobs on one file store and one list of units. A job has
four steps: it renders its schema, writes the header, writes the source and records its unit.
Here the jobs take these steps in any order that a schedule gives (`run`); one job after the other
is `generateAll` (`run_inOrder`).

A step reads only schema files and writes only outputs, so it does the same whenever it comes. What
is known of a batch is therefore told by how far each job got (`Batch.At`): a step takes its job
one further (`Batch.At.step`), and a whole run takes each as far as the schedule says
(`Batch.At.run`).
-/

set_option autoImplicit false

namespace SchemaGen

/-! ## Steps -/

/-- How far a job got, and what it has in hand. -/
inductive Stage where
  | waiting
  | rendered (u : RenderedUnit)
  | headerWritten (u : RenderedUnit) (header : String)
  | written (unit : GeneratedUnit)
  | recorded

/-- The jobs of a request on the way. -/
structure Batch where
  store : FileStore
  /-- The stage of each job. -/
  stage : Nat → Stage
  /-- The units, one for each job, blank until it is recorded. -/
  units : List GeneratedUnit

namespace Batch

/-- No job has begun. -/
def start (s : FileStore) (jobs : Nat) : Batch where
  store := s
  stage _ := .waiting
  units := List.replicate jobs ⟨"", []⟩

/-- The next step of job `i`. -/
def step (plugins : Registry) (r : Request) (paths : List String) (b : Batch) (i : Nat) :
    Except Fault Batch :=
  match b.stage i with
  | .waiting =>
    match paths[i]? with
    | none => .ok b
    | some path =>
      (renderedAt plugins r b.store path).map fun u =>
        { b with stage := Function.update b.stage i (.rendered u) }
  | .rendered u =>
    if u.headerFile = "" || u.sourceFile = "" then .error (.unnamedUnit u.schema)
    else match b.store.writeInto r.outputDir u.headerFile u.header with
      | (_, .error fault) => .error fault
      | (store, .ok header) =>
        .ok { b with store, stage := Function.update b.stage i (.headerWritten u header) }
  | .headerWritten u header =>
    match b.store.writeInto r.outputDir u.sourceFile u.source with
    | (_, .error fault) => .error fault
    | (store, .ok source) =>
      .ok { b with
        store, stage := Function.update b.stage i (.written ⟨u.schema, [header, source]⟩) }
  | .written unit =>
    .ok { b with units := b.units.set i unit, stage := Function.update b.stage i .recorded }
  | .recorded => .ok b

/-- Takes the steps of a schedule, which names the job of each, up to the first that fails. -/
def run (plugins : Registry) (r : Request) (paths : List String) :
    List Nat → Batch → Except Fault Batch
  | [], b => .ok b
  | i :: rest, b =>
    match b.step plugins r paths i with
    | .error fault => .error fault
    | .ok b => run plugins r paths rest b

end Batch

/-- Every job takes its four steps. -/
def IsInterleaving (jobs : Nat) (schedule : List Nat) : Prop :=
  ∀ i, schedule.count i = if i < jobs then 4 else 0

/-- One job after the other, from job `first` on. -/
def inOrder (first jobs : Nat) : List Nat :=
  (List.range' first jobs).flatMap (List.replicate 4)

variable {plugins : Registry} {r : Request} {s : FileStore} {paths : List String}
  {us : List RenderedUnit} {dir path : String} {u : RenderedUnit} {i : Nat} {b : Batch}
  {progress : Nat → Nat}

/-! ## One job after the other -/

namespace Batch

theorem run_append (plugins : Registry) (r : Request) (paths : List String)
    (first rest : List Nat) (b : Batch) :
    run plugins r paths (first ++ rest) b =
      match run plugins r paths first b with
      | .error fault => .error fault
      | .ok b => run plugins r paths rest b := by
  induction first generalizing b with
  | nil => rfl
  | cons i first ih =>
    rw [List.cons_append, run, run]
    cases b.step plugins r paths i with
    | error fault => rfl
    | ok b => exact ih b

/-- The four steps of a job are the job. -/
theorem run_job (hpath : paths[i]? = some path) (hstage : b.stage i = .waiting) :
    run plugins r paths (List.replicate 4 i) b =
      match (generateOne plugins r path).outcome b.store with
      | (_, .error fault) => .error fault
      | (store, .ok unit) =>
        .ok ⟨store, Function.update b.stage i .recorded, b.units.set i unit⟩ := by
  rw [outcome_generateOne]
  simp only [List.replicate, run, step, hstage, hpath]
  cases hrendered : renderedAt plugins r b.store path with
  | error fault => rfl
  | ok u =>
    simp only [Except.map, Function.update_self, if_neg (namedFor_of_renderedAt hrendered).named]
    rcases b.store.writeInto r.outputDir u.headerFile u.header with ⟨store, fault | header⟩
    · rfl
    · simp only [Function.update_self]
      rcases store.writeInto r.outputDir u.sourceFile u.source with ⟨store', fault | source⟩
      · rfl
      · simp only [Function.update_self, Function.update_idem]

theorem run_inOrder_from {rest : List String} {done : List GeneratedUnit} {first : Nat}
    (hpaths : paths.drop first = rest) (hstage : ∀ i, first ≤ i → b.stage i = .waiting)
    (hdone : done.length = first)
    (hunits : b.units = done ++ List.replicate rest.length ⟨"", []⟩) :
    (run plugins r paths (inOrder first rest.length) b).map (fun b => (b.store, b.units)) =
      match (generateAll plugins r rest).outcome b.store with
      | (_, .error fault) => .error fault
      | (store, .ok units) => .ok (store, done ++ units) := by
  induction rest generalizing first b done with
  | nil =>
    have hb : b.units = done := by simpa using hunits
    simp only [outcome_generateAll_nil, inOrder, List.length_nil, List.range'_zero,
      List.flatMap_nil, run, Except.map, hb, List.append_nil]
  | cons path rest ih =>
    have hpath : paths[first]? = some path := by
      rw [← Nat.add_zero first, ← List.getElem?_drop, hpaths]
      rfl
    have hrest : paths.drop (first + 1) = rest := by
      simpa using congrArg (·.drop 1) hpaths
    rw [inOrder, List.length_cons, List.range'_succ, List.flatMap_cons, run_append,
      run_job hpath (hstage first (Nat.le_refl _)), outcome_generateAll_cons]
    rcases (generateOne plugins r path).outcome b.store with ⟨store, fault | unit⟩
    · rfl
    · have hunits' : b.units.set first unit =
          (done ++ [unit]) ++ List.replicate rest.length ⟨"", []⟩ := by
        rw [hunits, List.length_cons, List.replicate_succ, ← hdone,
          List.set_append_right _ _ (by simp)]
        simp
      have hstage' : ∀ i, first + 1 ≤ i →
          Function.update b.stage first .recorded i = .waiting := fun i hi => by
        rw [Function.update_of_ne (by omega), hstage i (by omega)]
      have hmore := ih
        (b := ⟨store, Function.update b.stage first .recorded, b.units.set first unit⟩)
        hrest hstage' (by simp [hdone]) hunits'
      dsimp only at hmore ⊢
      rw [← inOrder, hmore]
      rcases (generateAll plugins r rest).outcome store with ⟨store', fault | units⟩
      · rfl
      · simp [Except.map]

/-- **One job after the other is `generateAll`.** -/
theorem run_inOrder (plugins : Registry) (r : Request) (paths : List String) (s : FileStore) :
    (run plugins r paths (inOrder 0 paths.length) (start s paths.length)).map
        (fun b => (b.store, b.units)) =
      match (generateAll plugins r paths).outcome s with
      | (_, .error fault) => .error fault
      | (store, .ok units) => .ok (store, units) :=
  run_inOrder_from rfl (fun _ _ => rfl) (rfl : ([] : List GeneratedUnit).length = 0) rfl

end Batch

/-! ## How far the jobs got -/

/-- The stage of a job after so many steps, of which every one went well. -/
def stageAfter (dir : String) (u : RenderedUnit) : Nat → Stage
  | 0 => .waiting
  | 1 => .rendered u
  | 2 => .headerWritten u (Path.join dir u.headerFile)
  | 3 => .written (u.generated dir)
  | _ => .recorded

/-- What the jobs have written: the header after two steps, the source after three. -/
def putsAfter (s : FileStore) (dir : String) :
    (progress : Nat → Nat) → List RenderedUnit → List (Place × String)
  | _, [] => []
  | progress, u :: us =>
    (u.puts s dir).drop (3 - progress 0) ++ putsAfter s dir (fun i => progress (i + 1)) us

theorem putsAfter_const (s : FileStore) (dir : String) (us : List RenderedUnit) :
    putsAfter s dir (fun _ => 0) us = [] ∧
      putsAfter s dir (fun _ => 4) us = us.flatMap (·.puts s dir) := by
  induction us with
  | nil => exact ⟨rfl, rfl⟩
  | cons u us ih => exact ⟨by simp [putsAfter, ih.1, RenderedUnit.puts], by simp [putsAfter, ih.2]⟩

theorem exists_of_mem_putsAfter {put : Place × String} (h : put ∈ putsAfter s dir progress us) :
    ∃ u ∈ us, put ∈ u.puts s dir := by
  induction us generalizing progress with
  | nil => cases h
  | cons u us ih =>
    rcases List.mem_append.mp h with h | h
    · exact ⟨u, List.mem_cons_self, List.mem_of_mem_drop h⟩
    · obtain ⟨v, hv, hput⟩ := ih h
      exact ⟨v, List.mem_cons_of_mem _ hv, hput⟩

/-- One step of one job adds what that step writes. -/
theorem putsAfter_update {new : List (Place × String)} {k : Nat} (hu : us[i]? = some u)
    (hnew : (u.puts s dir).drop (3 - k) = new ++ (u.puts s dir).drop (3 - progress i)) :
    (putsAfter s dir (Function.update progress i k) us).Perm
      (new ++ putsAfter s dir progress us) := by
  induction us generalizing progress i with
  | nil => cases hu
  | cons v us ih =>
    cases i with
    | zero =>
      cases hu
      have hrest : (fun i => Function.update progress 0 k (i + 1)) = fun i => progress (i + 1) :=
        funext fun i => Function.update_of_ne (Nat.succ_ne_zero i) _ _
      rw [putsAfter, putsAfter, Function.update_self, hnew, hrest, List.append_assoc]
    | succ i =>
      have hrest : (fun j => Function.update progress (i + 1) k (j + 1)) =
          Function.update (fun j => progress (j + 1)) i k :=
        Function.update_comp_eq_of_injective progress Nat.succ_injective i k
      rw [putsAfter, putsAfter, Function.update_of_ne (Nat.succ_ne_zero i).symm, hrest]
      exact ((ih hu hnew).append_left _).trans (List.perm_append_comm_assoc _ _ _)

/-- What is needed of the jobs: every schema is rendered, and no schema file is written to. -/
structure Independent (plugins : Registry) (r : Request) (s : FileStore) (paths : List String)
    (us : List RenderedUnit) : Prop where
  rendered : List.Forall₂ (fun path u => renderedAt plugins r s path = .ok u) paths us
  apart : ∀ path ∈ paths, ∀ u ∈ us, ∀ output ∈ u.outputs r.outputDir,
    s.destination path ≠ s.destination output

theorem Independent.exists_path (h : Independent plugins r s paths us) (hu : us[i]? = some u) :
    ∃ path, paths[i]? = some path ∧ renderedAt plugins r s path = .ok u := by
  obtain ⟨hi, rfl⟩ := List.getElem?_eq_some_iff.mp hu
  obtain ⟨hlength, hget⟩ := List.forall₂_iff_get.mp h.rendered
  exact ⟨_, List.getElem?_eq_getElem (hlength ▸ hi), hget i (hlength ▸ hi) hi⟩

theorem Independent.named (h : Independent plugins r s paths us) (hu : u ∈ us) :
    ∃ path, u.NamedFor path := by
  obtain ⟨i, hi⟩ := List.getElem?_of_mem hu
  obtain ⟨path, -, hrendered⟩ := h.exists_path hi
  exact ⟨path, namedFor_of_renderedAt hrendered⟩

namespace Batch

/-- A batch whose jobs took so many steps each, of which every one went well. -/
structure At (s : FileStore) (dir : String) (us : List RenderedUnit) (progress : Nat → Nat)
    (b : Batch) : Prop where
  stage : ∀ i u, us[i]? = some u → b.stage i = stageAfter dir u (progress i)
  length_units : b.units.length = us.length
  units : ∀ i u, us[i]? = some u → 4 ≤ progress i → b.units[i]? = some (u.generated dir)
  wrote : ∃ puts, s.Wrote dir puts b.store ∧ puts.Perm (putsAfter s dir progress us)

theorem at_start (s : FileStore) (dir : String) (us : List RenderedUnit) :
    At s dir us (fun _ => 0) (start s us.length) where
  stage _ _ _ := rfl
  length_units := List.length_replicate
  units _ _ _ h := absurd h (by decide)
  wrote := ⟨[], .nil s dir, by rw [(putsAfter_const s dir us).1]⟩

/-- A job is one step further: its stage is the next, its unit is recorded if that was the step, and
the store has what the step wrote. -/
theorem At.advance {b' : Batch} {k : Nat} (h : At s dir us progress b)
    (new : List (Place × String)) (hu : us[i]? = some u) (hk : progress i = k) (hlt : k < 4)
    (hstage : b'.stage = Function.update b.stage i (stageAfter dir u (k + 1)))
    (hunits : b'.units = if k = 3 then b.units.set i (u.generated dir) else b.units)
    (hnew : (u.puts s dir).drop (3 - (k + 1)) = new ++ (u.puts s dir).drop (3 - k))
    (hwrote : ∀ puts, s.Wrote dir puts b.store → s.Wrote dir (new ++ puts) b'.store) :
    At s dir us (Function.update progress i (k + 1)) b' where
  stage j v hv := by
    by_cases hj : j = i
    · subst hj
      obtain rfl : u = v := Option.some.inj (hu.symm.trans hv)
      rw [hstage, Function.update_self, Function.update_self]
    · rw [hstage, Function.update_of_ne hj, Function.update_of_ne hj, h.stage j v hv]
  length_units := by
    rw [hunits]
    split
    · rw [List.length_set, h.length_units]
    · exact h.length_units
  units j v hv hj4 := by
    by_cases hj : j = i
    · subst hj
      obtain rfl : u = v := Option.some.inj (hu.symm.trans hv)
      rw [Function.update_self] at hj4
      have hlength : j < b.units.length := by
        rw [h.length_units]
        exact (List.getElem?_eq_some_iff.mp hu).1
      rw [hunits, if_pos (by omega), List.getElem?_set_self hlength]
    · rw [Function.update_of_ne hj] at hj4
      rw [hunits]
      split
      · rw [List.getElem?_set_ne (Ne.symm hj), h.units j v hv hj4]
      · exact h.units j v hv hj4
  wrote := by
    obtain ⟨puts, hputs, hperm⟩ := h.wrote
    exact ⟨new ++ puts, hwrote puts hputs,
      (hperm.append_left new).trans (putsAfter_update hu (hk ▸ hnew)).symm⟩

/-- What is rendered does not depend on when. -/
theorem At.renderedAt (hind : Independent plugins r s paths us)
    (h : At s r.outputDir us progress b) (hpath : path ∈ paths)
    (hrendered : renderedAt plugins r s path = .ok u) :
    renderedAt plugins r b.store path = .ok u := by
  obtain ⟨puts, hwrote, hperm⟩ := h.wrote
  have hputs : ∀ put ∈ puts, ∃ v ∈ us, put ∈ v.puts s r.outputDir := fun put hput =>
    exists_of_mem_putsAfter (hperm.mem_iff.mp hput)
  exact renderedAt_of_wrote hwrote
    (RenderedUnit.not_namesSchema_of_wrote hputs hwrote fun v hv => hind.named hv)
    (RenderedUnit.destination_ne_of_puts hputs (hind.apart path hpath)) hrendered

end Batch

/-- What the next step of a job writes can be written. -/
def StepWritable (s : FileStore) (dir : String) (u : RenderedUnit) (steps : Nat) : Prop :=
  (steps = 1 → s.Writable dir u.headerFile) ∧ (steps = 2 → s.Writable dir u.sourceFile)

namespace Batch

/-- **A step takes its job one further**, whatever the other jobs did, exactly if what it writes
could have been written at the start. -/
theorem At.step (hind : Independent plugins r s paths us) (h : At s r.outputDir us progress b)
    (hu : us[i]? = some u) (hlt : progress i < 4) :
    (StepWritable s r.outputDir u (progress i) → ∃ b', b.step plugins r paths i = .ok b' ∧
      At s r.outputDir us (Function.update progress i (progress i + 1)) b') ∧
    (∀ b', b.step plugins r paths i = .ok b' → StepWritable s r.outputDir u (progress i)) := by
  obtain ⟨path, hpath, hrendered⟩ := hind.exists_path hu
  have hnamed := namedFor_of_renderedAt hrendered
  obtain ⟨stem, hheader, hsource⟩ := hnamed.entries
  obtain ⟨puts, hwrote, -⟩ := h.wrote
  have hstage := h.stage i u hu
  unfold Batch.step
  match hk : progress i, hlt with
  | 0, _ =>
    rw [hstage, hk, stageAfter, hpath]
    dsimp only
    rw [h.renderedAt hind (List.mem_of_getElem? hpath) hrendered]
    refine ⟨fun _ => ⟨_, rfl, ?_⟩, fun _ _ => ⟨by omega, by omega⟩⟩
    exact h.advance [] hu hk (by omega) rfl rfl rfl fun _ hputs => hputs
  | 1, _ =>
    rw [hstage, hk, stageAfter]
    dsimp only
    rw [if_neg hnamed.named]
    constructor
    · intro hw
      obtain ⟨store, hok, -⟩ := hwrote.writeInto_ok hheader (hw.1 rfl) u.header
      rw [hok]
      refine ⟨_, rfl, ?_⟩
      exact h.advance [_] hu hk (by omega) rfl rfl rfl fun _ hputs =>
        (hputs.writeInto hheader hok).2
    · intro b' hb'
      split at hb'
      · cases hb'
      next store header hok => exact ⟨fun _ => hwrote.writable hheader hok, by omega⟩
  | 2, _ =>
    rw [hstage, hk, stageAfter]
    dsimp only
    constructor
    · intro hw
      obtain ⟨store, hok, -⟩ := hwrote.writeInto_ok hsource (hw.2 rfl) u.source
      rw [hok]
      refine ⟨_, rfl, ?_⟩
      exact h.advance [_] hu hk (by omega) rfl rfl rfl fun _ hputs =>
        (hputs.writeInto hsource hok).2
    · intro b' hb'
      split at hb'
      · cases hb'
      next store source hok => exact ⟨by omega, fun _ => hwrote.writable hsource hok⟩
  | 3, _ =>
    rw [hstage, hk, stageAfter]
    refine ⟨fun _ => ⟨_, rfl, ?_⟩, fun _ _ => ⟨by omega, by omega⟩⟩
    exact h.advance [] hu hk (by omega) rfl rfl rfl fun _ hputs => hputs

theorem update_add_count (progress : Nat → Nat) (i : Nat) (rest : List Nat) (j : Nat) :
    Function.update progress i (progress i + 1) j + rest.count j =
      progress j + (i :: rest).count j := by
  by_cases hj : j = i
  · subst hj
    rw [Function.update_self, List.count_cons_self]
    omega
  · rw [Function.update_of_ne hj, List.count_cons_of_ne (Ne.symm hj)]

/-- **A run takes every job as far as its schedule says** if what the steps write can be written. -/
theorem At.run {schedule : List Nat} (hind : Independent plugins r s paths us)
    (h : At s r.outputDir us progress b) (hjobs : ∀ i ∈ schedule, i < us.length)
    (hcount : ∀ i, progress i + schedule.count i ≤ 4)
    (hwritable : ∀ u ∈ us, u.Writable s r.outputDir) :
    ∃ b', b.run plugins r paths schedule = .ok b' ∧
      At s r.outputDir us (fun i => progress i + schedule.count i) b' := by
  induction schedule generalizing progress b with
  | nil => exact ⟨b, rfl, h⟩
  | cons i rest ih =>
    have hi := hjobs i List.mem_cons_self
    have hlt : progress i < 4 := by
      have := hcount i
      rw [List.count_cons_self] at this
      omega
    obtain ⟨hheader, hsource⟩ := hwritable us[i] (List.getElem_mem hi)
    obtain ⟨b₁, hstep, h₁⟩ := (h.step hind (List.getElem?_eq_getElem hi) hlt).1
      ⟨fun _ => hheader, fun _ => hsource⟩
    obtain ⟨b', hrun, h'⟩ := ih h₁ (fun j hj => hjobs j (List.mem_cons_of_mem _ hj))
      fun j => by rw [update_add_count]; exact hcount j
    refine ⟨b', ?_, ?_⟩
    · rw [Batch.run, hstep]
      exact hrun
    · simpa only [update_add_count] using h'

/-- A run succeeds only if what its steps write can be written. -/
theorem At.stepWritable_of_run {schedule : List Nat} {b' : Batch}
    (hind : Independent plugins r s paths us) (h : At s r.outputDir us progress b)
    (hjobs : ∀ i ∈ schedule, i < us.length) (hcount : ∀ i, progress i + schedule.count i ≤ 4)
    (hok : b.run plugins r paths schedule = .ok b') {steps : Nat} (hu : us[i]? = some u)
    (hfrom : progress i ≤ steps) (hto : steps < progress i + schedule.count i) :
    StepWritable s r.outputDir u steps := by
  induction schedule generalizing progress b with
  | nil =>
    rw [List.count_nil] at hto
    omega
  | cons j rest ih =>
    have hj := List.getElem?_eq_getElem (hjobs j List.mem_cons_self)
    have hlt : progress j < 4 := by
      have := hcount j
      rw [List.count_cons_self] at this
      omega
    rw [Batch.run] at hok
    split at hok
    · cases hok
    next b₁ hstep =>
      have hw := (h.step hind hj hlt).2 b₁ hstep
      obtain ⟨b₁', hstep', h₁⟩ := (h.step hind hj hlt).1 hw
      obtain rfl : b₁ = b₁' := Except.ok.inj (hstep.symm.trans hstep')
      by_cases hnow : j = i ∧ progress j = steps
      · -- it is this step
        obtain ⟨rfl, rfl⟩ := hnow
        obtain rfl := Option.some.inj (hu.symm.trans hj)
        exact hw
      · refine ih h₁ (fun k hk => hjobs k (List.mem_cons_of_mem _ hk))
          (fun k => by rw [update_add_count]; exact hcount k) hok ?_ ?_
        · by_cases hij : i = j
          · subst hij
            rw [Function.update_self]
            omega
          · rwa [Function.update_of_ne hij]
        · rwa [update_add_count]

end Batch

/-! ## Whole runs -/

theorem IsInterleaving.lt {jobs : Nat} {schedule : List Nat} (h : IsInterleaving jobs schedule)
    (hi : i ∈ schedule) : i < jobs := by
  by_contra hge
  have hcount := h i
  rw [if_neg hge, List.count_eq_zero] at hcount
  exact hcount hi

theorem count_inOrder (first jobs i : Nat) :
    (inOrder first jobs).count i = if first ≤ i ∧ i < first + jobs then 4 else 0 := by
  induction jobs generalizing first with
  | zero => rw [if_neg (by omega)]; rfl
  | succ jobs ih =>
    rw [inOrder, List.range'_succ, List.flatMap_cons, ← inOrder, List.count_append, ih,
      List.count_replicate]
    by_cases hi : first = i
    · subst hi
      simp
    · rw [beq_eq_false_iff_ne.mpr hi, if_neg Bool.false_ne_true, Nat.zero_add]
      exact if_congr (by omega) rfl rfl

theorem isInterleaving_inOrder (jobs : Nat) : IsInterleaving jobs (inOrder 0 jobs) := by
  intro i
  simp [count_inOrder]

theorem putsAfter_congr {progress' : Nat → Nat} (h : ∀ i < us.length, progress i = progress' i) :
    putsAfter s dir progress us = putsAfter s dir progress' us := by
  induction us generalizing progress progress' with
  | nil => rfl
  | cons u us ih =>
    rw [putsAfter, putsAfter, h 0 (Nat.zero_lt_succ _),
      ih fun i hi => h (i + 1) (Nat.succ_lt_succ hi)]

/-- **Every interleaving ends alike**: with all units recorded in their places and all files
written. -/
theorem run_interleaving {schedule : List Nat} (hind : Independent plugins r s paths us)
    (hwritable : ∀ u ∈ us, u.Writable s r.outputDir)
    (hschedule : IsInterleaving us.length schedule) :
    ∃ b, Batch.run plugins r paths schedule (.start s us.length) = .ok b ∧
      b.units = us.map (·.generated r.outputDir) ∧
      ∃ puts, s.Wrote r.outputDir puts b.store ∧
        puts.Perm (us.flatMap (·.puts s r.outputDir)) := by
  have hcount : ∀ i, 0 + schedule.count i ≤ 4 := by
    intro i
    rw [hschedule i]
    split <;> omega
  obtain ⟨b, hrun, hb⟩ := (Batch.at_start s r.outputDir us).run hind (fun i hi => hschedule.lt hi)
    hcount hwritable
  have hfour : ∀ i < us.length, 0 + schedule.count i = 4 := fun i hi => by
    rw [hschedule i, if_pos hi]
  refine ⟨b, hrun, ?_, ?_⟩
  · refine List.ext_getElem? fun i => ?_
    cases hu : us[i]? with
    | none =>
      have hlength := List.getElem?_eq_none_iff.mp hu
      rw [List.getElem?_map, hu, Option.map_none, List.getElem?_eq_none (hb.length_units ▸ hlength)]
    | some u =>
      have hi := (List.getElem?_eq_some_iff.mp hu).1
      rw [List.getElem?_map, hu, Option.map_some, hb.units i u hu (hfour i hi).ge]
  · obtain ⟨puts, hwrote, hperm⟩ := hb.wrote
    rw [putsAfter_congr hfour, (putsAfter_const s r.outputDir us).2] at hperm
    exact ⟨puts, hwrote, hperm⟩

/-- If some interleaving succeeds, all that is to be written can be written. -/
theorem writable_of_run {schedule : List Nat} (hind : Independent plugins r s paths us)
    (hschedule : IsInterleaving us.length schedule)
    (hok : Batch.run plugins r paths schedule (.start s us.length) = .ok b) :
    ∀ u ∈ us, u.Writable s r.outputDir := by
  intro u hu
  obtain ⟨i, hi⟩ := List.getElem?_of_mem hu
  have hcount : schedule.count i = 4 := by
    rw [hschedule i, if_pos (List.getElem?_eq_some_iff.mp hi).1]
  have hstep : ∀ steps < 4, StepWritable s r.outputDir u steps := fun steps hsteps =>
    (Batch.at_start s r.outputDir us).stepWritable_of_run hind (fun i hi => hschedule.lt hi)
      (fun i => by rw [hschedule i]; split <;> omega) hok hi (Nat.zero_le _) (by omega)
  exact ⟨(hstep 1 (by omega)).1 rfl, (hstep 2 (by omega)).2 rfl⟩

theorem outcome_generateAll_of_run
    (h : Batch.run plugins r paths (inOrder 0 paths.length) (.start s paths.length) = .ok b) :
    (generateAll plugins r paths).outcome s = (b.store, .ok b.units) := by
  have horder := Batch.run_inOrder plugins r paths s
  rw [h] at horder
  rcases houtcome : (generateAll plugins r paths).outcome s with ⟨store, fault | units⟩
  · rw [houtcome] at horder
    cases horder
  · rw [houtcome] at horder
    cases horder
    rfl

theorem outcome_generateAll_ok (hind : Independent plugins r s paths us)
    (hwritable : ∀ u ∈ us, u.Writable s r.outputDir) :
    ∃ final, (generateAll plugins r paths).outcome s =
        (final, .ok (us.map (·.generated r.outputDir))) ∧
      ∃ puts, s.Wrote r.outputDir puts final ∧
        puts.Perm (us.flatMap (·.puts s r.outputDir)) := by
  obtain ⟨b, hrun, hunits, hwrote⟩ :=
    run_interleaving hind hwritable (isInterleaving_inOrder us.length)
  rw [← hind.rendered.length_eq] at hrun
  exact ⟨b.store, hunits ▸ outcome_generateAll_of_run hrun, hwrote⟩

theorem outcome_generateAll_of_run_error {fault : Fault}
    (h : Batch.run plugins r paths (inOrder 0 paths.length) (.start s paths.length) =
      .error fault) : ((generateAll plugins r paths).outcome s).2 = .error fault := by
  have horder := Batch.run_inOrder plugins r paths s
  rw [h] at horder
  rcases houtcome : (generateAll plugins r paths).outcome s with ⟨store, fault' | units⟩
  · rw [houtcome] at horder
    cases horder
    rfl
  · rw [houtcome] at horder
    cases horder

/-! ## Distinct outputs -/

/-- An output is told by its name in the output directory, and so is its place. -/
theorem RenderedUnit.NamedFor.exists_entry (h : u.NamedFor path) (hdir : dir ≠ "")
    {output : String} (houtput : output ∈ u.outputs dir) (s : FileStore) :
    ∃ last, output = Path.join dir last ∧ s.destination output = s.destination dir ++ [last] := by
  obtain ⟨stem, hheader, hsource⟩ := h.entries
  simp only [outputs, List.mem_cons, List.not_mem_nil, or_false] at houtput
  rcases houtput with rfl | rfl
  · exact ⟨_, Path.join_isEntry hdir hheader, FileStore.destination_join_isEntry hdir hheader⟩
  · exact ⟨_, Path.join_isEntry hdir hsource, FileStore.destination_join_isEntry hdir hsource⟩

theorem places_perm (us : List RenderedUnit) (s : FileStore) (dir : String) :
    ((us.flatMap (·.puts s dir)).map Prod.fst).Perm
      ((us.flatMap (·.outputs dir)).map s.destination) := by
  induction us with
  | nil => exact .nil
  | cons u us ih =>
    rw [List.flatMap_cons, List.flatMap_cons, List.map_append, List.map_append]
    exact (List.Perm.swap _ _ _).append ih

/-- Different output paths lead to different places. -/
theorem nodup_places (hnamed : ∀ u ∈ us, ∃ path, u.NamedFor path) (hdir : us ≠ [] → dir ≠ "")
    (hdistinct : (us.flatMap (·.outputs dir)).Nodup) (s : FileStore) :
    ((us.flatMap (·.puts s dir)).map Prod.fst).Nodup := by
  refine (places_perm us s dir).nodup_iff.mpr (hdistinct.map_on ?_)
  intro output houtput output' houtput' hplace
  obtain ⟨u, hu, hmem⟩ := List.mem_flatMap.mp houtput
  obtain ⟨u', hu', hmem'⟩ := List.mem_flatMap.mp houtput'
  obtain ⟨path, hname⟩ := hnamed u hu
  obtain ⟨path', hname'⟩ := hnamed u' hu'
  have hdir := hdir (List.ne_nil_of_mem hu)
  obtain ⟨last, rfl, hlast⟩ := hname.exists_entry hdir hmem s
  obtain ⟨last', rfl, hlast'⟩ := hname'.exists_entry hdir hmem' s
  rw [hlast, hlast'] at hplace
  rw [List.singleton_inj.mp (List.append_inj' hplace rfl).2]

theorem Independent.perm (h : Independent plugins r s paths us) {order : List String}
    (horder : order.Perm paths) : ∃ us', Independent plugins r s order us' ∧ us'.Perm us := by
  obtain ⟨us', hrendered, hperm⟩ := List.perm_comp_forall₂ horder h.rendered
  refine ⟨us', ⟨hrendered, fun path hpath u hu => ?_⟩, hperm⟩
  exact h.apart path (horder.mem_iff.mp hpath) u (hperm.mem_iff.mp hu)

/-- **The order of the jobs does not matter.** If all outputs can be written, every interleaving of
the jobs succeeds with the files and the units of one job after the other, in whatever order these
come; and if some output cannot be written, every interleaving fails. -/
theorem batch_order_independent (hind : Independent plugins r s paths us)
    (hdistinct : (us.flatMap (·.outputs r.outputDir)).Nodup) :
    ((∀ u ∈ us, u.Writable s r.outputDir) → ∃ final,
      (generateAll plugins r paths).outcome s =
          (final, .ok (us.map (·.generated r.outputDir))) ∧
        (∀ schedule, IsInterleaving paths.length schedule →
          ∃ b, Batch.run plugins r paths schedule (.start s paths.length) = .ok b ∧
            b.store.Same final ∧ b.units = us.map (·.generated r.outputDir)) ∧
        ∀ order, order.Perm paths → ∃ final' us',
          List.Forall₂ (fun path u => renderedAt plugins r s path = .ok u) order us' ∧
            (generateAll plugins r order).outcome s =
              (final', .ok (us'.map (·.generated r.outputDir))) ∧
            final'.Same final) ∧
    ((¬ ∀ u ∈ us, u.Writable s r.outputDir) →
      (∀ schedule, IsInterleaving paths.length schedule →
        ∃ fault, Batch.run plugins r paths schedule (.start s paths.length) = .error fault) ∧
      ∃ fault, ((generateAll plugins r paths).outcome s).2 = .error fault) := by
  have hlength : paths.length = us.length := hind.rendered.length_eq
  constructor
  · intro hwritable
    have hnodup := nodup_places (fun u hu => hind.named hu) (fun hne => by
      obtain ⟨u, hu⟩ := List.exists_mem_of_ne_nil us hne
      obtain ⟨made, hmade, -⟩ := (hwritable u hu).1
      exact FileStore.ne_empty_of_makeDirs hmade) hdistinct s
    -- all that was written is the same up to its order, and so are the files
    have hsame : ∀ {t t' : FileStore} {puts puts' : List (Place × String)},
        s.Wrote r.outputDir puts t → puts.Perm (us.flatMap (·.puts s r.outputDir)) →
        s.Wrote r.outputDir puts' t' → puts'.Perm (us.flatMap (·.puts s r.outputDir)) →
        t.Same t' := fun hwrote hperm hwrote' hperm' =>
      hwrote.same hwrote' (hperm.trans hperm'.symm) ((hperm.map Prod.fst).nodup_iff.mpr hnodup)
    obtain ⟨final, hfinal, puts, hwrote, hperm⟩ := outcome_generateAll_ok hind hwritable
    refine ⟨final, hfinal, fun schedule hschedule => ?_, fun order horder => ?_⟩
    · rw [hlength] at hschedule ⊢
      obtain ⟨b, hrun, hunits, puts', hwrote', hperm'⟩ :=
        run_interleaving hind hwritable hschedule
      exact ⟨b, hrun, hsame hwrote' hperm' hwrote hperm, hunits⟩
    · obtain ⟨us', hind', hus⟩ := hind.perm horder
      obtain ⟨final', hfinal', puts', hwrote', hperm'⟩ := outcome_generateAll_ok hind'
        fun u hu => hwritable u (hus.mem_iff.mp hu)
      exact ⟨final', us', hind'.rendered, hfinal',
        hsame hwrote' (hperm'.trans (hus.flatMap_right _)) hwrote hperm⟩
  · intro hnot
    have hfails : ∀ schedule, IsInterleaving paths.length schedule →
        ∃ fault, Batch.run plugins r paths schedule (.start s paths.length) = .error fault := by
      intro schedule hschedule
      cases hrun : Batch.run plugins r paths schedule (.start s paths.length) with
      | error fault => exact ⟨fault, rfl⟩
      | ok b =>
        rw [hlength] at hschedule hrun
        exact absurd (writable_of_run hind hschedule hrun) hnot
    obtain ⟨fault, hfault⟩ := hfails _ (isInterleaving_inOrder _)
    exact ⟨hfails, fault, outcome_generateAll_of_run_error hfault⟩

/-! ### Two schemas -/

/-- Two schema files in the working directory, and perhaps some directories. -/
def pairStore (dirs : List Place) : FileStore where
  files := [(["w", "A.schema.yaml"], ""), (["w", "B.schema.yaml"], "")]
  dirs := dirs
  cwd := ["w"]

/-- Where their units go. -/
def pairRequest : Request := { outputDir := "out" }

theorem renderedAt_pair (dirs : List Place) (h : ∀ path ∈ ["A.schema.yaml", "B.schema.yaml"],
    (renderedAt defaultRegistry pairRequest (pairStore dirs) path).toOption.isSome = true) :
    ∃ us, Independent defaultRegistry pairRequest (pairStore dirs)
        ["A.schema.yaml", "B.schema.yaml"] us ∧
      us.flatMap (·.outputs "out") = ["out/a.h", "out/a.cpp", "out/b.h", "out/b.cpp"] := by
  have hrendered : ∀ path ∈ ["A.schema.yaml", "B.schema.yaml"],
      ∃ u, renderedAt defaultRegistry pairRequest (pairStore dirs) path = .ok u := by
    intro path hpath
    have hsome := h path hpath
    cases hresult : renderedAt defaultRegistry pairRequest (pairStore dirs) path with
    | error fault =>
      rw [hresult] at hsome
      cases hsome
    | ok u => exact ⟨u, rfl⟩
  obtain ⟨a, ha⟩ := hrendered "A.schema.yaml" (by simp)
  obtain ⟨b, hb⟩ := hrendered "B.schema.yaml" (by simp)
  have hnames : a.outputs "out" = ["out/a.h", "out/a.cpp"] ∧
      b.outputs "out" = ["out/b.h", "out/b.cpp"] := by
    rw [RenderedUnit.outputs, RenderedUnit.outputs, (namedFor_of_renderedAt ha).headerFile,
      (namedFor_of_renderedAt ha).sourceFile, (namedFor_of_renderedAt hb).headerFile,
      (namedFor_of_renderedAt hb).sourceFile]
    decide +kernel
  refine ⟨[a, b], ⟨.cons ha (.cons hb .nil), ?_⟩, by simp [hnames]⟩
  have hplaces : ∀ path ∈ ["A.schema.yaml", "B.schema.yaml"],
      ∀ output ∈ ["out/a.h", "out/a.cpp", "out/b.h", "out/b.cpp"],
      (pairStore []).destination path ≠ (pairStore []).destination output := by
    decide +kernel
  intro path hpath u hu output houtput
  refine hplaces path hpath output ?_
  rcases List.mem_pair.mp hu with rfl | rfl
  · rw [show pairRequest.outputDir = "out" from rfl, hnames.1] at houtput
    exact List.mem_append_left ["out/b.h", "out/b.cpp"] houtput
  · rw [show pairRequest.outputDir = "out" from rfl, hnames.2] at houtput
    exact List.mem_append_right ["out/a.h", "out/a.cpp"] houtput

theorem batch_order_independent_pair : ∃ us final b,
    Independent defaultRegistry pairRequest (pairStore []) ["A.schema.yaml", "B.schema.yaml"] us ∧
      (us.flatMap (·.outputs "out")).Nodup ∧
      (∀ u ∈ us, u.Writable (pairStore []) "out") ∧
      (generateAll defaultRegistry pairRequest ["A.schema.yaml", "B.schema.yaml"]).outcome
          (pairStore []) = (final, .ok (us.map (·.generated "out"))) ∧
      Batch.run defaultRegistry pairRequest ["A.schema.yaml", "B.schema.yaml"]
          [0, 1, 1, 0, 0, 1, 1, 0] (.start (pairStore []) 2) = .ok b ∧
      b.store.Same final ∧ b.units = us.map (·.generated "out") := by
  obtain ⟨us, hind, houtputs⟩ := renderedAt_pair [] (by decide +kernel)
  have hdistinct : (us.flatMap (·.outputs "out")).Nodup := by
    rw [houtputs]
    decide
  have hmade : ∃ made, (pairStore []).makeDirs "out" = .ok made ∧
      ∀ output ∈ us.flatMap (·.outputs "out"),
        made.isDir ((pairStore []).destination output) = false := by
    rw [houtputs]
    exact ⟨{ pairStore [] with dirs := [["w", "out"]] }, rfl, by decide +kernel⟩
  have hwritable : ∀ u ∈ us, u.Writable (pairStore []) "out" := by
    intro u hu
    obtain ⟨made, hmade, hfree⟩ := hmade
    have hmem : ∀ output ∈ u.outputs "out", output ∈ us.flatMap (·.outputs "out") :=
      fun output houtput => List.mem_flatMap.mpr ⟨u, hu, houtput⟩
    exact ⟨⟨made, hmade, hfree _ (hmem _ (by simp [RenderedUnit.outputs]))⟩,
      ⟨made, hmade, hfree _ (hmem _ (by simp [RenderedUnit.outputs]))⟩⟩
  have hschedule : IsInterleaving 2 [0, 1, 1, 0, 0, 1, 1, 0] := by
    rintro (_ | _ | i)
    · rfl
    · rfl
    · simp
  obtain ⟨final, hfinal, hany, -⟩ := (batch_order_independent hind hdistinct).1 hwritable
  obtain ⟨b, hrun, hsame, hunits⟩ := hany _ hschedule
  exact ⟨us, final, b, hind, hdistinct, hwritable, hfinal, hrun, hsame, hunits⟩

/-- Where a directory stands in the place of the first header, the run fails and reports no unit,
and what it leaves depends on the order. -/
theorem directory_stops_batch : ∃ us,
    Independent defaultRegistry pairRequest (pairStore [["w", "out", "a.h"]])
        ["A.schema.yaml", "B.schema.yaml"] us ∧
      (us.flatMap (·.outputs "out")).Nodup ∧
      ((generateAll defaultRegistry pairRequest ["A.schema.yaml", "B.schema.yaml"]).outcome
        (pairStore [["w", "out", "a.h"]])).2.toOption = none ∧
      ((generateAll defaultRegistry pairRequest ["A.schema.yaml", "B.schema.yaml"]).outcome
        (pairStore [["w", "out", "a.h"]])).1.read "out/b.h" = none ∧
      ((generateAll defaultRegistry pairRequest ["B.schema.yaml", "A.schema.yaml"]).outcome
        (pairStore [["w", "out", "a.h"]])).1.read "out/b.h" ≠ none := by
  obtain ⟨us, hind, houtputs⟩ := renderedAt_pair [["w", "out", "a.h"]] (by decide +kernel)
  refine ⟨us, hind, ?_, by decide +kernel, by decide +kernel, by decide +kernel⟩
  rw [houtputs]
  decide

end SchemaGen
