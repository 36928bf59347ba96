import SchemaGen.Proofs.Generation.Overwriting

/-!
# The first failure ends a run

`generateAll` stops at the first schema that fails. A program that gives its schemas to a group of
jobs cannot stop there: the group still runs every job, and it is up to each job to ask whether
the group was cancelled before it does anything. Here the jobs are given to a group of which only
this much is known: limited to one job at a time it runs them in turn (`JobGroup.InTurn`). That
comes to the same (`generateGrouped_eq`).

What a run has done when a path fails is told turn by turn. `Dealt` says of the paths before that
they were rendered and written, and each turn that goes well keeps it (`Dealt.concat`). A
failure to load or to translate writes nothing. A failure to write may leave the header of
its schema, but touches the files of no schema before it: what is written to these can be written
(`Dealt.outputs_ne`).
-/

set_option autoImplicit false

namespace SchemaGen

/-! ## Groups of jobs -/

/-- Why a job of a group stops. -/
inductive Stop where
  /-- The group was cancelled before the job did anything. -/
  | cancelled
  | failed (fault : Fault)

/-- A job of a group. When its turn comes it can ask whether the group is cancelled. -/
abbrev GroupJob (σ : Type) := (cancelled : Bool) → σ → σ × Option Stop

/-- Runs jobs, no more than a limit of them at a time, and gives the error of the group. -/
abbrev JobGroup (σ : Type) := (limit : Int) → List (GroupJob σ) → σ → σ × Option Stop

/-- Runs jobs one after the other. The first error is that of the group and cancels it. -/
def runInTurn {σ : Type} : (first : Option Stop) → List (GroupJob σ) → σ → σ × Option Stop
  | first, [], s => (s, first)
  | first, job :: rest, s => runInTurn (first.or (job first.isSome s).2) rest (job first.isSome s).1

/-- Limited to one job at a time, a group runs its jobs one after the other. -/
def JobGroup.InTurn {σ : Type} (group : JobGroup σ) : Prop :=
  ∀ jobs s, group 1 jobs s = runInTurn none jobs s

/-- What the jobs of a request work on: the files, and the units, blank until they are recorded. -/
abbrev Progress := FileStore × List GeneratedUnit

/-- The job of the path at a place. -/
def groupJob (plugins : Registry) (r : Request) (i : Nat) (path : String) : GroupJob Progress :=
  fun cancelled p =>
    if cancelled then (p, some .cancelled)
    else match (generateOne plugins r path).outcome p.1 with
      | (s, .error fault) => ((s, p.2), some (.failed fault))
      | (s, .ok unit) => ((s, p.2.set i unit), none)

/-- The jobs of paths that stand from place `first` on. -/
def groupJobs (plugins : Registry) (r : Request) (first : Nat) (paths : List String) :
    List (GroupJob Progress) :=
  (paths.zipIdx first).map fun (path, i) => groupJob plugins r i path

/-- What a group came to: all units, or its error and none. -/
def settled : Progress × Option Stop → FileStore × Except Stop (List GeneratedUnit)
  | (p, some stop) => (p.1, .error stop)
  | (p, none) => (p.1, .ok p.2)

/-- How many jobs run at a time: what is asked for, but one at least. -/
def jobLimit (parallelism : Int) : Int :=
  if parallelism < 1 then 1 else parallelism

/-- Does what a request asks for, with the schemas given to a group of jobs. -/
def generateGrouped (group : JobGroup Progress) (registry : Registry) (parallelism : Int)
    (request : Request) (s : FileStore) : FileStore × Except Stop Generated :=
  let r := request.withDefaults
  match r.inputs s with
  | .error fault => (s, .error (.failed fault))
  | .ok paths =>
    match registry.select r.plugins with
    | .error fault => (s, .error (.failed fault))
    | .ok plugins =>
      let (t, units) := settled (group (jobLimit parallelism) (groupJobs plugins r 0 paths)
        (s, List.replicate paths.length ⟨"", []⟩))
      (t, units.map (⟨r.outputDir, ·⟩))

variable {plugins : Registry} {r : Request} {s t : FileStore} {path dir : String} {fault : Fault}
  {paths : List String} {u : RenderedUnit} {us : List RenderedUnit}

/-- Jobs that come after an error see that the group is cancelled and do nothing. -/
theorem runInTurn_cancelled (stop : Stop) (first : Nat) (paths : List String) (p : Progress) :
    runInTurn (some stop) (groupJobs plugins r first paths) p = (p, some stop) := by
  induction paths generalizing first with
  | nil => rfl
  | cons path rest ih => exact ih (first + 1)

/-- In turn, the jobs come to what `generateAll` comes to. -/
theorem settled_runInTurn (plugins : Registry) (r : Request) (s : FileStore) (paths : List String)
    (done : List GeneratedUnit) :
    settled (runInTurn none (groupJobs plugins r done.length paths)
        (s, done ++ List.replicate paths.length ⟨"", []⟩)) =
      (((generateAll plugins r paths).outcome s).1,
        match ((generateAll plugins r paths).outcome s).2 with
        | .error fault => .error (.failed fault)
        | .ok units => .ok (done ++ units)) := by
  induction paths generalizing s done with
  | nil => rfl
  | cons path rest ih =>
    rw [groupJobs, List.zipIdx_cons, List.map_cons, ← groupJobs, runInTurn,
      outcome_generateAll_cons]
    rcases hone : (generateOne plugins r path).outcome s with ⟨s₁, fault | unit⟩
    · -- the error cancels the jobs that are left
      simp only [groupJob, hone, Option.isSome_none, Bool.false_eq_true, if_false, Option.none_or,
        runInTurn_cancelled, settled]
    · have hunits :
          (done ++ List.replicate (path :: rest).length (⟨"", []⟩ : GeneratedUnit)).set
            done.length unit = (done ++ [unit]) ++ List.replicate rest.length ⟨"", []⟩ := by
        rw [List.set_append_right _ _ (Nat.le_refl _)]
        simp [List.replicate_succ]
      have hmore := ih s₁ (done ++ [unit])
      rw [List.length_append, List.length_singleton] at hmore
      simp only [groupJob, hone, Option.isSome_none, Bool.false_eq_true, if_false, Option.none_or,
        hunits, hmore]
      rcases ((generateAll plugins r rest).outcome s₁).2 with fault | units
      · rfl
      · simp [Except.map]

/-- **A group that runs its jobs in turn** does what a run in order does. -/
theorem generateGrouped_eq {group : JobGroup Progress} (hgroup : group.InTurn) {parallelism : Int}
    (hlimit : parallelism ≤ 1) (registry : Registry) (request : Request) (s : FileStore) :
    generateGrouped group registry parallelism request s =
      (((generate registry request).outcome s).1,
        match ((generate registry request).outcome s).2 with
        | .error fault => .error (.failed fault)
        | .ok g => .ok g) := by
  have hone : jobLimit parallelism = 1 := by
    unfold jobLimit
    split <;> omega
  rw [generateGrouped, outcome_generate, hone]
  cases request.withDefaults.inputs s with
  | error fault => rfl
  | ok paths =>
    dsimp only
    cases registry.select request.withDefaults.plugins with
    | error fault => rfl
    | ok plugins =>
      have hall := settled_runInTurn plugins request.withDefaults s paths []
      rw [List.length_nil, List.nil_append] at hall
      dsimp only
      rw [hgroup, hall]
      rcases ((generateAll plugins request.withDefaults paths).outcome s).2 with fault | units
      · rfl
      · rfl

/-! ## Turns -/

/-- The files when the turn of a path comes: every path before it has had its own. -/
def turnOf (plugins : Registry) (r : Request) (s : FileStore) (paths : List String) (i : Nat) :
    FileStore :=
  (paths.take i).foldl (fun s path => (generateOne plugins r path s).1) s

/-- The ways in which one schema fails, as the files are. -/
inductive FailsAt (plugins : Registry) (r : Request) (s : FileStore) (path : String) :
    Fault → Prop where
  | load {fault : Fault} (hload : s.loadSchema path = .error fault) : FailsAt plugins r s path fault
  | translation {fault : Fault} {schema : Schema} (hload : s.loadSchema path = .ok schema)
    (hcompile : (compile s.loader (some plugins) r.options schema).result = .error fault) :
    FailsAt plugins r s path fault
  | write {fault : Fault} {schema : Schema} {unit : CodeUnit}
    (hload : s.loadSchema path = .ok schema)
    (hcompile : (compile s.loader (some plugins) r.options schema).result = .ok unit)
    (hwrite : (s.writeUnit r.outputDir unit.render).fault = some fault) :
    FailsAt plugins r s path fault

/-- The path at place `k` is the first that fails. -/
structure FailsFirst (plugins : Registry) (r : Request) (s : FileStore) (paths : List String)
    (k : Nat) (path : String) (fault : Fault) : Prop where
  get : paths[k]? = some path
  fails : FailsAt plugins r (turnOf plugins r s paths k) path fault
  before : ∀ i < k, ∀ earlier, paths[i]? = some earlier →
    ∀ fault, ¬ FailsAt plugins r (turnOf plugins r s paths i) earlier fault

/-- A schema fails in rendering or in writing. -/
theorem failsAt_iff_renderedAt : FailsAt plugins r s path fault ↔
    renderedAt plugins r s path = .error fault ∨
      ∃ u, renderedAt plugins r s path = .ok u ∧
        (s.writeUnit r.outputDir u).fault = some fault := by
  constructor
  · rintro (hload | ⟨hload, hcompile⟩ | ⟨hload, hcompile, hwrite⟩)
    · exact .inl (by simp only [renderedAt, hload, Except.bind])
    · exact .inl (by simp only [renderedAt, hload, hcompile, Except.bind, Except.map])
    · exact .inr ⟨_, by simp only [renderedAt, hload, hcompile, Except.bind, Except.map], hwrite⟩
  · rintro (hrendered | ⟨u, hrendered, hwrite⟩)
    · cases hload : s.loadSchema path with
      | error fault' =>
        rw [renderedAt, hload] at hrendered
        cases hrendered
        exact .load hload
      | ok schema =>
        cases hcompile : (compile s.loader (some plugins) r.options schema).result with
        | error fault' =>
          rw [renderedAt, hload, Except.bind, hcompile] at hrendered
          cases hrendered
          exact .translation hload hcompile
        | ok unit =>
          rw [renderedAt, hload, Except.bind, hcompile] at hrendered
          cases hrendered
    · obtain ⟨schema, unit, hload, hcompile, rfl⟩ := exists_of_renderedAt hrendered
      exact .write hload hcompile hwrite

theorem failsAt_iff :
    FailsAt plugins r s path fault ↔ ((generateOne plugins r path).outcome s).2 = .error fault := by
  rw [failsAt_iff_renderedAt, outcome_generateOne_writeUnit]
  cases renderedAt plugins r s path with
  | error fault' => simp
  | ok u =>
    cases hfault : (s.writeUnit r.outputDir u).fault <;> simp [hfault]

theorem exists_of_not_failsAt (h : ∀ fault, ¬ FailsAt plugins r s path fault) :
    ∃ unit, (generateOne plugins r path).outcome s =
      ((generateOne plugins r path s).1, .ok unit) := by
  cases hresult : ((generateOne plugins r path).outcome s).2 with
  | error fault => exact absurd (failsAt_iff.mpr hresult) (h fault)
  | ok unit => exact ⟨unit, Prod.ext rfl hresult⟩

/-- **A run comes to an end at the first path that fails**, with its fault and its files. -/
theorem FailsFirst.outcome_generateAll {k : Nat} (h : FailsFirst plugins r s paths k path fault) :
    (generateAll plugins r paths).outcome s =
      ((generateOne plugins r path (turnOf plugins r s paths k)).1, .error fault) := by
  induction k generalizing s paths with
  | zero =>
    obtain ⟨rest, rfl⟩ : ∃ rest, paths = path :: rest := by
      cases paths with
      | nil => cases h.get
      | cons first rest => exact ⟨rest, by rw [Option.some.inj h.get]⟩
    have hresult : (generateOne plugins r path).outcome s =
        ((generateOne plugins r path s).1, .error fault) := Prod.ext rfl (failsAt_iff.mp h.fails)
    rw [outcome_generateAll_cons, hresult]
    rfl
  | succ k ih =>
    cases paths with
    | nil => cases h.get
    | cons first rest =>
      obtain ⟨unit, hfirst⟩ :=
        exists_of_not_failsAt (s := s) (h.before 0 (Nat.succ_pos k) first rfl)
      have hrest : FailsFirst plugins r (generateOne plugins r first s).1 rest k path fault :=
        ⟨h.get, h.fails, fun i hi => h.before (i + 1) (Nat.succ_lt_succ hi)⟩
      rw [outcome_generateAll_cons, hfirst]
      dsimp only
      rw [ih hrest]
      rfl

/-! ## Writing that fails -/

/-- What fails to be written is no file, though its directory may be new. -/
theorem FileStore.writeInto_error {name text : String}
    (h : s.writeInto dir name text = (t, .error fault)) :
    Extends s t ∧ ∀ p, t.fileAt? p = s.fileAt? p := by
  unfold FileStore.writeInto at h
  split at h
  · cases h
    exact ⟨.refl s, fun _ => rfl⟩
  · split at h
    next kept hkept =>
      cases h
      obtain ⟨hextends, hfiles⟩ := makeDirs_error hkept
      exact ⟨hextends, fun p => by rw [FileStore.fileAt?, FileStore.fileAt?, hfiles]⟩
    next made hmade =>
      dsimp only at h
      split at h
      · cases h
        exact ⟨(makeDirs_spec hmade).1, fileAt?_makeDirs hmade⟩
      · cases h

variable {puts : List (Place × String)}

/-- **Whether a unit can be written** is told by the files at the start. -/
theorem FileStore.Wrote.writeUnit_fault_eq_none_iff (h : s.Wrote dir puts t)
    (hu : u.NamedFor path) : (t.writeUnit dir u).fault = none ↔ u.Writable s dir := by
  obtain ⟨stem, hheader, hsource⟩ := hu.entries
  rw [FileStore.writeUnit, if_neg hu.named, FileStore.writeAll]
  constructor
  · intro hnone
    split at hnone
    · cases hnone
    next t₁ header hfirst =>
      have h₁ := (h.writeInto hheader hfirst).2
      rw [FileStore.writeAll] at hnone
      split at hnone
      · cases hnone
      next hsecond => exact ⟨h.writable hheader hfirst, h₁.writable hsource hsecond⟩
  · rintro ⟨hwheader, hwsource⟩
    obtain ⟨t₁, hfirst, h₁⟩ := h.writeInto_ok hheader hwheader u.header
    obtain ⟨t₂, hsecond, -⟩ := h₁.writeInto_ok hsource hwsource u.source
    simp only [hfirst, FileStore.writeAll, hsecond]

/-- A unit that cannot be written leaves its header at most. -/
theorem FileStore.Wrote.fileAt?_writeUnit_of_fault (h : s.Wrote dir puts t) (hu : u.NamedFor path)
    (hfault : (t.writeUnit dir u).fault = some fault) :
    Extends s (t.writeUnit dir u).store ∧
      ∀ p, p ≠ s.destination (Path.join dir u.headerFile) →
        (t.writeUnit dir u).store.fileAt? p = t.fileAt? p := by
  obtain ⟨stem, hheader, hsource⟩ := hu.entries
  rw [FileStore.writeUnit, if_neg hu.named, FileStore.writeAll] at hfault ⊢
  rcases hfirst : t.writeInto dir u.headerFile u.header with ⟨t₁, fault₁ | header⟩
  · obtain ⟨hextends, hfiles⟩ := FileStore.writeInto_error hfirst
    exact ⟨h.extends.trans hextends, fun p _ => hfiles p⟩
  · have h₁ := (h.writeInto hheader hfirst).2
    rw [hfirst] at hfault
    dsimp only at hfault ⊢
    rw [FileStore.writeAll] at hfault ⊢
    rcases hsecond : t₁.writeInto dir u.sourceFile u.source with ⟨t₂, fault₂ | source⟩
    · obtain ⟨hextends, hfiles⟩ := FileStore.writeInto_error hsecond
      refine ⟨h₁.extends.trans hextends, fun p hp => ?_⟩
      rw [hfiles, h₁.fileAt?, h.fileAt?, List.lookup_cons, beq_eq_false_iff_ne.mpr hp]
    · rw [hsecond] at hfault
      cases hfault

/-! ## What the turns before left -/

/-- The first paths went well: each was rendered to its unit when its turn came, the units could
be written, and nothing else was. -/
structure Dealt (plugins : Registry) (r : Request) (s : FileStore) (paths : List String)
    (us : List RenderedUnit) : Prop where
  rendered : ∀ i u, us[i]? = some u → ∃ path, paths[i]? = some path ∧
    renderedAt plugins r (turnOf plugins r s paths i) path = .ok u
  writable : ∀ u ∈ us, u.Writable s r.outputDir
  wrote : ∀ i ≤ us.length, s.Wrote r.outputDir
    ((us.take i).reverse.flatMap (·.puts s r.outputDir)) (turnOf plugins r s paths i)

namespace Dealt

theorem nil (plugins : Registry) (r : Request) (s : FileStore) (paths : List String) :
    Dealt plugins r s paths [] where
  rendered i u hu := by cases hu
  writable u hu := by cases hu
  wrote i hi := by
    rw [List.length_nil, Nat.le_zero] at hi
    subst hi
    exact .nil s r.outputDir

theorem wrote_all (h : Dealt plugins r s paths us) : s.Wrote r.outputDir
    (us.reverse.flatMap (·.puts s r.outputDir)) (turnOf plugins r s paths us.length) := by
  have hall := h.wrote us.length (Nat.le_refl _)
  rwa [List.take_length] at hall

theorem named (h : Dealt plugins r s paths us) (hu : u ∈ us) : ∃ path, u.NamedFor path := by
  obtain ⟨i, hi⟩ := List.getElem?_of_mem hu
  obtain ⟨path, -, hrendered⟩ := h.rendered i u hi
  exact ⟨path, namedFor_of_renderedAt hrendered⟩

end Dealt

theorem turnOf_succ {i : Nat} (h : paths[i]? = some path) : turnOf plugins r s paths (i + 1) =
    (generateOne plugins r path (turnOf plugins r s paths i)).1 := by
  rw [turnOf, List.take_add_one, h, Option.toList_some, List.foldl_append]
  rfl

/-- **A turn that goes well** adds its unit. -/
theorem Dealt.concat (h : Dealt plugins r s paths us) (hpath : paths[us.length]? = some path)
    (hok : ∀ fault, ¬ FailsAt plugins r (turnOf plugins r s paths us.length) path fault) :
    ∃ u, Dealt plugins r s paths (us ++ [u]) := by
  obtain ⟨unit, hunit⟩ := exists_of_not_failsAt hok
  rw [← turnOf_succ hpath] at hunit
  obtain ⟨u, hrendered, -, hwrote⟩ := h.wrote_all.generateOne hunit
  have hnone : ((turnOf plugins r s paths us.length).writeUnit r.outputDir u).fault = none := by
    rw [Option.eq_none_iff_forall_ne_some]
    exact fun fault hfault => hok fault (failsAt_iff_renderedAt.mpr (.inr ⟨u, hrendered, hfault⟩))
  refine ⟨u, ⟨fun i v hv => ?_, fun v hv => ?_, fun i hi => ?_⟩⟩
  · rcases Nat.lt_or_ge i us.length with hlt | hge
    · rw [List.getElem?_append_left hlt] at hv
      exact h.rendered i v hv
    · obtain rfl : i = us.length := by
        have := (List.getElem?_eq_some_iff.mp hv).1
        simp only [List.length_append, List.length_singleton] at this
        omega
      rw [List.getElem?_concat_length] at hv
      cases hv
      exact ⟨path, hpath, hrendered⟩
  · rcases List.mem_append.mp hv with hv | hv
    · exact h.writable v hv
    · rw [List.mem_singleton.mp hv]
      exact (h.wrote_all.writeUnit_fault_eq_none_iff (namedFor_of_renderedAt hrendered)).mp hnone
  · rcases Nat.lt_or_ge us.length i with hlt | hle
    · obtain rfl : i = us.length + 1 := by
        simp only [List.length_append, List.length_singleton] at hi
        omega
      rw [← List.length_singleton (a := u), ← List.length_append, List.take_length,
        List.reverse_append, List.flatMap_append, List.length_append]
      simpa using hwrote
    · rw [List.take_append_of_le_length hle]
      exact h.wrote i hle

/-- **The turns before the first failure.** -/
theorem exists_dealt {k : Nat} (hk : k ≤ paths.length)
    (hbefore : ∀ i < k, ∀ path, paths[i]? = some path →
      ∀ fault, ¬ FailsAt plugins r (turnOf plugins r s paths i) path fault) :
    ∃ us, us.length = k ∧ Dealt plugins r s paths us := by
  induction k with
  | zero => exact ⟨[], rfl, .nil plugins r s paths⟩
  | succ k ih =>
    obtain ⟨us, rfl, hus⟩ := ih (Nat.le_of_succ_le hk) fun i hi =>
      hbefore i (Nat.lt_succ_of_lt hi)
    have hpath := List.getElem?_eq_getElem (Nat.lt_of_succ_le hk)
    obtain ⟨u, hu⟩ := hus.concat hpath (hbefore us.length (Nat.lt_succ_self _) _ hpath)
    exact ⟨us ++ [u], by simp, hu⟩

namespace Dealt

/-- When the turn of a path is over, its files hold what it was rendered to. -/
theorem heldBy {i : Nat} (h : Dealt plugins r s paths us) (hu : us[i]? = some u) :
    u.HeldBy (turnOf plugins r s paths (i + 1)) r.outputDir := by
  have hi := (List.getElem?_eq_some_iff.mp hu).1
  have hwrote := h.wrote (i + 1) hi
  have htake : us.take (i + 1) = us.take i ++ [u] := by
    rw [List.take_add_one, hu, Option.toList_some]
  have hlast : RenderedUnit.lastLike r.outputDir (us.take i ++ [u]) u = u := by
    simp [RenderedUnit.lastLike]
  rw [htake] at hwrote
  have hread := RenderedUnit.read_outputs (u := u)
    (fun v hv => h.named (List.mem_of_mem_take (htake ▸ hv))) hwrote (by simp)
  rwa [hlast] at hread

/-- **A unit that cannot be written shares no file** with those that were. -/
theorem outputs_ne {v : RenderedUnit} (h : Dealt plugins r s paths us) (hv : v.NamedFor path)
    (hfault : ((turnOf plugins r s paths us.length).writeUnit r.outputDir v).fault = some fault)
    (hu : u ∈ us) : u.outputs r.outputDir ≠ v.outputs r.outputDir := by
  intro hsame
  have hwritable : v.Writable s r.outputDir := by
    simp only [RenderedUnit.outputs, List.cons.injEq, and_true] at hsame
    have hu := h.writable u hu
    rwa [RenderedUnit.Writable, FileStore.Writable, FileStore.Writable, hsame.1, hsame.2] at hu
  rw [(h.wrote_all.writeUnit_fault_eq_none_iff hv).mpr hwritable] at hfault
  cases hfault

end Dealt

/-! ## What a run leaves -/

/-- What a run leaves that went well for `us` and failed at the next path. -/
structure StopsAt (plugins : Registry) (r : Request) (s : FileStore) (paths : List String)
    (path : String) (fault : Fault) (us : List RenderedUnit) (t : FileStore) : Prop where
  /-- The paths before were rendered to these units and written. -/
  dealt : Dealt plugins r s paths us
  /-- When the turn of each was over its files held its texts in full. -/
  inFull : ∀ (i : Nat) (u : RenderedUnit), us[i]? = some u →
    u.HeldBy (turnOf plugins r s paths (i + 1)) r.outputDir
  /-- In the end they hold the texts of the last that has these files. -/
  last : ∀ u ∈ us,
    t.read (Path.join r.outputDir u.headerFile) =
        some (RenderedUnit.lastLike r.outputDir us u).header ∧
      t.read (Path.join r.outputDir u.sourceFile) =
        some (RenderedUnit.lastLike r.outputDir us u).source
  /-- The path itself left nothing, or what the write that failed did. -/
  left : (renderedAt plugins r (turnOf plugins r s paths us.length) path = .error fault ∧
      t = turnOf plugins r s paths us.length) ∨
    ∃ u, renderedAt plugins r (turnOf plugins r s paths us.length) path = .ok u ∧
      ((turnOf plugins r s paths us.length).writeUnit r.outputDir u).fault = some fault ∧
      t = ((turnOf plugins r s paths us.length).writeUnit r.outputDir u).store
  /-- No place holds anything else than at the start but the outputs of the paths before, and the
  header of the path itself if its write failed. -/
  elsewhere : ∀ p, t.fileAt? p ≠ s.fileAt? p →
    (∃ u ∈ us, ∃ output ∈ u.outputs r.outputDir, p = s.destination output) ∨
      ∃ u, renderedAt plugins r (turnOf plugins r s paths us.length) path = .ok u ∧
        p = s.destination (Path.join r.outputDir u.headerFile)

namespace Dealt

/-- What the turns before wrote is at the outputs of their units. -/
theorem exists_output_of_ne {p : Place} (h : Dealt plugins r s paths us)
    (hp : (turnOf plugins r s paths us.length).fileAt? p ≠ s.fileAt? p) :
    ∃ u ∈ us, ∃ output ∈ u.outputs r.outputDir, p = s.destination output := by
  by_contra hnone
  refine hp (h.wrote_all.fileAt?_of_ne fun put hput heq => hnone ?_)
  obtain ⟨u, hu, hmem⟩ := List.mem_flatMap.mp hput
  obtain ⟨output, houtput, hplace⟩ := RenderedUnit.exists_of_mem_puts hmem
  exact ⟨u, List.mem_reverse.mp hu, output, houtput, heq.trans hplace⟩

/-- Nothing is written for a path that fails before it is written. -/
theorem stopsAt_rendering (h : Dealt plugins r s paths us)
    (hfails : renderedAt plugins r (turnOf plugins r s paths us.length) path = .error fault) :
    StopsAt plugins r s paths path fault us (turnOf plugins r s paths us.length) where
  dealt := h
  inFull _ _ hu := h.heldBy hu
  last _ hu := RenderedUnit.read_outputs (fun _ hv => h.named hv) h.wrote_all hu
  left := .inl ⟨hfails, rfl⟩
  elsewhere _ hp := .inl (h.exists_output_of_ne hp)

/-- A write that fails leaves the files of the paths before as they are. -/
theorem stopsAt_writing {v : RenderedUnit} (h : Dealt plugins r s paths us)
    (hrendered : renderedAt plugins r (turnOf plugins r s paths us.length) path = .ok v)
    (hfault : ((turnOf plugins r s paths us.length).writeUnit r.outputDir v).fault = some fault) :
    StopsAt plugins r s paths path fault us
      ((turnOf plugins r s paths us.length).writeUnit r.outputDir v).store := by
  have hv := namedFor_of_renderedAt hrendered
  obtain ⟨hextends, hfiles⟩ := h.wrote_all.fileAt?_writeUnit_of_fault hv hfault
  refine ⟨h, fun _ _ hu => h.heldBy hu, fun u hu => ?_, .inr ⟨v, hrendered, hfault, rfl⟩,
    fun p hp => ?_⟩
  · obtain ⟨path', hname⟩ := h.named hu
    have hdir : r.outputDir ≠ "" := by
      obtain ⟨made, hmade, -⟩ := (h.writable u hu).1
      exact FileStore.ne_empty_of_makeDirs hmade
    obtain ⟨hheader, -, -⟩ := hname.place_eq_iff hv hdir s
    obtain ⟨-, -, hsource⟩ := hv.place_eq_iff hname hdir s
    -- neither file of `u` is the header that may have been left
    have hread (name : String) (hne : s.destination (Path.join r.outputDir name) ≠
        s.destination (Path.join r.outputDir v.headerFile)) :
        ((turnOf plugins r s paths us.length).writeUnit r.outputDir v).store.read
            (Path.join r.outputDir name) =
          (turnOf plugins r s paths us.length).read (Path.join r.outputDir name) := by
      rw [Path.join_eq_clean hdir] at hne ⊢
      rw [FileStore.read_clean, FileStore.read_clean, hextends.destination,
        h.wrote_all.extends.destination, hfiles _ (FileStore.destination_clean s _ ▸ hne)]
    rw [hread _ fun hsame => h.outputs_ne hv hfault hu (hheader.mp hsame),
      hread _ hsource.symm]
    exact RenderedUnit.read_outputs (fun _ hv => h.named hv) h.wrote_all hu
  · by_cases hplace : p = s.destination (Path.join r.outputDir v.headerFile)
    · exact .inr ⟨v, hrendered, hplace⟩
    · rw [hfiles p hplace] at hp
      exact .inl (h.exists_output_of_ne hp)

end Dealt

/-- A run stops at its first failure. -/
theorem FailsFirst.exists_stopsAt {k : Nat} (h : FailsFirst plugins r s paths k path fault) :
    ∃ t us, (generateAll plugins r paths).outcome s = (t, .error fault) ∧ us.length = k ∧
      StopsAt plugins r s paths path fault us t := by
  obtain ⟨us, rfl, hus⟩ :=
    exists_dealt (Nat.le_of_lt (List.getElem?_eq_some_iff.mp h.get).1) h.before
  have hleft := congrArg Prod.fst (outcome_generateOne_writeUnit plugins r path
    (turnOf plugins r s paths us.length))
  refine ⟨_, us, h.outcome_generateAll, rfl, ?_⟩
  change ((generateOne plugins r path).outcome (turnOf plugins r s paths us.length)).1 = _ at hleft
  rcases failsAt_iff_renderedAt.mp h.fails with hrendering | ⟨v, hrendered, hwriting⟩
  · rw [hrendering] at hleft
    exact hleft ▸ hus.stopsAt_rendering hrendering
  · rw [hrendered] at hleft
    exact hleft ▸ hus.stopsAt_writing hrendered hwriting

/-- **The first failure ends a run**, of schemas that are given to a group one at a time. If plugins
cannot be chosen, no path is tried. Otherwise, if a path is the first that fails to load, to
translate or to be written, its fault is returned, and no units; the paths before it have been
written in full; and nothing was written for it, unless writing it was what failed, or for any path
after it. -/
theorem generateGrouped_stops {group : JobGroup Progress} (hgroup : group.InTurn)
    {parallelism : Int} (hlimit : parallelism ≤ 1) {registry : Registry} {request : Request}
    (hinputs : request.withDefaults.inputs s = .ok paths) :
    (∀ fault, registry.select request.withDefaults.plugins = .error fault →
      generateGrouped group registry parallelism request s = (s, .error (.failed fault))) ∧
    ∀ plugins, registry.select request.withDefaults.plugins = .ok plugins → ∀ k path fault,
      FailsFirst plugins request.withDefaults s paths k path fault →
      ∃ t us, generateGrouped group registry parallelism request s = (t, .error (.failed fault)) ∧
        us.length = k ∧ StopsAt plugins request.withDefaults s paths path fault us t := by
  constructor
  · intro fault hselect
    rw [generateGrouped_eq hgroup hlimit, outcome_generate, hinputs, hselect]
  · intro plugins hselect k path fault hfails
    obtain ⟨t, us, houtcome, hlength, hstops⟩ := hfails.exists_stopsAt
    refine ⟨t, us, ?_, hlength, hstops⟩
    rw [generateGrouped_eq hgroup hlimit, outcome_generate, hinputs, hselect]
    dsimp only
    rw [houtcome]
    rfl

/-! ### A source that cannot be written -/

/-- Three schema files, and a directory where the source of the second should go. -/
def blockedSource : FileStore where
  files := [(["w", "A.schema.yaml"], ""), (["w", "B.schema.yaml"], ""),
    (["w", "C.schema.yaml"], "")]
  dirs := [["w", "out", "b.cpp"]]
  cwd := ["w"]

/-- Everything in the working directory. -/
def blockedRequest : Request := { schemaDir := ".", outputDir := "out" }

theorem inputs_blockedSource : blockedRequest.withDefaults.inputs blockedSource =
    .ok ["A.schema.yaml", "B.schema.yaml", "C.schema.yaml"] := by
  refine Request.inputs_of_matchesBelow ["w"] (by decide) (by decide) (by decide)
    (by decide +kernel) (by decide) (by decide) ?_ (by decide)
  change blockedSource.matchesBelow "." defaultPattern ["w"] = _
  rw [FileStore.matchesBelow, List.mergeSort_of_pairwise (by decide +kernel)]
  decide +kernel

theorem failsFirst_blockedSource : ∃ fault, fault.message = "failed to write out/b.cpp" ∧
    FailsFirst defaultRegistry blockedRequest.withDefaults blockedSource
      ["A.schema.yaml", "B.schema.yaml", "C.schema.yaml"] 1 "B.schema.yaml" fault := by
  have hfirst : ((generateOne defaultRegistry blockedRequest.withDefaults
      "A.schema.yaml").outcome blockedSource).2.toOption.isSome = true := by
    decide +kernel
  have hsecond : (match ((generateOne defaultRegistry blockedRequest.withDefaults
      "B.schema.yaml").outcome (turnOf defaultRegistry blockedRequest.withDefaults blockedSource
        ["A.schema.yaml", "B.schema.yaml", "C.schema.yaml"] 1)).2 with
      | .ok _ => ""
      | .error fault => fault.message) = "failed to write out/b.cpp" := by
    decide +kernel
  split at hsecond
  next => exact absurd hsecond (by decide)
  next fault hfault =>
    refine ⟨fault, hsecond, rfl, failsAt_iff.mpr hfault, fun i hi earlier hearlier => ?_⟩
    obtain rfl : i = 0 := by omega
    cases hearlier
    intro fault' hfails
    have hresult : ((generateOne defaultRegistry blockedRequest.withDefaults
        "A.schema.yaml").outcome blockedSource).2 = .error fault' := failsAt_iff.mp hfails
    rw [hresult] at hfirst
    cases hfirst

/-- The first schema keeps its files, the second leaves its header, the third nothing. -/
theorem generateGrouped_stops_blockedSource :
    JobGroup.InTurn (fun _ : Int => runInTurn (σ := Progress) none) ∧ (0 : Int) ≤ 1 ∧
    ∃ t fault u, generateGrouped (fun _ => runInTurn none) defaultRegistry 0 blockedRequest
        blockedSource = (t, .error (.failed fault)) ∧
      fault.message = "failed to write out/b.cpp" ∧
      StopsAt defaultRegistry blockedRequest.withDefaults blockedSource
        ["A.schema.yaml", "B.schema.yaml", "C.schema.yaml"] "B.schema.yaml" fault [u] t ∧
      u.HeldBy t "out" ∧ t.read "out/c.h" = none := by
  have hgroup : JobGroup.InTurn (fun _ : Int => runInTurn (σ := Progress) none) :=
    fun _ _ => rfl
  have hselect : defaultRegistry.select blockedRequest.withDefaults.plugins =
      .ok defaultRegistry := rfl
  obtain ⟨fault, hmessage, hfails⟩ := failsFirst_blockedSource
  obtain ⟨t, us, houtcome, hlength, hstops⟩ :=
    (generateGrouped_stops hgroup (show (0 : Int) ≤ 1 by decide) inputs_blockedSource).2
      defaultRegistry hselect 1 "B.schema.yaml" fault hfails
  obtain ⟨u, rfl⟩ := List.length_eq_one_iff.mp hlength
  have hlast := hstops.last u (List.mem_singleton_self u)
  have hself : RenderedUnit.lastLike "out" [u] u = u := by simp [RenderedUnit.lastLike]
  rw [show blockedRequest.withDefaults.outputDir = "out" from rfl, hself] at hlast
  have hthird : (generateGrouped (fun _ => runInTurn none) defaultRegistry 0 blockedRequest
      blockedSource).1.read "out/c.h" = none := by
    rw [generateGrouped, inputs_blockedSource]
    decide +kernel
  rw [houtcome] at hthird
  exact ⟨hgroup, by decide, t, fault, u, houtcome, hmessage, hstops, hlast, hthird⟩

end SchemaGen
