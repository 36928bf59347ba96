import Mathlib.Data.List.Forall2
import SchemaGen.Plugin.Builtin
import SchemaGen.Proofs.Generation.Outputs

/-!
# Schemas that are written to the same files

The name of a schema forgets the directory that its file lies in, and the names of its outputs
forget how it is spelled. So two schema files of one run may be written to the same files. No one
notices: the later one replaces the earlier one, and both are reported as written.

`generate_leaves_last` says of every run that succeeds what its output files hold, and when each of
them holds what its schema was rendered to: exactly if no two schemas that share their files were
rendered differently.
-/

set_option autoImplicit false

namespace SchemaGen

variable {plugins : Registry} {r : Request} {s s' t : FileStore} {path path' dir : String}
  {u v : RenderedUnit} {us : List RenderedUnit} {puts : List (Place × String)}

/-! ## Runs -/

/-- One schema adds its two files to what was written. -/
theorem FileStore.Wrote.generateOne {unit : GeneratedUnit} (h : s.Wrote r.outputDir puts s')
    (hok : (generateOne plugins r path).outcome s' = (t, .ok unit)) :
    ∃ u, renderedAt plugins r s' path = .ok u ∧ unit = u.generated r.outputDir ∧
      s.Wrote r.outputDir (u.puts s r.outputDir ++ puts) t := by
  rw [outcome_generateOne] at hok
  cases hrendered : renderedAt plugins r s' path with
  | error fault =>
    rw [hrendered] at hok
    cases hok
  | ok u =>
    obtain ⟨stem, hheader, hsource⟩ := (namedFor_of_renderedAt hrendered).entries
    rw [hrendered] at hok
    dsimp only at hok
    split at hok
    · cases hok
    next s₁ header hfirst =>
      obtain ⟨rfl, h₁⟩ := h.writeInto hheader hfirst
      split at hok
      · cases hok
      next s₂ source hsecond =>
        obtain ⟨rfl, h₂⟩ := h₁.writeInto hsource hsecond
        cases hok
        exact ⟨u, rfl, rfl, h₂⟩

/-- A run renders each schema when its turn comes, with the files of all before it written, and
writes the files of all. -/
theorem FileStore.Wrote.generateAll {paths : List String} {units : List GeneratedUnit}
    (h : s.Wrote r.outputDir puts s')
    (hok : (generateAll plugins r paths).outcome s' = (t, .ok units)) :
    ∃ us : List RenderedUnit, us.length = paths.length ∧
      (∀ i path u, paths[i]? = some path → us[i]? = some u →
        ∃ turn, turn = ((SchemaGen.generateAll plugins r (paths.take i)).outcome s').1 ∧
          renderedAt plugins r turn path = .ok u ∧
          s.Wrote r.outputDir ((us.take i).reverse.flatMap (·.puts s r.outputDir) ++ puts) turn) ∧
      units = us.map (·.generated r.outputDir) ∧
      s.Wrote r.outputDir (us.reverse.flatMap (·.puts s r.outputDir) ++ puts) t := by
  induction paths generalizing s' puts units with
  | nil =>
    rw [outcome_generateAll_nil] at hok
    cases hok
    exact ⟨[], rfl, by simp, rfl, by simpa using h⟩
  | cons path rest ih =>
    rw [outcome_generateAll_cons] at hok
    split at hok
    · cases hok
    next s₁ unit hfirst =>
      obtain ⟨u, hrendered, rfl, hu⟩ := h.generateOne hfirst
      obtain ⟨hstore, hresult⟩ := Prod.mk.inj hok
      cases hmore : ((SchemaGen.generateAll plugins r rest).outcome s₁).2 with
      | error fault =>
        rw [hmore] at hresult
        cases hresult
      | ok units' =>
        rw [hmore] at hresult
        cases hresult
        obtain ⟨us, hlength, hturns, rfl, hus⟩ := ih hu (Prod.ext hstore hmore)
        refine ⟨u :: us, by simp [hlength], ?_, rfl, by simpa using hus⟩
        intro i path' u' hpath' hu'
        cases i with
        | zero =>
          cases hpath'
          cases hu'
          exact ⟨s', rfl, hrendered, h⟩
        | succ i =>
          rw [List.take_succ_cons, outcome_generateAll_cons, hfirst]
          obtain ⟨turn, hturn, hrendered', hwrote⟩ := hturns i path' u' hpath' hu'
          exact ⟨turn, hturn, hrendered', by simpa using hwrote⟩

/-! ## Places -/

namespace RenderedUnit

/-- Where two units are written to one place, they are written to the same files. -/
theorem NamedFor.place_eq_iff (hu : u.NamedFor path) (hv : v.NamedFor path') (hdir : dir ≠ "")
    (s : FileStore) :
    (s.destination (Path.join dir u.headerFile) = s.destination (Path.join dir v.headerFile) ↔
      u.outputs dir = v.outputs dir) ∧
    (s.destination (Path.join dir u.sourceFile) = s.destination (Path.join dir v.sourceFile) ↔
      u.outputs dir = v.outputs dir) ∧
    s.destination (Path.join dir u.headerFile) ≠ s.destination (Path.join dir v.sourceFile) := by
  obtain ⟨stem, hheader, hsource⟩ := hu.entries
  obtain ⟨stem', hheader', hsource'⟩ := hv.entries
  have hsame : stem = stem' → u.outputs dir = v.outputs dir := by
    rintro rfl
    rw [outputs, outputs, Path.join_isEntry hdir hheader, Path.join_isEntry hdir hheader',
      Path.join_isEntry hdir hsource, Path.join_isEntry hdir hsource']
  have hplaces : u.outputs dir = v.outputs dir →
      Path.join dir u.headerFile = Path.join dir v.headerFile ∧
        Path.join dir u.sourceFile = Path.join dir v.sourceFile := by
    simp [outputs]
  refine ⟨⟨fun h => hsame ?_, fun h => by rw [(hplaces h).1]⟩,
    ⟨fun h => hsame ?_, fun h => by rw [(hplaces h).2]⟩, fun h => ?_⟩
  · rw [FileStore.destination_join_isEntry hdir hheader,
      FileStore.destination_join_isEntry hdir hheader'] at h
    simpa using h
  · rw [FileStore.destination_join_isEntry hdir hsource,
      FileStore.destination_join_isEntry hdir hsource'] at h
    simpa using h
  · rw [FileStore.destination_join_isEntry hdir hheader,
      FileStore.destination_join_isEntry hdir hsource'] at h
    have hlast := congrArg (·.toList.getLast?) (List.singleton_inj.mp (List.append_inj' h rfl).2)
    simp at hlast

/-- Of the units that are written to the same files, the last is found first. -/
theorem lookup_flatMap_puts {vs : List RenderedUnit} (hu : u.NamedFor path)
    (hvs : ∀ v ∈ vs, ∃ path, v.NamedFor path) (hdir : dir ≠ "") (s : FileStore) :
    (vs.flatMap (·.puts s dir)).lookup (s.destination (Path.join dir u.headerFile)) =
        (vs.find? fun v => v.outputs dir = u.outputs dir).map (·.header) ∧
      (vs.flatMap (·.puts s dir)).lookup (s.destination (Path.join dir u.sourceFile)) =
        (vs.find? fun v => v.outputs dir = u.outputs dir).map (·.source) := by
  induction vs with
  | nil => exact ⟨rfl, rfl⟩
  | cons v vs ih =>
    obtain ⟨path', hv⟩ := hvs v List.mem_cons_self
    obtain ⟨ihheader, ihsource⟩ := ih fun v hv => hvs v (List.mem_cons_of_mem _ hv)
    obtain ⟨hheader, hsource, hne⟩ := hu.place_eq_iff hv hdir s
    have hne' := (hv.place_eq_iff hu hdir s).2.2.symm
    rw [eq_comm (a := u.outputs dir), ← beq_iff_eq,
      ← decide_eq_true_iff (p := v.outputs dir = u.outputs dir), ← Bool.eq_iff_iff]
      at hheader hsource
    rw [List.flatMap_cons, List.find?_cons, puts, List.cons_append, List.cons_append,
      List.nil_append]
    simp only [List.lookup_cons, hheader, hsource, beq_eq_false_iff_ne.mpr hne,
      beq_eq_false_iff_ne.mpr hne']
    cases decide (v.outputs dir = u.outputs dir) with
    | true => exact ⟨rfl, rfl⟩
    | false => exact ⟨ihheader, ihsource⟩

/-- The two files hold the two texts. -/
def HeldBy (u : RenderedUnit) (t : FileStore) (dir : String) : Prop :=
  t.read (Path.join dir u.headerFile) = some u.header ∧
    t.read (Path.join dir u.sourceFile) = some u.source

/-- The last of the units that are written to the same files as `u`. -/
def lastLike (dir : String) (us : List RenderedUnit) (u : RenderedUnit) : RenderedUnit :=
  (us.reverse.find? fun v => v.outputs dir = u.outputs dir).getD u

theorem find?_lastLike (dir : String) (hu : u ∈ us) :
    us.reverse.find? (fun v => v.outputs dir = u.outputs dir) = some (lastLike dir us u) := by
  have hsome : (us.reverse.find? fun v => v.outputs dir = u.outputs dir).isSome = true :=
    List.find?_isSome.mpr ⟨u, List.mem_reverse.mpr hu, decide_eq_true rfl⟩
  obtain ⟨v, hv⟩ := Option.isSome_iff_exists.mp hsome
  rw [lastLike, hv, Option.getD_some]

theorem lastLike_spec (dir : String) (hu : u ∈ us) :
    lastLike dir us u ∈ us ∧ (lastLike dir us u).outputs dir = u.outputs dir := by
  have hfound := find?_lastLike dir hu
  refine ⟨List.mem_reverse.mp (List.mem_of_find?_eq_some hfound), ?_⟩
  simpa using List.find?_some hfound

/-- **The last unit that is written to its files stays.** -/
theorem read_outputs (hnamed : ∀ u ∈ us, ∃ path, u.NamedFor path)
    (h : s.Wrote dir (us.reverse.flatMap (·.puts s dir)) t) (hu : u ∈ us) :
    t.read (Path.join dir u.headerFile) = some (lastLike dir us u).header ∧
      t.read (Path.join dir u.sourceFile) = some (lastLike dir us u).source := by
  have hdir : dir ≠ "" := h.ne_empty fun hnil => by
    have := List.flatMap_eq_nil_iff.mp hnil u (List.mem_reverse.mpr hu)
    simp [puts] at this
  obtain ⟨path, hname⟩ := hnamed u hu
  obtain ⟨hheader, hsource⟩ := lookup_flatMap_puts hname
    (fun v hv => hnamed v (List.mem_reverse.mp hv)) hdir s
  rw [find?_lastLike dir hu] at hheader hsource
  rw [Path.join_eq_clean hdir, Path.join_eq_clean hdir, h.read_clean, h.read_clean,
    ← FileStore.destination_clean, ← Path.join_eq_clean hdir, hheader,
    ← FileStore.destination_clean, ← Path.join_eq_clean hdir, hsource]
  exact ⟨rfl, rfl⟩

/-- No unit loses its texts exactly if those that share their files share their texts. -/
theorem forall_heldBy_iff (hnamed : ∀ u ∈ us, ∃ path, u.NamedFor path)
    (h : s.Wrote dir (us.reverse.flatMap (·.puts s dir)) t) :
    (∀ u ∈ us, u.HeldBy t dir) ↔ ∀ u ∈ us, ∀ v ∈ us, u.outputs dir = v.outputs dir →
      u.header = v.header ∧ u.source = v.source := by
  constructor
  · intro hheld u hu v hv houtputs
    simp only [outputs, List.cons.injEq, and_true] at houtputs
    obtain ⟨hheader, hsource⟩ := hheld u hu
    obtain ⟨hheader', hsource'⟩ := hheld v hv
    rw [houtputs.1] at hheader
    rw [houtputs.2] at hsource
    exact ⟨Option.some.inj (hheader.symm.trans hheader'),
      Option.some.inj (hsource.symm.trans hsource')⟩
  · intro hequal u hu
    obtain ⟨hlast, houtputs⟩ := lastLike_spec dir hu
    obtain ⟨hheader, hsource⟩ := hequal _ hlast u hu houtputs
    rw [HeldBy, ← hheader, ← hsource]
    exact read_outputs hnamed h hu

end RenderedUnit

/-! ## Requests -/

theorem outcome_generate (registry : Registry) (request : Request) (s : FileStore) :
    (generate registry request).outcome s =
      match request.withDefaults.inputs s with
      | .error fault => (s, .error fault)
      | .ok paths =>
        match registry.select request.withDefaults.plugins with
        | .error fault => (s, .error fault)
        | .ok plugins =>
          (((generateAll plugins request.withDefaults paths).outcome s).1,
            ((generateAll plugins request.withDefaults paths).outcome s).2.map
              (⟨request.withDefaults.outputDir, ·⟩)) := by
  unfold Job.outcome generate
  dsimp only
  cases request.withDefaults.inputs s with
  | error fault => rfl
  | ok paths =>
    dsimp only
    cases registry.select request.withDefaults.plugins with
    | error fault => rfl
    | ok plugins =>
      dsimp only
      rw [Report.result_andThen]
      rcases generateAll plugins request.withDefaults paths s with ⟨s₁, notices, fault | units⟩
      · rfl
      · rfl

theorem exists_of_generate {registry : Registry} {request : Request} {g : Generated}
    (h : (generate registry request).outcome s = (t, .ok g)) :
    ∃ plugins paths units, registry.select request.withDefaults.plugins = .ok plugins ∧
      request.withDefaults.inputs s = .ok paths ∧
      (generateAll plugins request.withDefaults paths).outcome s = (t, .ok units) ∧
      g = ⟨request.withDefaults.outputDir, units⟩ := by
  rw [outcome_generate] at h
  cases hinputs : request.withDefaults.inputs s with
  | error fault =>
    rw [hinputs] at h
    cases h
  | ok paths =>
    cases hselect : registry.select request.withDefaults.plugins with
    | error fault =>
      rw [hinputs, hselect] at h
      cases h
    | ok plugins =>
      rw [hinputs, hselect] at h
      obtain ⟨hstore, hresult⟩ := Prod.mk.inj h
      cases hunits : ((generateAll plugins request.withDefaults paths).outcome s).2 with
      | error fault =>
        rw [hunits] at hresult
        cases hresult
      | ok units =>
        rw [hunits] at hresult
        exact ⟨plugins, paths, units, rfl, rfl, Prod.ext hstore hunits,
          (Except.ok.inj hresult).symm⟩

/-- What is found below a directory is seen from that directory. -/
theorem FileStore.clean_of_findSchemas {root pattern : String} {paths : List String}
    (h : s.findSchemas root pattern = .ok paths) (hpath : path ∈ paths) :
    ∃ raw, path = Path.clean raw := by
  unfold FileStore.findSchemas at h
  generalize (if pattern = "" then defaultPattern else pattern) = pattern' at h
  dsimp only at h
  split at h
  · cases h
  next hroot =>
    split at h
    · cases h
    · cases hlocate : s.locate root with
      | none =>
        rw [hlocate] at h
        cases h
      | some dir =>
        rw [hlocate] at h
        dsimp only at h
        split at h
        · cases h
          rw [FileStore.matchesBelow, List.mem_mergeSort] at hpath
          obtain ⟨names, -, rfl⟩ := List.mem_map.mp hpath
          exact ⟨_, Path.join_eq_clean hroot _⟩
        · cases h

/-- A request is about one path, or about paths that are clean. -/
theorem inputs_clean {paths : List String} (h : r.inputs s = .ok paths) :
    (∃ path, paths = [path]) ∨ ∀ path ∈ paths, ∃ raw, path = Path.clean raw := by
  unfold Request.inputs at h
  dsimp only at h
  split at h
  · cases h
  split at h
  · cases h
  split at h
  · cases h
    exact .inl ⟨_, rfl⟩
  · split at h
    · cases h
    · cases h
    next paths' hne hfound =>
      cases h
      exact .inr fun path hpath => FileStore.clean_of_findSchemas hfound hpath

/-- A request about a directory is about what its pattern matches there. -/
theorem Request.inputs_of_matchesBelow (place : Place) {paths : List String}
    (hpath : Text.trim r.schemaPath = "") (hdir : Text.trim r.schemaDir ≠ "")
    (hpattern : r.pattern ≠ "") (hvalid : Glob.isValid r.pattern = true)
    (hlocate : s.locate (Text.trim r.schemaDir) = some place) (hplace : s.isDir place = true)
    (hfound : s.matchesBelow (Text.trim r.schemaDir) r.pattern place = paths)
    (hne : paths ≠ []) : r.inputs s = .ok paths := by
  cases paths with
  | nil => exact absurd rfl hne
  | cons first rest =>
    simp [Request.inputs, FileStore.findSchemas, hpath, hdir, hpattern, hvalid, hlocate, hplace,
      hfound]

/-! ## What a run leaves -/

/-- What a run over these paths leaves, with what each of them was rendered to. -/
structure LeavesLast (plugins : Registry) (r : Request) (s t : FileStore) (paths : List String)
    (us : List RenderedUnit) (units : List GeneratedUnit) : Prop where
  /-- There is one unit for each path. -/
  length_eq : us.length = paths.length
  /-- It is what the path is rendered to when its turn comes. -/
  inTurn : ∀ i path u, paths[i]? = some path → us[i]? = some u →
    renderedAt plugins r ((generateAll plugins r (paths.take i)).outcome s).1 path = .ok u
  /-- If no path is written to, it is what the path is rendered to at the start. -/
  atStart : (∀ path ∈ paths, ∀ u ∈ us, ∀ output ∈ u.outputs r.outputDir,
      s.destination path ≠ s.destination output) →
    List.Forall₂ (fun path u => renderedAt plugins r s path = .ok u) paths us
  /-- All are reported as written. -/
  reported : units = us.map (·.generated r.outputDir)
  /-- The files of each hold what was rendered last for them. -/
  last : ∀ u ∈ us,
    t.read (Path.join r.outputDir u.headerFile) =
        some (RenderedUnit.lastLike r.outputDir us u).header ∧
      t.read (Path.join r.outputDir u.sourceFile) =
        some (RenderedUnit.lastLike r.outputDir us u).source
  /-- None is lost exactly if those that share their files were rendered to the same texts. -/
  noneLost : (∀ u ∈ us, u.HeldBy t r.outputDir) ↔ ∀ u ∈ us, ∀ v ∈ us,
    u.outputs r.outputDir = v.outputs r.outputDir → u.header = v.header ∧ u.source = v.source

/-- What is rendered in turn could have been rendered at the start, if only outputs were written. -/
theorem renderedAt_start {paths : List String} {turn : FileStore} {i : Nat}
    (hinputs : r.inputs s = .ok paths) (hpath : paths[i]? = some path)
    (hturn : turn = ((generateAll plugins r (paths.take i)).outcome s).1)
    (hwrote : s.Wrote r.outputDir puts turn) (hputs : ∀ put ∈ puts, ¬ NamesSchema put.1)
    (hfree : ∀ put ∈ puts, s.destination path ≠ put.1) :
    renderedAt plugins r turn path = renderedAt plugins r s path := by
  rcases inputs_clean hinputs with ⟨only, rfl⟩ | hclean
  · -- the only path is the first, and nothing is written before it
    obtain rfl : i = 0 := by simpa using (List.getElem?_eq_some_iff.mp hpath).1
    rw [hturn]
    rfl
  · obtain ⟨raw, rfl⟩ := hclean path (List.mem_of_getElem? hpath)
    refine renderedAt_congr (hwrote.sameSchemas hputs) ?_
    have hnone : puts.lookup (s.destination raw) = none :=
      List.lookup_eq_none_iff.mpr fun put hput => by
        simpa [FileStore.destination_clean] using hfree put hput
    rw [hwrote.read_clean, hnone, Option.none_or]

theorem leavesLast_generateAll {paths : List String} {units : List GeneratedUnit}
    (hinputs : r.inputs s = .ok paths)
    (hok : (generateAll plugins r paths).outcome s = (t, .ok units)) :
    ∃ us, LeavesLast plugins r s t paths us units := by
  obtain ⟨us, hlength, hturns, hreported, hwrote⟩ :=
    (FileStore.Wrote.nil s r.outputDir).generateAll hok
  have hnamed : ∀ u ∈ us, ∃ path, u.NamedFor path := by
    intro u hu
    obtain ⟨i, hi, rfl⟩ := List.getElem_of_mem hu
    obtain ⟨turn, -, hrendered, -⟩ := hturns i (paths[i]) us[i]
      (List.getElem?_eq_getElem (hlength ▸ hi)) (List.getElem?_eq_getElem hi)
    exact ⟨_, namedFor_of_renderedAt hrendered⟩
  rw [List.append_nil] at hwrote
  refine ⟨us, hlength, ?_, ?_, hreported, fun u hu => RenderedUnit.read_outputs hnamed hwrote hu,
    RenderedUnit.forall_heldBy_iff hnamed hwrote⟩
  · intro i path u hpath hu
    obtain ⟨turn, rfl, hrendered, -⟩ := hturns i path u hpath hu
    exact hrendered
  · intro hfree
    refine List.forall₂_iff_get.mpr ⟨hlength.symm, fun i hi hi' => ?_⟩
    obtain ⟨turn, hturn, hrendered, hwrote'⟩ := hturns i (paths.get ⟨i, hi⟩) (us.get ⟨i, hi'⟩)
      (List.getElem?_eq_getElem hi) (List.getElem?_eq_getElem hi')
    rw [List.append_nil] at hwrote'
    -- what was written before the turn of a path belongs to units of other paths
    have hputs : ∀ put ∈ (us.take i).reverse.flatMap (·.puts s r.outputDir),
        ∃ u ∈ us, put ∈ u.puts s r.outputDir := by
      intro put hput
      obtain ⟨u, hu, hmem⟩ := List.mem_flatMap.mp hput
      exact ⟨u, List.mem_of_mem_take (List.mem_reverse.mp hu), hmem⟩
    rw [← hrendered]
    exact (renderedAt_start hinputs (List.getElem?_eq_getElem hi) hturn hwrote'
      (RenderedUnit.not_namesSchema_of_wrote hputs hwrote' hnamed)
      (RenderedUnit.destination_ne_of_puts hputs (hfree _ (List.get_mem _ _)))).symm

/-- **What a run leaves behind**: of the schemas that share their files, the last one's. -/
theorem generate_leaves_last {registry : Registry} {request : Request} {g : Generated}
    (h : (generate registry request).outcome s = (t, .ok g)) :
    ∃ plugins paths us, registry.select request.withDefaults.plugins = .ok plugins ∧
      request.withDefaults.inputs s = .ok paths ∧
      LeavesLast plugins request.withDefaults s t paths us g.units := by
  obtain ⟨plugins, paths, units, hselect, hinputs, hok, rfl⟩ := exists_of_generate h
  obtain ⟨us, hus⟩ := leavesLast_generateAll hinputs hok
  exact ⟨plugins, paths, us, hselect, hinputs, hus⟩

/-! ### Two schemas of one name -/

/-- Two schema files of one name in different directories. -/
def namesakes : FileStore where
  files := [(["w", "v1", "RS.schema.yaml"], ""),
    (["w", "v2", "RS.schema.yaml"], "K:\n  Object Type: String Type\n")]
  cwd := ["w"]

/-- Everything below the working directory. -/
def namesakesRequest : Request := { schemaDir := ".", outputDir := "out" }

theorem inputs_namesakes : namesakesRequest.withDefaults.inputs namesakes =
    .ok ["v1/RS.schema.yaml", "v2/RS.schema.yaml"] := by
  refine Request.inputs_of_matchesBelow ["w"] (by decide) (by decide) (by decide)
    (by decide +kernel) (by decide) (by decide) ?_ (by decide)
  change namesakes.matchesBelow "." defaultPattern ["w"] = _
  rw [FileStore.matchesBelow, List.mergeSort_of_pairwise (by decide +kernel)]
  decide +kernel

/-- Both are written to the same files, and the first is not what these hold. -/
theorem generate_namesakes : ∃ t g u,
    (generate defaultRegistry namesakesRequest).outcome namesakes = (t, .ok g) ∧
      g.units = [⟨"RS", ["out/rs.h", "out/rs.cpp"]⟩, ⟨"RS", ["out/rs.h", "out/rs.cpp"]⟩] ∧
      renderedAt defaultRegistry namesakesRequest.withDefaults namesakes "v1/RS.schema.yaml" =
        .ok u ∧
      t.read "out/rs.h" ≠ some u.header := by
  have hselect : defaultRegistry.select namesakesRequest.withDefaults.plugins =
      .ok defaultRegistry := rfl
  have hunits : ((generateAll defaultRegistry namesakesRequest.withDefaults
      ["v1/RS.schema.yaml", "v2/RS.schema.yaml"]).outcome namesakes).2.toOption =
      some [⟨"RS", ["out/rs.h", "out/rs.cpp"]⟩, ⟨"RS", ["out/rs.h", "out/rs.cpp"]⟩] := by
    decide +kernel
  have hheader : (renderedAt defaultRegistry namesakesRequest.withDefaults namesakes
        "v1/RS.schema.yaml").toOption.isSome = true ∧
      ((generateAll defaultRegistry namesakesRequest.withDefaults
        ["v1/RS.schema.yaml", "v2/RS.schema.yaml"]).outcome namesakes).1.read "out/rs.h" ≠
        (renderedAt defaultRegistry namesakesRequest.withDefaults namesakes
          "v1/RS.schema.yaml").toOption.map (·.header) := by
    decide +kernel
  rw [outcome_generate, inputs_namesakes]
  dsimp only
  rw [hselect]
  dsimp only
  cases hresult : ((generateAll defaultRegistry namesakesRequest.withDefaults
      ["v1/RS.schema.yaml", "v2/RS.schema.yaml"]).outcome namesakes).2 with
  | error fault =>
    rw [hresult] at hunits
    cases hunits
  | ok units =>
    rw [hresult] at hunits
    cases hrendered : renderedAt defaultRegistry namesakesRequest.withDefaults namesakes
        "v1/RS.schema.yaml" with
    | error fault =>
      rw [hrendered] at hheader
      exact absurd hheader.1 Bool.false_ne_true
    | ok u =>
      rw [hrendered] at hheader
      exact ⟨_, _, u, rfl, Option.some.inj hunits, rfl, hheader.2⟩

theorem generate_leaves_last_namesakes : ∃ t g,
    (generate defaultRegistry namesakesRequest).outcome namesakes = (t, .ok g) ∧
      ∃ plugins paths us,
        defaultRegistry.select namesakesRequest.withDefaults.plugins = .ok plugins ∧
        namesakesRequest.withDefaults.inputs namesakes = .ok paths ∧
        LeavesLast plugins namesakesRequest.withDefaults namesakes t paths us g.units := by
  obtain ⟨t, g, -, h, -⟩ := generate_namesakes
  exact ⟨t, g, h, generate_leaves_last h⟩

/-- A run succeeds and reports the files of its first schema, which do not hold what that schema is
rendered to. -/
theorem namesake_lost : ∃ t g u,
    (generate defaultRegistry namesakesRequest).outcome namesakes = (t, .ok g) ∧
      namesakesRequest.withDefaults.inputs namesakes =
        .ok ["v1/RS.schema.yaml", "v2/RS.schema.yaml"] ∧
      renderedAt defaultRegistry namesakesRequest.withDefaults namesakes "v1/RS.schema.yaml" =
        .ok u ∧
      g.units[0]? = some ⟨"RS", ["out/rs.h", "out/rs.cpp"]⟩ ∧
      t.read "out/rs.h" ≠ some u.header := by
  obtain ⟨t, g, u, h, hunits, hrendered, hlost⟩ := generate_namesakes
  exact ⟨t, g, u, h, inputs_namesakes, hrendered, by rw [hunits]; rfl, hlost⟩

end SchemaGen
