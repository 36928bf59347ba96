import SchemaGen.Generation
import SchemaGen.Proofs.Catalog.Index
import SchemaGen.Proofs.File.Output
import SchemaGen.Proofs.File.SchemaFile
import SchemaGen.Proofs.Text.Snake

/-!
# What is generated for one schema

One schema file is compiled and rendered (`renderedAt`), which only reads, and then its two files
are written, which needs nothing but what was rendered (`outcome_generateOne`). The names of these
files come from the path of the schema alone (`namedFor_of_renderedAt`) and are entries of the
output directory that are no schema files (`isEntry_output`). So what was written for one schema
takes nothing away from what is read for another (`renderedAt_of_wrote`).
-/

set_option autoImplicit false

namespace SchemaGen

open SchemaGen.Text (snake)

/-! ## Names -/

/-- The endings of the files that are written. -/
def outputEndings : List String := [".h", ".cpp"]

theorem baseName_no_slash (path : String) :
    '/' ∉ (Path.baseName path).toList ∨ Path.baseName path = "/" := by
  unfold Path.baseName
  split
  · exact .inl (by decide)
  · split
    next part hpart =>
      refine .inl (Path.no_slash_of_mem_parts (?_ : part ∈ Path.parts path))
      exact (List.mem_filter.mp (List.mem_of_getLast? hpart)).1
    next => exact .inr rfl

/-- The name of a schema has no slash, unless the path is nothing but slashes. -/
theorem schemaName_no_slash (path : String) :
    '/' ∉ (schemaName path).toList ∨ schemaName path = "/" := by
  rcases baseName_no_slash path with hbase | hbase
  · left
    intro hmem
    unfold schemaName at hmem
    dsimp only at hmem
    split at hmem
    · exact hbase (Text.mem_of_mem_dropEnd hmem)
    · exact hbase (Text.mem_of_mem_dropEnd hmem)
  · right
    unfold schemaName
    rw [hbase]
    decide

theorem isName_append_output {name ending : String} (hname : '/' ∉ name.toList)
    (h : ending ∈ outputEndings) : Path.IsName (name ++ ending) := by
  have hchars : ∀ e ∈ outputEndings, '/' ∉ e.toList ∧ ('h' ∈ e.toList ∨ 'c' ∈ e.toList) := by
    decide
  obtain ⟨hslash, hletter | hletter⟩ := hchars ending h
  · exact .of_mem (c := 'h') (by simp [hname, hslash]) (by simp [hletter]) (by decide)
  · exact .of_mem (c := 'c') (by simp [hname, hslash]) (by simp [hletter]) (by decide)

/-- What is written is an entry of the output directory, and the entries of one schema differ in
their endings only. -/
theorem isEntry_output (path : String) : ∃ stem, ∀ ending ∈ outputEndings,
    Path.IsEntry (snake (schemaName path) ++ ending) (stem ++ ending) := by
  rcases schemaName_no_slash path with hname | hname
  · exact ⟨_, fun ending h => (isName_append_output (Text.no_slash_snake hname) h).isEntry⟩
  · refine ⟨"", fun ending h => ?_⟩
    have hisName : Path.IsName ("" ++ ending) := isName_append_output (by decide) h
    have hsnake : snake "/" = "/" := by decide
    refine ⟨⟨1, ?_⟩, hisName⟩
    rw [String.empty_append] at hisName
    rw [hname, hsnake, Path.parts_slash_append, Path.parts_eq_singleton hisName.no_slash,
      String.empty_append]
    rfl

theorem endings_differ : ∀ e ∈ outputEndings, ∀ e' ∈ schemaEndings,
    ¬ e.toList <:+ e'.toList ∧ ¬ e'.toList <:+ e.toList := by
  decide

/-- What is written is no schema file. -/
theorem not_namesSchema_output {ending : String} (h : ending ∈ outputEndings) (above : Place)
    (stem : String) : ¬ NamesSchema (above ++ [stem ++ ending]) := by
  rintro ⟨above', last, hplace, ending', hending', hlast⟩
  obtain rfl : stem ++ ending = last := List.singleton_inj.mp (List.append_inj' hplace rfl).2
  have hsuffix : ending.toList <:+ (stem ++ ending).toList := by simp
  obtain ⟨hleft, hright⟩ := endings_differ ending h ending' hending'
  rcases List.suffix_or_suffix_of_suffix hsuffix hlast with hboth | hboth
  · exact hleft hboth
  · exact hright hboth

/-! ## Rendering -/

/-- The two files of the schema at a path, as the store is. -/
def renderedAt (plugins : Registry) (r : Request) (s : FileStore) (path : String) :
    Except Fault RenderedUnit :=
  (s.loadSchema path).bind fun schema =>
    (compile s.loader (some plugins) r.options schema).result.map CodeUnit.render

/-- A unit with the names that the schema at a path gives it. -/
structure RenderedUnit.NamedFor (u : RenderedUnit) (path : String) : Prop where
  schema : u.schema = schemaName path
  headerFile : u.headerFile = snake (schemaName path) ++ ".h"
  sourceFile : u.sourceFile = snake (schemaName path) ++ ".cpp"

theorem Report.result_inSchema {α : Type} (schema : String) (report : Report α) :
    (report.inSchema schema).result = report.result := rfl

theorem CodeUnit.exists_of_extend {t t' : CodeUnit} {plugins : Registry}
    (h : (t.extend plugins).result = .ok t') : ∃ world, t' = { t with world } := by
  unfold CodeUnit.extend at h
  obtain ⟨-, -, hdone⟩ := Report.exists_of_andThen h
  cases hdone
  exact ⟨_, rfl⟩

/-- A code unit is made of the declarations and the definitions of its schema, and plugins touch
nothing but its trees. -/
theorem exists_built_of_compile {l : Loader} {plugins : Option Registry} {o : UnitOptions}
    {schema : Schema} {unit : CodeUnit} (h : (compile l plugins o schema).result = .ok unit) :
    ∃ c d i world, (Catalog.build l o.strict schema).result = .ok c ∧
      (buildDeclarations c schema o.decls).result = .ok d ∧
      (buildDefinitions c schema.name (d.container.map Prod.fst) d.scope).result = .ok i ∧
      unit = { CodeUnit.ofTrees schema d i with world } := by
  rw [compile, Report.result_inSchema] at h
  obtain ⟨t, htrees, h⟩ := Report.exists_of_andThen h
  obtain ⟨t', hextend, h⟩ := Report.exists_of_andThen h
  obtain ⟨-, -, h⟩ := Report.exists_of_andThen h
  cases h
  unfold buildTrees at htrees
  obtain ⟨-, -, htrees⟩ := Report.exists_of_andThen htrees
  obtain ⟨c, hc, htrees⟩ := Report.exists_of_andThen htrees
  obtain ⟨d, hd, htrees⟩ := Report.exists_of_andThen htrees
  obtain ⟨i, hi, htrees⟩ := Report.exists_of_andThen htrees
  cases htrees
  cases plugins with
  | none =>
    cases hextend
    exact ⟨c, d, i, _, hc, hd, hi, rfl⟩
  | some registry =>
    obtain ⟨world, rfl⟩ := CodeUnit.exists_of_extend hextend
    exact ⟨c, d, i, world, hc, hd, hi, rfl⟩

theorem exists_of_compile {l : Loader} {plugins : Option Registry} {o : UnitOptions}
    {schema : Schema} {unit : CodeUnit} (h : (compile l plugins o schema).result = .ok unit) :
    ∃ c d i world, (buildDeclarations c schema o.decls).result = .ok d ∧
      unit = { CodeUnit.ofTrees schema d i with world } := by
  obtain ⟨c, d, i, world, -, hd, -, rfl⟩ := exists_built_of_compile h
  exact ⟨c, d, i, world, hd, rfl⟩

theorem schema_of_compile {l : Loader} {plugins : Option Registry} {o : UnitOptions}
    {schema : Schema} {unit : CodeUnit} (h : (compile l plugins o schema).result = .ok unit) :
    unit.schema = schema := by
  obtain ⟨c, d, i, world, -, rfl⟩ := exists_of_compile h
  rfl

variable {plugins : Registry} {r : Request} {s t : FileStore} {path : String} {u : RenderedUnit}

theorem exists_of_renderedAt (h : renderedAt plugins r s path = .ok u) :
    ∃ schema unit, s.loadSchema path = .ok schema ∧
      (compile s.loader (some plugins) r.options schema).result = .ok unit ∧ unit.render = u := by
  unfold renderedAt at h
  cases hload : s.loadSchema path with
  | error fault =>
    rw [hload] at h
    cases h
  | ok schema =>
    rw [hload, Except.bind] at h
    cases hcompile : (compile s.loader (some plugins) r.options schema).result with
    | error fault =>
      rw [hcompile] at h
      cases h
    | ok unit =>
      rw [hcompile] at h
      exact ⟨schema, unit, rfl, hcompile, Except.ok.inj h⟩

theorem FileStore.exists_of_loadSchema {schema : Schema} (h : s.loadSchema path = .ok schema) :
    schema.name = schemaName path ∧ ∃ text, s.read path = some text := by
  unfold FileStore.loadSchema at h
  split at h
  · cases h
  next text htext =>
    split at h
    · cases h
    · cases h
      exact ⟨rfl, text, htext⟩

theorem namedFor_of_renderedAt (h : renderedAt plugins r s path = .ok u) : u.NamedFor path := by
  obtain ⟨schema, unit, hload, hcompile, rfl⟩ := exists_of_renderedAt h
  have hname : unit.schema.name = schemaName path := by
    rw [schema_of_compile hcompile, (FileStore.exists_of_loadSchema hload).1]
  constructor <;> simp [CodeUnit.render, hname]

/-- **A schema is rendered to the same files** as long as its own file stays and no schema file
changes. -/
theorem renderedAt_congr (h : s.SameSchemas t) (hread : t.read path = s.read path) :
    renderedAt plugins r t path = renderedAt plugins r s path := by
  have hload : t.loadSchema path = s.loadSchema path := by
    rw [FileStore.loadSchema, FileStore.loadSchema, hread, FileStore.absolute, FileStore.absolute,
      FileStore.cwdPath, FileStore.cwdPath, h.cwd]
  simp only [renderedAt, hload, compile_congr h.agree]

theorem FileStore.Wrote.sameSchemas {dir : String} {puts : List (Place × String)}
    (h : s.Wrote dir puts t) (hputs : ∀ put ∈ puts, ¬ NamesSchema put.1) : s.SameSchemas t :=
  ⟨h.extends.cwd, fun _ hp => h.fileAt?_of_ne fun put hput heq => hputs put hput (heq ▸ hp)⟩

/-- A file that can be read and is not written is rendered to the same files. -/
theorem renderedAt_of_wrote {dir : String} {puts : List (Place × String)}
    (h : s.Wrote dir puts t) (hputs : ∀ put ∈ puts, ¬ NamesSchema put.1)
    (hpath : ∀ put ∈ puts, s.destination path ≠ put.1)
    (hok : renderedAt plugins r s path = .ok u) : renderedAt plugins r t path = .ok u := by
  obtain ⟨schema, -, hload, -⟩ := exists_of_renderedAt hok
  obtain ⟨-, text, htext⟩ := FileStore.exists_of_loadSchema hload
  rw [← hok]
  exact renderedAt_congr (h.sameSchemas hputs) ((h.read hpath htext).trans htext.symm)

/-! ## Writing -/

namespace RenderedUnit

/-- The paths of the two files in a directory. -/
def outputs (u : RenderedUnit) (dir : String) : List String :=
  [Path.join dir u.headerFile, Path.join dir u.sourceFile]

/-- What is told of a unit whose files are written. -/
def generated (u : RenderedUnit) (dir : String) : GeneratedUnit :=
  ⟨u.schema, u.outputs dir⟩

/-- The two texts at their places. The source is written last and comes first. -/
def puts (u : RenderedUnit) (s : FileStore) (dir : String) : List (Place × String) :=
  [(s.destination (Path.join dir u.sourceFile), u.source),
    (s.destination (Path.join dir u.headerFile), u.header)]

/-- Both files can be written. -/
def Writable (u : RenderedUnit) (s : FileStore) (dir : String) : Prop :=
  s.Writable dir u.headerFile ∧ s.Writable dir u.sourceFile

theorem NamedFor.entries (h : u.NamedFor path) : ∃ stem,
    Path.IsEntry u.headerFile (stem ++ ".h") ∧ Path.IsEntry u.sourceFile (stem ++ ".cpp") := by
  obtain ⟨stem, hentry⟩ := isEntry_output path
  rw [h.headerFile, h.sourceFile]
  exact ⟨stem, hentry ".h" (by decide), hentry ".cpp" (by decide)⟩

theorem exists_of_mem_puts {dir : String} {put : Place × String} (h : put ∈ u.puts s dir) :
    ∃ output ∈ u.outputs dir, put.1 = s.destination output := by
  simp only [puts, List.mem_cons, List.not_mem_nil, or_false] at h
  rcases h with rfl | rfl
  · exact ⟨_, by simp [outputs], rfl⟩
  · exact ⟨_, by simp [outputs], rfl⟩

theorem NamedFor.not_namesSchema (h : u.NamedFor path) {dir : String} (hdir : dir ≠ "")
    {put : Place × String} (hput : put ∈ u.puts s dir) : ¬ NamesSchema put.1 := by
  obtain ⟨stem, hheader, hsource⟩ := h.entries
  simp only [puts, List.mem_cons, List.not_mem_nil, or_false] at hput
  rcases hput with rfl | rfl
  · rw [FileStore.destination_join_isEntry hdir hsource]
    exact not_namesSchema_output (by decide) _ stem
  · rw [FileStore.destination_join_isEntry hdir hheader]
    exact not_namesSchema_output (by decide) _ stem

section Written

variable {us : List RenderedUnit} {dir : String} {puts : List (Place × String)}
  (hputs : ∀ put ∈ puts, ∃ u ∈ us, put ∈ u.puts s dir)

include hputs

/-- What was written for some units is no schema file. -/
theorem not_namesSchema_of_wrote (h : s.Wrote dir puts t)
    (hnamed : ∀ u ∈ us, ∃ path, u.NamedFor path) : ∀ put ∈ puts, ¬ NamesSchema put.1 := by
  intro put hput
  obtain ⟨u, hu, hmem⟩ := hputs put hput
  obtain ⟨path, hname⟩ := hnamed u hu
  exact hname.not_namesSchema (h.ne_empty (List.ne_nil_of_mem hput)) hmem

/-- A path that is no output of some units is not where they were written. -/
theorem destination_ne_of_puts (hfree : ∀ u ∈ us, ∀ output ∈ u.outputs dir,
    s.destination path ≠ s.destination output) : ∀ put ∈ puts, s.destination path ≠ put.1 := by
  intro put hput
  obtain ⟨u, hu, hmem⟩ := hputs put hput
  obtain ⟨output, houtput, hplace⟩ := exists_of_mem_puts hmem
  rw [hplace]
  exact hfree u hu output houtput

end Written

theorem NamedFor.named (h : u.NamedFor path) :
    ¬ (decide (u.headerFile = "") || decide (u.sourceFile = "")) = true := by
  simp [h.headerFile, h.sourceFile]

end RenderedUnit

/-- What a job comes to: the files afterwards and its result, without what it noticed. -/
def Job.outcome {α : Type} (job : Job α) (s : FileStore) : FileStore × Except Fault α :=
  ((job s).1, (job s).2.result)

/-- One schema is rendered, and then it is written as a unit. -/
theorem outcome_generateOne_writeUnit (plugins : Registry) (r : Request) (path : String)
    (s : FileStore) :
    (generateOne plugins r path).outcome s =
      match renderedAt plugins r s path with
      | .error fault => (s, .error fault)
      | .ok u =>
        ((s.writeUnit r.outputDir u).store,
          match (s.writeUnit r.outputDir u).fault with
          | some fault => .error fault
          | none => .ok ⟨u.schema, (s.writeUnit r.outputDir u).paths⟩) := by
  cases hload : s.loadSchema path with
  | error fault => simp only [Job.outcome, generateOne, renderedAt, hload, Except.bind,
      Report.result_fail]
  | ok schema =>
    cases hcompile : (compile s.loader (some plugins) r.options schema).result with
    | error fault => simp only [Job.outcome, generateOne, renderedAt, hload, hcompile, Except.bind,
        Except.map, Report.result_andThen]
    | ok unit =>
      have hschema : unit.render.schema = schema.name := by
        rw [CodeUnit.render, schema_of_compile hcompile]
      simp only [Job.outcome, generateOne, renderedAt, hload, hcompile, Except.bind, Except.map,
        Report.result_andThen, hschema]
      cases (s.writeUnit r.outputDir unit.render).fault with
      | some fault => rfl
      | none => rfl

/-- One schema is rendered, and then its two files are written. -/
theorem outcome_generateOne (plugins : Registry) (r : Request) (path : String) (s : FileStore) :
    (generateOne plugins r path).outcome s =
      match renderedAt plugins r s path with
      | .error fault => (s, .error fault)
      | .ok u =>
        match s.writeInto r.outputDir u.headerFile u.header with
        | (s, .error fault) => (s, .error fault)
        | (s, .ok header) =>
          match s.writeInto r.outputDir u.sourceFile u.source with
          | (s, .error fault) => (s, .error fault)
          | (s, .ok source) => (s, .ok ⟨u.schema, [header, source]⟩) := by
  rw [outcome_generateOne_writeUnit]
  cases hrendered : renderedAt plugins r s path with
  | error fault => rfl
  | ok u =>
    dsimp only
    rw [FileStore.writeUnit, if_neg (namedFor_of_renderedAt hrendered).named, FileStore.writeAll]
    rcases s.writeInto r.outputDir u.headerFile u.header with ⟨s₁, fault | header⟩
    · rfl
    · dsimp only
      rw [FileStore.writeAll]
      rcases s₁.writeInto r.outputDir u.sourceFile u.source with ⟨s₂, fault | source⟩
      · rfl
      · rfl

theorem outcome_generateAll_nil (plugins : Registry) (r : Request) (s : FileStore) :
    (generateAll plugins r []).outcome s = (s, .ok []) := rfl

/-- Schemas are dealt with one after the other, up to the first that fails. -/
theorem outcome_generateAll_cons (plugins : Registry) (r : Request) (path : String)
    (rest : List String) (s : FileStore) :
    (generateAll plugins r (path :: rest)).outcome s =
      match (generateOne plugins r path).outcome s with
      | (s, .error fault) => (s, .error fault)
      | (s, .ok unit) =>
        (((generateAll plugins r rest).outcome s).1,
          ((generateAll plugins r rest).outcome s).2.map (unit :: ·)) := by
  unfold Job.outcome
  rw [generateAll]
  rcases generateOne plugins r path s with ⟨s₁, notices, fault | unit⟩
  · rfl
  · dsimp only
    rw [Report.result_andThen, Report.result_andThen, Except.bind]
    rcases generateAll plugins r rest s₁ with ⟨s₂, notices, fault | units⟩
    · rfl
    · rfl

end SchemaGen
