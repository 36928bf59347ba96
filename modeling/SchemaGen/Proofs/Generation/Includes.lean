import SchemaGen.Plugin.Builtin
import SchemaGen.Proofs.Declaration.Shape
import SchemaGen.Proofs.Generation.Outputs

/-!
# Includes that come of references

A schema includes a header for each identifier in its list of references. The name of that header is
read off the identifier; the header that is generated for what the identifier refers to is named
after a file that is looked for on disk. Of the identifier, that file name has only what follows the
last slash (`exists_parts_of_resolveReference`), and snake case keeps the slashes before it. So the
two names are one as long as there are none (`reference_include_names_header_iff`), whatever white
space and dots the identifier has.
-/

set_option autoImplicit false

namespace SchemaGen

open SchemaGen.Text (snake headerName trim mem_trimChars_iff)

/-! ## Include lines -/

/-- The line that includes a header. -/
def includeLine (header : String) : String :=
  "#include <" ++ header ++ ">"

namespace Preamble

theorem mem_addHeader_iff {p : Preamble} {header line : String} :
    line ∈ (p.addHeader header).lines ↔ line ∈ p.lines ∨ line = includeLine header := by
  unfold addHeader add includeLine
  split
  next hthere =>
    have hmem := List.contains_iff_mem.mp hthere
    exact ⟨.inl, fun h => h.elim id fun heq => heq ▸ hmem⟩
  next => simp

/-- Every header asked for is included, and no other line is added. -/
theorem mem_addHeaders_iff {p : Preamble} {headers : List String} {line : String} :
    line ∈ (p.addHeaders headers).lines ↔
      line ∈ p.lines ∨ ∃ header ∈ headers, line = includeLine header := by
  unfold addHeaders
  induction headers generalizing p with
  | nil => simp
  | cons header headers ih => simp [ih, mem_addHeader_iff, or_assoc]

end Preamble

/-- Every reference of a schema is included in its header. -/
theorem reference_included {l : Loader} {plugins : Option Registry} {o : UnitOptions}
    {schema : Schema} {unit : CodeUnit} {identifier : String}
    (h : (compile l plugins o schema).result = .ok unit) (hid : identifier ∈ schema.references) :
    includeLine (headerName identifier) ∈ unit.header.lines := by
  obtain ⟨c, d, i, world, hd, rfl⟩ := exists_of_compile h
  obtain ⟨groups, headers, ordered, -, -, rfl⟩ := exists_of_buildDeclarations hd
  refine Preamble.mem_addHeaders_iff.mpr (.inr ⟨headerName identifier, ?_, rfl⟩)
  exact List.mem_append_left _ (List.mem_append_left _ (List.mem_map_of_mem hid))

/-! ## The names of schema files -/

/-- No ending of a schema file is that of another. -/
theorem schemaEndings_apart : ∀ e ∈ schemaEndings, ∀ e' ∈ schemaEndings,
    e'.toList <:+ e.toList → e' = e := by
  decide

/-- A schema file is named after its schema. -/
theorem schemaName_of_baseName {path name ending : String} (h : ending ∈ schemaEndings)
    (hbase : Path.baseName path = name ++ ending) : schemaName path = name := by
  have hsuffix : ending.toList <:+ (name ++ ending).toList := by simp
  have hfound : schemaEndings.find? (Text.endsWith (name ++ ending) ·) = some ending := by
    cases hfind : schemaEndings.find? (Text.endsWith (name ++ ending) ·) with
    | none =>
      exact absurd (Text.endsWith_iff.mpr hsuffix) (List.find?_eq_none.mp hfind ending h)
    | some other =>
      have hmem := List.mem_of_find?_eq_some hfind
      have hends := Text.endsWith_iff.mp (List.find?_some hfind)
      rcases List.suffix_or_suffix_of_suffix hends hsuffix with hboth | hboth
      · rw [schemaEndings_apart ending h other hmem hboth]
      · rw [schemaEndings_apart other hmem ending h hboth]
  rw [schemaName, hbase]
  simp only [hfound, Text.dropEnd_append]

variable {s : FileStore} {source identifier path : String}

/-- **The schema that an identifier refers to has the identifier's last part for its name.** -/
theorem exists_parts_of_resolveReference (h : s.resolveReference source identifier = .ok path) :
    ∃ before, Path.parts (trim identifier) = before ++ [schemaName path] := by
  obtain ⟨ending, hending, rfl⟩ := FileStore.candidate_of_resolveReference h
  obtain ⟨before, last, -, hparts⟩ := Path.exists_parts_eq (trim identifier)
  obtain ⟨rooted, above, hclean, hjoin⟩ :=
    FileStore.exists_candidate_eq source hparts hending
  refine ⟨before, ?_⟩
  rw [hparts, schemaName_of_baseName hending]
  rw [hjoin, Path.baseName_ofParts hclean]

theorem slash_mem_trim_iff : '/' ∈ (trim identifier).toList ↔ '/' ∈ identifier.toList := by
  rw [trim, String.toList_ofList]
  exact mem_trimChars_iff (by decide)

/-! ## One name or two -/

/-- An identifier and the schema it refers to have one name in snake case if there is no slash in
the identifier, and only then. -/
theorem snake_schemaName_iff (h : s.resolveReference source identifier = .ok path) :
    snake identifier = snake (schemaName path) ↔ '/' ∉ identifier.toList := by
  obtain ⟨before, hparts⟩ := exists_parts_of_resolveReference h
  constructor
  · intro heq hslash
    have hname : '/' ∉ (schemaName path).toList :=
      Path.no_slash_of_mem_parts (hparts ▸ List.mem_append_right before (List.mem_singleton_self _))
    exact Text.no_slash_snake hname (heq ▸ Text.slash_mem_snake_iff.mpr hslash)
  · intro hfree
    rw [Path.parts_eq_singleton (mt slash_mem_trim_iff.mp hfree)] at hparts
    have hname : trim identifier = schemaName path := by
      simpa using congrArg List.getLast? hparts
    rw [← Text.snake_trim identifier, hname]

/-- **A reference's include names the header that is generated for what the reference leads to,
exactly if there is no slash in it.** The line is there in the header of every schema that lists the
reference, and a schema that is read from where the reference leads is written under the name of
its file alone. -/
theorem reference_include_names_header_iff
    (h : s.resolveReference source identifier = .ok path) :
    (headerName identifier = snake (schemaName path) ++ ".h" ↔ '/' ∉ identifier.toList) ∧
      (∀ l plugins o schema unit, identifier ∈ schema.references →
        (compile l plugins o schema).result = .ok unit →
          includeLine (headerName identifier) ∈ unit.header.lines) ∧
      ∀ l plugins o schema unit, s.loadSchema path = .ok schema →
        (compile l plugins o schema).result = .ok unit →
          unit.render.headerFile = snake (schemaName path) ++ ".h" := by
  refine ⟨?_, ?_, ?_⟩
  · rw [headerName, String.append_left_inj, snake_schemaName_iff h]
  · intro l plugins o schema unit hid hunit
    exact reference_included hunit hid
  · intro l plugins o schema unit hload hunit
    rw [CodeUnit.render, schema_of_compile hunit, (FileStore.exists_of_loadSchema hload).1]

/-! ### A schema in another directory -/

/-- A schema, one next to it and one in a directory below, and references to both. -/
def belowStore : FileStore where
  files := [(["w", "A.schema.yaml"], "M:\n  Object Type: Meta\n  References: [C, sub/B]\n"),
    (["w", "C.schema.yaml"], ""), (["w", "sub", "B.schema.yaml"], "")]
  cwd := ["w"]

theorem resolveReference_below : belowStore.resolveReference "/w/A.schema.yaml" "sub/B" =
    .ok "/w/sub/B.schema.yaml" :=
  eq_ok_of_toOption (by decide +kernel)

theorem reference_include_names_header_iff_below :
    belowStore.resolveReference "/w/A.schema.yaml" "sub/B" = .ok "/w/sub/B.schema.yaml" ∧
      (headerName "sub/B" = snake (schemaName "/w/sub/B.schema.yaml") ++ ".h" ↔
        '/' ∉ "sub/B".toList) :=
  ⟨resolveReference_below, (reference_include_names_header_iff resolveReference_below).1⟩

/-- A header includes one that nothing generates, and not that of the schema that is meant. -/
theorem missing_header_included : ∃ schema unit u,
    belowStore.loadSchema "A.schema.yaml" = .ok schema ∧ "sub/B" ∈ schema.references ∧
      belowStore.resolveReference schema.path "sub/B" = .ok "/w/sub/B.schema.yaml" ∧
      (compile belowStore.loader (some defaultRegistry) {} schema).result = .ok unit ∧
      includeLine (headerName "sub/B") ∈ unit.header.lines ∧
      renderedAt defaultRegistry {} belowStore "/w/sub/B.schema.yaml" = .ok u ∧
      includeLine u.headerFile ∉ unit.header.lines := by
  have hload : (belowStore.loadSchema "A.schema.yaml").toOption.map
      (fun schema => (schema.path, schema.references)) =
        some ("/w/A.schema.yaml", ["C", "sub/B"]) := by
    decide +kernel
  have hlines : ((belowStore.loadSchema "A.schema.yaml").toOption.bind fun schema =>
      (compile belowStore.loader (some defaultRegistry) {} schema).result.toOption.map fun unit =>
        unit.header.lines.contains (includeLine "b.h")) = some false := by
    decide +kernel
  have hrendered : (renderedAt defaultRegistry {} belowStore
      "/w/sub/B.schema.yaml").toOption.map (·.headerFile) = some "b.h" := by
    decide +kernel
  obtain ⟨schema, hschema, hline⟩ := Option.bind_eq_some_iff.mp hlines
  obtain ⟨unit, hunit, hline⟩ := Option.map_eq_some_iff.mp hline
  obtain ⟨u, hu, hfile⟩ := Option.map_eq_some_iff.mp hrendered
  rw [hschema, Option.map_some, Option.some_inj, Prod.mk.injEq] at hload
  have hid : "sub/B" ∈ schema.references := by simp [hload.2]
  have hunit := eq_ok_of_toOption hunit
  refine ⟨schema, unit, u, eq_ok_of_toOption hschema, hid, ?_, hunit,
    reference_included hunit hid, eq_ok_of_toOption hu, ?_⟩
  · rw [hload.1, resolveReference_below]
  · rw [hfile, ← List.contains_iff_mem, hline]
    exact Bool.false_ne_true

end SchemaGen
