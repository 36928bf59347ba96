import Mathlib.Data.List.Find
import SchemaGen.File.SchemaFile
import SchemaGen.Proofs.Catalog.Agreement
import SchemaGen.Proofs.File.Store

/-!
# Files that are read for a schema

What a reference leads to has a name with the ending of a schema file (`namesSchema_candidate`). So
files of other names can come and go and references still lead to the same schemas
(`SameSchemas.agree`): a schema compiles to the same code unit as long as its own file stays and no
schema file changes.
-/

set_option autoImplicit false

namespace SchemaGen

open SchemaGen.Text (trim)

/-- A place whose name has the ending of a schema file. -/
def NamesSchema (p : Place) : Prop :=
  ∃ above last, p = above ++ [last] ∧ ∃ ending ∈ schemaEndings, ending.toList <:+ last.toList

theorem no_slash_schemaEndings : ∀ ending ∈ schemaEndings, '/' ∉ ending.toList := by
  decide

theorem Path.isName_append_schemaEnding {part ending : String} (hpart : '/' ∉ part.toList)
    (hending : ending ∈ schemaEndings) : Path.IsName (part ++ ending) := by
  have hletter : ∀ e ∈ schemaEndings, 's' ∈ e.toList := by decide
  refine .of_mem (c := 's') ?_ ?_ (by decide)
  · simpa [hpart] using no_slash_schemaEndings ending hending
  · simp [hletter ending hending]

namespace FileStore

variable {s t : FileStore}

theorem destination_congr (h : t.cwd = s.cwd) (path : String) :
    t.destination path = s.destination path := by
  rw [destination, destination, start, start, h]

/-- **References lead to schema files.** -/
theorem namesSchema_candidate (s : FileStore) (source identifier : String) {ending : String}
    (h : ending ∈ schemaEndings) :
    NamesSchema (s.destination (Path.join (Path.dirName source) (identifier ++ ending))) := by
  obtain ⟨before, last, hlast, hparts⟩ :=
    Path.parts_append identifier (no_slash_schemaEndings ending h)
  have hdir : Path.dirName source ≠ "" := Path.ofParts_ne_empty _ _
  rw [destination_join hdir, hparts, List.foldl_append, List.foldl_cons, List.foldl_nil,
    walk_name (Path.isName_append_schemaEnding hlast h)]
  exact ⟨_, last ++ ending, rfl, ending, h, by simp⟩

/-- The same schema files, read from the same working directory. -/
structure SameSchemas (s t : FileStore) : Prop where
  cwd : t.cwd = s.cwd
  fileAt? : ∀ p, NamesSchema p → t.fileAt? p = s.fileAt? p

theorem SameSchemas.read (h : SameSchemas s t) (source identifier : String) {ending : String}
    (hending : ending ∈ schemaEndings) :
    t.read (Path.join (Path.dirName source) (identifier ++ ending)) =
      s.read (Path.join (Path.dirName source) (identifier ++ ending)) := by
  have hdir : Path.dirName source ≠ "" := Path.ofParts_ne_empty _ _
  have hnames := namesSchema_candidate s source identifier hending
  rw [Path.join_eq_clean hdir] at hnames ⊢
  rw [destination_clean] at hnames
  rw [read_clean, read_clean, destination_congr h.cwd, h.fileAt? _ hnames]

theorem SameSchemas.resolveReference (h : SameSchemas s t) (source identifier : String) :
    t.resolveReference source identifier = s.resolveReference source identifier := by
  have hfind : (schemaEndings.map fun ending =>
      Path.join (Path.dirName source) (trim identifier ++ ending)).find? t.isFile =
      (schemaEndings.map fun ending =>
        Path.join (Path.dirName source) (trim identifier ++ ending)).find? s.isFile := by
    refine List.find?_congr fun path hpath => ?_
    obtain ⟨ending, hending, rfl⟩ := List.mem_map.mp hpath
    rw [isFile, isFile, h.read _ _ hending]
  simp only [FileStore.resolveReference, hfind]

/-- What an identifier means is one of the candidates. -/
theorem candidate_of_resolveReference {source identifier path : String}
    (h : s.resolveReference source identifier = .ok path) :
    ∃ ending ∈ schemaEndings,
      path = Path.join (Path.dirName source) (trim identifier ++ ending) := by
  simp only [FileStore.resolveReference] at h
  split at h
  · cases h
  · split at h
    next found =>
      cases h
      obtain ⟨ending, hending, rfl⟩ := List.mem_map.mp (List.mem_of_find?_eq_some found)
      exact ⟨ending, hending, rfl⟩
    next => cases h

theorem mem_allPaths_iff {path : String} :
    path ∈ s.allPaths ↔ ∃ p, (s.fileAt? p).isSome = true ∧ pathOf p = path := by
  simp only [allPaths, List.mem_map, FileStore.fileAt?, List.lookup_isSome_iff, beq_iff_eq]
  constructor
  · rintro ⟨f, hf, rfl⟩
    exact ⟨f.1, ⟨f, hf, rfl⟩, rfl⟩
  · rintro ⟨p, ⟨f, hf, rfl⟩, rfl⟩
    exact ⟨f, hf, rfl⟩

/-- The name of a place stands behind the last slash of its path, and so a path that ends like that
of a schema file is that of one. -/
theorem namesSchema_of_pathOf {p : Place} {ending : String} (hending : ending ∈ schemaEndings)
    (h : ending.toList <:+ (pathOf p).toList) : NamesSchema p := by
  rcases List.eq_nil_or_concat' p with rfl | ⟨above, last, rfl⟩
  · have hroot : ∀ e ∈ schemaEndings, ¬ e.toList <:+ (pathOf []).toList := by decide
    exact absurd h (hroot ending hending)
  · have hlast : '/' :: last.toList <:+ (pathOf (above ++ [last])).toList := by
      by_cases habove : above = []
      · simp [habove, pathOf, Path.ofParts]
      · rw [pathOf, Path.ofParts, if_pos rfl, String.intercalate_append_of_ne_nil habove (by simp),
          String.intercalate_singleton]
        exact ⟨('/' :: ("/".intercalate above).toList), by simp⟩
    refine ⟨above, last, rfl, ending, hending, ?_⟩
    rcases Nat.lt_or_ge last.toList.length ending.toList.length with hlen | hlen
    · have hmem := (List.suffix_of_suffix_length_le hlast h hlen).mem List.mem_cons_self
      exact absurd hmem (no_slash_schemaEndings ending hending)
    · exact List.suffix_of_suffix_length_le h ((List.suffix_cons _ _).trans hlast) hlen

/-- The last part of a candidate is that of the identifier, with an ending. -/
theorem exists_candidate_eq (source : String) {name last ending : String} {before : List String}
    (hparts : Path.parts name = before ++ [last]) (h : ending ∈ schemaEndings) :
    ∃ rooted above, Path.IsClean rooted (above ++ [last ++ ending]) ∧
      Path.join (Path.dirName source) (name ++ ending) =
        Path.ofParts rooted (above ++ [last ++ ending]) := by
  have hlast : '/' ∉ last.toList :=
    Path.no_slash_of_mem_parts (show last ∈ Path.parts name by simp [hparts])
  have hname := Path.isName_append_schemaEnding hlast h
  have hdir : Path.dirName source ≠ "" := Path.ofParts_ne_empty _ _
  have hall : Path.parts (Path.dirName source ++ "/" ++ (name ++ ending)) =
      (Path.parts (Path.dirName source) ++ before) ++ [last ++ ending] := by
    rw [Path.parts_append_slash, Path.parts_append_eq hparts (no_slash_schemaEndings ending h),
      List.append_assoc]
  have hfree : ∀ part ∈ Path.parts (Path.dirName source) ++ before ++ [last ++ ending],
      '/' ∉ part.toList := by
    rw [← hall]
    exact fun part hpart => Path.no_slash_of_mem_parts hpart
  generalize hpath : Path.dirName source ++ "/" ++ (name ++ ending) = path at hall
  have hclean := Path.isClean_cleanParts (Path.isRooted path) hfree
  rw [Path.cleanParts_concat hname] at hclean
  refine ⟨Path.isRooted path, _, hclean, ?_⟩
  rw [Path.join_eq_clean hdir, hpath, Path.clean, hall, Path.cleanParts_concat hname]

theorem suffix_candidate (source name : String) {ending : String} (h : ending ∈ schemaEndings) :
    ending.toList <:+ (Path.join (Path.dirName source) (name ++ ending)).toList := by
  obtain ⟨before, last, hlast, hparts⟩ := Path.exists_parts_eq name
  obtain ⟨rooted, above, -, hjoin⟩ := exists_candidate_eq source hparts h
  rw [hjoin]
  refine List.IsSuffix.trans ?_
    (Path.suffix_ofParts _ _ (Path.isName_append_schemaEnding hlast h).ne_empty)
  rw [String.toList_append]
  exact List.suffix_append _ _

theorem SameSchemas.loadRooted (h : SameSchemas s t) {source identifier path : String}
    (hpath : s.resolveReference source identifier = .ok path) :
    t.loadRooted path = s.loadRooted path := by
  obtain ⟨ending, hending, rfl⟩ := candidate_of_resolveReference hpath
  generalize trim identifier = name
  have hall : t.allPaths.contains (Path.join (Path.dirName source) (name ++ ending)) =
      s.allPaths.contains (Path.join (Path.dirName source) (name ++ ending)) := by
    rw [Bool.eq_iff_iff, List.contains_iff_mem, List.contains_iff_mem, mem_allPaths_iff,
      mem_allPaths_iff]
    refine exists_congr fun p => and_congr_left fun hp => ?_
    have hnames : NamesSchema p :=
      namesSchema_of_pathOf hending (hp ▸ suffix_candidate source name hending)
    rw [h.fileAt? p hnames]
  rw [FileStore.loadRooted, FileStore.loadRooted, hall, loadSchema, loadSchema,
    h.read source name hending, absolute, absolute, cwdPath, cwdPath, h.cwd]

theorem loader_resolve (s : FileStore) : s.loader.resolve = s.resolveReference := by
  rw [loader]

theorem loader_load (s : FileStore) : s.loader.load = s.loadRooted := by
  rw [loader]

/-- **References lead to the same schemas as long as no schema file changes.** -/
theorem SameSchemas.agree (h : SameSchemas s t) : s.loader.Agree t.loader := by
  constructor
  · intro source identifier
    rw [loader_resolve, loader_resolve, h.resolveReference]
  · intro source identifier path hpath
    rw [loader_resolve] at hpath
    rw [loader_load, loader_load, h.loadRooted hpath]

end FileStore

end SchemaGen
