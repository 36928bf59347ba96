import SchemaGen.Proofs.Catalog.Strict

/-!
# The order of references

Which schema an import is found in may depend on the order in which references are listed: the first
one met wins. A strict catalog does not depend on it. Two families of schemas that differ in that
order only (`Schema.Reorders`, `Loader.Reorders`) have the same reachable paths, since what is
reachable is told without any order (`Loader.Reorders.exists_reaches`). And a strict catalog answers
from what is reachable alone, since no two imports export a name that it could have to choose for
(`originOf?_iff_of_strict`).
-/

set_option autoImplicit false

namespace SchemaGen

/-! ## Families that differ in the order of references -/

/-- The same object, but for the order in which its metadata lists references. -/
def SchemaObject.Reorders (o o' : SchemaObject) : Prop :=
  ∃ references, references.Perm o.metadata.references ∧
    o' = { o with metadata := { o.metadata with references } }

/-- The same schema, but for the order in which metadata objects list references. -/
structure Schema.Reorders (s s' : Schema) : Prop where
  name : s'.name = s.name
  path : s'.path = s.path
  objects : List.Forall₂ SchemaObject.Reorders s.objects s'.objects

/-- The same files, but for the order of references in them: identifiers resolve alike, and from
every path either both load a schema, or neither does. -/
structure Loader.Reorders (l l' : Loader) : Prop where
  resolve : ∀ source identifier, l'.resolve source identifier = l.resolve source identifier
  load : ∀ path, match l.load path, l'.load path with
    | .ok s, .ok s' => s.Reorders s'
    | .error _, .error _ => True
    | _, _ => False

theorem SchemaObject.Reorders.symm {o o' : SchemaObject} (h : o.Reorders o') : o'.Reorders o := by
  obtain ⟨references, hperm, rfl⟩ := h
  exact ⟨o.metadata.references, hperm.symm, rfl⟩

namespace Schema.Reorders

variable {s s' : Schema}

theorem symm (h : s.Reorders s') : s'.Reorders s where
  name := h.name.symm
  path := h.path.symm
  objects := h.objects.flip.imp fun _ _ ho => SchemaObject.Reorders.symm ho

/-- The references of a schema are listed by its first metadata object, which is the same one. -/
theorem references (h : s.Reorders s') : s'.references.Perm s.references := by
  have hobjects := h.objects
  unfold Schema.references Schema.metadata?
  generalize s.objects = os, s'.objects = os' at hobjects ⊢
  induction hobjects with
  | nil => exact .nil
  | @cons o o' os os' ho _ ih =>
    obtain ⟨references, hperm, rfl⟩ := ho
    rw [List.find?_cons, List.find?_cons]
    by_cases htype : o.type = .metadata
    · simpa [htype] using hperm
    · simpa [htype] using ih

/-- Names and types of objects are the same. -/
theorem kinds (h : s.Reorders s') :
    s'.objects.map (fun o => (o.name, o.type)) = s.objects.map fun o => (o.name, o.type) := by
  have hobjects := h.objects
  generalize s.objects = os, s'.objects = os' at hobjects ⊢
  induction hobjects with
  | nil => rfl
  | cons ho _ ih =>
    obtain ⟨references, -, rfl⟩ := ho
    rw [List.map_cons, List.map_cons, ih]

/-- So the same names and types are found in both. -/
theorem exists_object_iff (h : s.Reorders s') {P : String → ObjectType → Prop} :
    (∃ o ∈ s'.objects, P o.name o.type) ↔ ∃ o ∈ s.objects, P o.name o.type := by
  have hkinds (t : Schema) : (∃ o ∈ t.objects, P o.name o.type) ↔
      ∃ k ∈ t.objects.map (fun o => (o.name, o.type)), P k.1 k.2 := by
    simp only [List.mem_map, exists_exists_and_eq_and]
  rw [hkinds, hkinds, h.kinds]

theorem holds_iff (h : s.Reorders s') {name : String} :
    (Origin.ofSchema s').Holds name ↔ (Origin.ofSchema s).Holds name :=
  h.exists_object_iff (P := fun n t => n = name ∧ t.isExported = true)

end Schema.Reorders

namespace Loader.Reorders

variable {l l' : Loader} {root root' s s' t : Schema} {path reference : String}

theorem symm (h : l.Reorders l') : l'.Reorders l where
  resolve source identifier := (h.resolve source identifier).symm
  load path := by
    have hload := h.load path
    cases hl : l.load path <;> cases hl' : l'.load path <;> rw [hl, hl'] at hload
    · trivial
    · exact hload
    · exact hload
    · exact hload.symm

theorem exists_load (h : l.Reorders l') (hs : l.load path = .ok s) :
    ∃ s', l'.load path = .ok s' ∧ s.Reorders s' := by
  have hload := h.load path
  rw [hs] at hload
  cases hl' : l'.load path with
  | error cause =>
    rw [hl'] at hload
    cases hload
  | ok s' =>
    rw [hl'] at hload
    exact ⟨s', rfl, hload⟩

theorem faithful (h : l.Reorders l') (hf : l.Faithful) : l'.Faithful := by
  intro path s' hs'
  obtain ⟨s, hs, hreorders⟩ := h.symm.exists_load hs'
  exact hreorders.path.symm.trans (hf hs)

theorem exists_fetch (h : l.Reorders l') (hroot : root.Reorders root')
    (hs : l.fetch root path = .ok s) : ∃ s', l'.fetch root' path = .ok s' ∧ s.Reorders s' := by
  unfold Loader.fetch at hs ⊢
  rw [hroot.path]
  split at hs
  next hpath =>
    cases hs
    exact ⟨root', if_pos hpath, hroot⟩
  next hpath =>
    obtain ⟨s', hs', hreorders⟩ := h.exists_load hs
    exact ⟨s', (if_neg hpath).trans hs', hreorders⟩

theorem exists_target (h : l.Reorders l') (hroot : root.Reorders root') (hs : s.Reorders s')
    (ht : l.target root s reference = .ok t) :
    ∃ t', l'.target root' s' reference = .ok t' ∧ t.Reorders t' := by
  unfold Loader.target at ht ⊢
  rw [h.resolve, hs.path]
  cases hresolve : l.resolve s.path reference with
  | error cause =>
    rw [hresolve] at ht
    cases ht
  | ok path =>
    rw [hresolve] at ht
    exact h.exists_fetch hroot ht

/-- **What references lead to.** The order in which they are listed does not matter for it. -/
theorem exists_reaches (h : l.Reorders l') (hroot : root.Reorders root') (hs : l.Reaches root s) :
    ∃ s', l'.Reaches root' s' ∧ s.Reorders s' := by
  induction hs with
  | refl => exact ⟨root', .refl, hroot⟩
  | @tail s t _ hst ih =>
    obtain ⟨s', hs', hreorders⟩ := ih
    obtain ⟨reference, hreference, ht⟩ := hst
    obtain ⟨t', ht', htreorders⟩ := h.exists_target hroot hreorders ht
    exact ⟨t', hs'.tail ⟨reference, hreorders.references.mem_iff.mpr hreference, ht'⟩, htreorders⟩

end Loader.Reorders

namespace Catalog

/-! ## A strict catalog, told without an order -/

/-- Every reference of every schema that references lead to leads on. -/
def Closed (loader : Loader) (root : Schema) : Prop :=
  ∀ s, loader.Reaches root s → ∀ reference ∈ s.references,
    ∃ t, loader.target root s reference = .ok t

/-- A name that the local schema does not export is exported under one path at most. -/
def Unambiguous (loader : Loader) (root : Schema) : Prop :=
  ∀ name, ¬ (Origin.ofSchema root).Holds name → ∀ s t, loader.Reaches root s →
    loader.Reaches root t → (Origin.ofSchema s).Holds name → (Origin.ofSchema t).Holds name →
      s.path = t.path

variable {loader : Loader} {root s : Schema} {c : Catalog}

/-- The origins of a catalog, as schemas: the local one first, all that references lead to, and no
path twice. -/
structure Gathers (loader : Loader) (root : Schema) (c : Catalog) (l : List Schema) : Prop where
  origins : c.origins = l.map .ofSchema
  first : l[0]? = some root
  mem_iff : ∀ s, s ∈ l ↔ loader.Reaches root s
  distinct : (l.map (·.path)).Nodup

theorem exists_gathers (hf : loader.Faithful) (h : (build loader false root).result = .ok c) :
    Closed loader root ∧ ∃ l, Gathers loader root c l := by
  have hrun := build_explores hf root
  rw [h] at hrun
  obtain ⟨found, hexplored, horigins⟩ := hrun
  refine ⟨fun s hs reference hreference => ?_, _, horigins, rfl, fun s => hexplored.mem_iff_reaches,
    hexplored.distinct⟩
  obtain ⟨t, -, ht⟩ := hexplored.exists_target (hexplored.mem_iff_reaches.mpr hs) hreference
  exact ⟨t, ht⟩

theorem exists_build_of_closed (hf : loader.Faithful) (h : Closed loader root) :
    ∃ c, (build loader false root).result = .ok c := by
  have hrun := build_explores hf root
  cases hresult : (build loader false root).result with
  | ok c => exact ⟨c, rfl⟩
  | error fault =>
    -- the reference at which the traversal failed leads on
    rw [hresult] at hrun
    obtain ⟨found, stop, s, reference, cause, hexplored, hplace, htarget, -⟩ := hrun
    obtain ⟨hs, hreference⟩ := mem_of_referenceAt hplace
    obtain ⟨t, ht⟩ := h s (hexplored.reached s hs).2 reference hreference
    cases htarget.symm.trans ht

theorem strict_eq_ok_iff : (build loader true root).result = .ok c ↔
    (build loader false root).result = .ok c ∧ ¬ Ambiguous c.origins := by
  have hrun := addAll_strict loader [root.path] [root] (c := {}) fun _ => rfl
  rw [← result_build, ← result_build] at hrun
  rcases hrun with ⟨hsame, hfree⟩ | ⟨fault, hfault, hnames⟩
  · rw [hsame]
    refine ⟨fun hc => ⟨hc, fun hambiguous => ?_⟩, And.left⟩
    obtain ⟨p, hp⟩ := ambiguous_iff.mp hambiguous
    exact hfree c hc p (Nat.zero_le _) hp
  · rw [hfault]
    refine ⟨fun hc => (nomatch hc), fun ⟨hc, hclear⟩ => ?_⟩
    obtain ⟨p, _, _, _, _, ⟨⟨-, hp⟩, -⟩, -⟩ := hnames c hc
    exact absurd (ambiguous_iff.mpr ⟨p, hp⟩) hclear

section Gathered

variable {l : List Schema} {name : String}

/-- The exporters of a name are the schemas that hold it. -/
theorem Gathers.mem_exporters_iff (h : Gathers loader root c l) {place : Nat} :
    place ∈ exporters c.origins name ↔
      ∃ s, l[place]? = some s ∧ (Origin.ofSchema s).Holds name := by
  show (∃ o, c.origins[place]? = some o ∧ name ∈ o.exports) ↔ _
  simp only [h.origins, List.getElem?_map, Option.map_eq_some_iff]
  constructor
  · rintro ⟨_, ⟨s, hs, rfl⟩, hname⟩
    exact ⟨s, hs, (Origin.mem_exports_iff s name).mp hname⟩
  · rintro ⟨s, hs, hname⟩
    exact ⟨_, ⟨s, hs, rfl⟩, (Origin.mem_exports_iff s name).mpr hname⟩

theorem Gathers.zero_mem_exporters_iff (h : Gathers loader root c l) :
    0 ∈ exporters c.origins name ↔ (Origin.ofSchema root).Holds name := by
  rw [h.mem_exporters_iff, h.first]
  simp

/-- A path has one place. -/
theorem Gathers.eq_of_path_eq (h : Gathers loader root c l) {i j : Nat} {s t : Schema}
    (hs : l[i]? = some s) (ht : l[j]? = some t) (hpath : s.path = t.path) : i = j := by
  obtain ⟨hi, rfl⟩ := List.getElem?_eq_some_iff.mp hs
  obtain ⟨hj, rfl⟩ := List.getElem?_eq_some_iff.mp ht
  have hi' : i < (l.map (·.path)).length := by rwa [List.length_map]
  have hj' : j < (l.map (·.path)).length := by rwa [List.length_map]
  have hsame : (l.map (·.path))[i] = (l.map (·.path))[j] := by
    rw [List.getElem_map, List.getElem_map]
    exact hpath
  exact h.distinct.getElem_inj_iff.mp hsame

theorem Gathers.ambiguous_iff (h : Gathers loader root c l) :
    ¬ Ambiguous c.origins ↔ Unambiguous loader root := by
  unfold Ambiguous
  simp only [h.zero_mem_exporters_iff, h.mem_exporters_iff]
  constructor
  · intro hclear name hlocal s t hs ht hsname htname
    by_contra hpath
    obtain ⟨i, hi⟩ := List.getElem?_of_mem ((h.mem_iff s).mpr hs)
    obtain ⟨j, hj⟩ := List.getElem?_of_mem ((h.mem_iff t).mpr ht)
    refine hclear ⟨name, hlocal, i, ⟨s, hi, hsname⟩, j, ⟨t, hj, htname⟩, ?_⟩
    rintro rfl
    cases hi.symm.trans hj
    exact hpath rfl
  · rintro hclear ⟨name, hlocal, i, ⟨s, hs, hsname⟩, j, ⟨t, ht, htname⟩, hne⟩
    have hsreach := (h.mem_iff s).mp (List.mem_of_getElem? hs)
    have htreach := (h.mem_iff t).mp (List.mem_of_getElem? ht)
    exact hne (h.eq_of_path_eq hs ht (hclear name hlocal s t hsreach htreach hsname htname))

end Gathered

/-- **When a strict catalog is built.** -/
theorem exists_strict_iff (hf : loader.Faithful) :
    (∃ c, (build loader true root).result = .ok c) ↔
      Closed loader root ∧ Unambiguous loader root := by
  constructor
  · rintro ⟨c, hc⟩
    obtain ⟨hlenient, hclear⟩ := strict_eq_ok_iff.mp hc
    obtain ⟨hclosed, l, hl⟩ := exists_gathers hf hlenient
    exact ⟨hclosed, hl.ambiguous_iff.mp hclear⟩
  · rintro ⟨hclosed, hclear⟩
    obtain ⟨c, hc⟩ := exists_build_of_closed hf hclosed
    obtain ⟨-, l, hl⟩ := exists_gathers hf hc
    exact ⟨c, strict_eq_ok_iff.mpr ⟨hc, hl.ambiguous_iff.mpr hclear⟩⟩

/-- **Whose a name is in a strict catalog.** The local schema goes first, and otherwise there is no
choice. -/
theorem originOf?_iff_of_strict (hf : loader.Faithful)
    (h : (build loader true root).result = .ok c) {name schema : String} :
    c.originOf? name = some schema ↔
      ∃ s, loader.Reaches root s ∧ (Origin.ofSchema s).Holds name ∧
        ((Origin.ofSchema root).Holds name → s.path = root.path) ∧ s.name = schema := by
  obtain ⟨hlenient, hclear⟩ := strict_eq_ok_iff.mp h
  obtain ⟨-, l, hl⟩ := exists_gathers hf hlenient
  have hindexed := (coherent_of_build h).indexed
  have hschema {place : Nat} {s : Schema} (hs : l[place]? = some s) :
      c.schemaAt place = s.name := by
    rw [schemaAt, hl.origins, List.getElem?_map, hs]
    rfl
  rw [originOf?, Option.map_eq_some_iff]
  constructor
  · rintro ⟨place, hplace, rfl⟩
    have hleast := hindexed.placeOf?_eq_some_iff.mp hplace
    obtain ⟨s, hs, hname⟩ := hl.mem_exporters_iff.mp hleast.1
    refine ⟨s, (hl.mem_iff s).mp (List.mem_of_getElem? hs), hname, fun hlocal => ?_,
      (hschema hs).symm⟩
    have hzero := Nat.le_zero.mp (hleast.2 (hl.zero_mem_exporters_iff.mpr hlocal))
    rw [hzero, hl.first] at hs
    cases hs
    rfl
  · rintro ⟨s, hs, hname, hlocal, rfl⟩
    obtain ⟨place, hplace⟩ := List.getElem?_of_mem ((hl.mem_iff s).mpr hs)
    refine ⟨place, hindexed.placeOf?_eq_some_iff.mpr
      ⟨hl.mem_exporters_iff.mpr ⟨s, hplace, hname⟩, ?_⟩, hschema hplace⟩
    intro place' hplace'
    by_cases hroot : (Origin.ofSchema root).Holds name
    · rw [hl.eq_of_path_eq hplace hl.first (hlocal hroot)]
      exact Nat.zero_le _
    · obtain ⟨t, ht, htname⟩ := hl.mem_exporters_iff.mp hplace'
      have htreach := (hl.mem_iff t).mp (List.mem_of_getElem? ht)
      have hpath := hl.ambiguous_iff.mp hclear name hroot s t hs htreach hname htname
      exact (hl.eq_of_path_eq hplace ht hpath).le

/-! ## Two families -/

section Reordered

variable {l l' : Loader} {s s' : Schema} {c c' : Catalog} {name : String}

theorem closed_of_reorders (hl : l.Reorders l') (hs : s.Reorders s') (h : Closed l s) :
    Closed l' s' := by
  intro t' ht' reference hreference
  obtain ⟨t, ht, hreorders⟩ := hl.symm.exists_reaches hs.symm ht'
  obtain ⟨u, hu⟩ := h t ht reference (hreorders.references.mem_iff.mpr hreference)
  obtain ⟨u', hu', -⟩ := hl.exists_target hs hreorders.symm hu
  exact ⟨u', hu'⟩

theorem unambiguous_of_reorders (hl : l.Reorders l') (hs : s.Reorders s') (h : Unambiguous l s) :
    Unambiguous l' s' := by
  intro name hlocal t' u' ht' hu' htname huname
  obtain ⟨t, ht, htreorders⟩ := hl.symm.exists_reaches hs.symm ht'
  obtain ⟨u, hu, hureorders⟩ := hl.symm.exists_reaches hs.symm hu'
  have hpath := h name (fun hname => hlocal (hs.holds_iff.mpr hname)) t u ht hu
    (htreorders.holds_iff.mpr htname) (hureorders.holds_iff.mpr huname)
  rw [← htreorders.path, ← hureorders.path, hpath]

theorem originOf?_of_reorders (hf : l.Faithful) (hl : l.Reorders l') (hs : s.Reorders s')
    (h : (build l true s).result = .ok c) (h' : (build l' true s').result = .ok c')
    {schema : String} (hname : c.originOf? name = some schema) :
    c'.originOf? name = some schema := by
  obtain ⟨t, ht, hholds, hlocal, rfl⟩ := (originOf?_iff_of_strict hf h).mp hname
  obtain ⟨t', ht', hreorders⟩ := hl.exists_reaches hs ht
  refine (originOf?_iff_of_strict (hl.faithful hf) h').mpr
    ⟨t', ht', hreorders.holds_iff.mpr hholds, fun hroot => ?_, hreorders.name⟩
  rw [hreorders.path, hs.path, hlocal (hs.holds_iff.mp hroot)]

theorem primitive?_of_reorders (hf : l.Faithful) (hl : l.Reorders l') (hs : s.Reorders s')
    (h : (build l true s).result = .ok c) (h' : (build l' true s').result = .ok c')
    {primitive : String} (hname : c.primitive? name = some primitive) :
    c'.primitive? name = some primitive := by
  obtain ⟨-, schemas, hg⟩ := exists_gathers hf (strict_eq_ok_iff.mp h).1
  obtain ⟨-, schemas', hg'⟩ := exists_gathers (hl.faithful hf) (strict_eq_ok_iff.mp h').1
  rw [(coherent_of_build h').primitive?_eq_some_iff]
  obtain ⟨htable, o, ho, hdeclares⟩ := (coherent_of_build h).primitive?_eq_some_iff.mp hname
  rw [hg.origins] at ho
  obtain ⟨t, ht, rfl⟩ := List.mem_map.mp ho
  obtain ⟨t', ht', hreorders⟩ := hl.exists_reaches hs ((hg.mem_iff t).mp ht)
  refine ⟨htable, .ofSchema t', ?_, ?_⟩
  · rw [hg'.origins]
    exact List.mem_map_of_mem ((hg'.mem_iff t').mpr ht')
  · obtain ⟨o, ho, htype, honame⟩ := hdeclares
    obtain ⟨o', ho', honame', htype'⟩ := (hreorders.exists_object_iff
      (P := fun n type => n = name ∧ type = .dataType)).mpr ⟨o, ho, honame, htype⟩
    exact ⟨o', ho', htype', honame'⟩

theorem mem_paths_of_reorders (hf : l.Faithful) (hl : l.Reorders l') (hs : s.Reorders s')
    (h : (build l true s).result = .ok c) (h' : (build l' true s').result = .ok c') {path : String}
    (hpath : path ∈ c.origins.map (·.path)) : path ∈ c'.origins.map (·.path) := by
  obtain ⟨-, schemas, hg⟩ := exists_gathers hf (strict_eq_ok_iff.mp h).1
  obtain ⟨-, schemas', hg'⟩ := exists_gathers (hl.faithful hf) (strict_eq_ok_iff.mp h').1
  rw [hg.origins, List.map_map] at hpath
  obtain ⟨t, ht, rfl⟩ := List.mem_map.mp hpath
  obtain ⟨t', ht', hreorders⟩ := hl.exists_reaches hs ((hg.mem_iff t).mp ht)
  rw [hg'.origins, List.map_map]
  exact List.mem_map.mpr ⟨t', (hg'.mem_iff t').mpr ht', hreorders.path⟩

end Reordered

theorem Gathers.nodup_paths {loader : Loader} {root : Schema} {c : Catalog} {l : List Schema}
    (h : Gathers loader root c l) : (c.origins.map (·.path)).Nodup := by
  rw [h.origins, List.map_map]
  exact h.distinct

/-- A listing is told by its entries: they go up. -/
theorem Coherent.entries_eq {c c' : Catalog} (hc : Coherent c) (hc' : Coherent c')
    (h : ∀ name, c'.originOf? name = c.originOf? name) : c'.entries = c.entries := by
  have hnodup {c : Catalog} (hc : Coherent c) : c.entries.Nodup := by
    refine List.Pairwise.imp ?_ hc.entries_increasing
    rintro a _ hlt rfl
    exact String.lt_irrefl a.1 hlt
  have hperm : c'.entries.Perm c.entries := by
    refine (List.perm_ext_iff_of_nodup (hnodup hc') (hnodup hc)).mpr fun ⟨name, schema⟩ => ?_
    rw [hc'.mem_entries_iff, hc.mem_entries_iff, h]
  refine hperm.eq_of_pairwise (fun a b _ _ hab hba => ?_) hc'.entries_increasing
    hc.entries_increasing
  exact absurd hba (String.lt_asymm hab)

/-- **Strict resolution does not depend on the order of references.** Take any loader whose schemas
know their paths and any schema, and list the references in all of them in other orders. If the
strict catalog of the one family is built, then that of the other is. The origins have the same
paths, and every name has the same origin, is local to both or to neither and stands for the same
primitive. The listings are equal. -/
theorem strict_ignores_reference_order {l l' : Loader} {s s' : Schema} {c : Catalog}
    (hf : l.Faithful) (hl : l.Reorders l') (hs : s.Reorders s')
    (h : (build l true s).result = .ok c) :
    ∃ c', (build l' true s').result = .ok c' ∧
      (c'.origins.map (·.path)).Perm (c.origins.map (·.path)) ∧
      (∀ name, c'.originOf? name = c.originOf? name ∧ c'.isLocal name = c.isLocal name ∧
        c'.primitive? name = c.primitive? name) ∧
      c'.entries = c.entries := by
  have hf' : l'.Faithful := hl.faithful hf
  obtain ⟨hclosed, hclear⟩ := (exists_strict_iff hf).mp ⟨c, h⟩
  obtain ⟨c', h'⟩ := (exists_strict_iff hf').mpr
    ⟨closed_of_reorders hl hs hclosed, unambiguous_of_reorders hl hs hclear⟩
  have horigin (name : String) : c'.originOf? name = c.originOf? name :=
    Option.ext fun _ => ⟨originOf?_of_reorders hf' hl.symm hs.symm h' h,
      originOf?_of_reorders hf hl hs h h'⟩
  refine ⟨c', h', ?_, fun name => ⟨horigin name, ?_, ?_⟩,
    (coherent_of_build h).entries_eq (coherent_of_build h') horigin⟩
  · obtain ⟨-, schemas, hg⟩ := exists_gathers hf (strict_eq_ok_iff.mp h).1
    obtain ⟨-, schemas', hg'⟩ := exists_gathers hf' (strict_eq_ok_iff.mp h').1
    exact (List.perm_ext_iff_of_nodup hg'.nodup_paths hg.nodup_paths).mpr fun path =>
      ⟨mem_paths_of_reorders hf' hl.symm hs.symm h' h, mem_paths_of_reorders hf hl hs h h'⟩
  · rw [Bool.eq_iff_iff, isLocal_iff h, isLocal_iff h']
    exact hs.exists_object_iff (P := fun n type => n = name ∧ type.isExported = true)
  · exact Option.ext fun _ => ⟨primitive?_of_reorders hf' hl.symm hs.symm h' h,
      primitive?_of_reorders hf hl hs h h'⟩

end Catalog

/-! ## Two orders of a ring -/

namespace SchemaSet

variable {set set' : SchemaSet}

theorem lookup_reorders {es es' : List (String × Schema)} (path : String)
    (h : List.Forall₂ (fun e e' => e'.1 = e.1 ∧ e.2.Reorders e'.2) es es') :
    Option.Rel Schema.Reorders (es.lookup path) (es'.lookup path) := by
  induction h with
  | nil => exact .none
  | @cons e e' es es' he _ ih =>
    obtain ⟨key, s⟩ := e
    obtain ⟨key', s'⟩ := e'
    obtain ⟨rfl, hreorders⟩ := he
    rw [List.lookup_cons, List.lookup_cons]
    cases path == key' with
    | true => exact .some hreorders
    | false => exact ih

/-- Schemas held in memory under the same names, each with its references in another order. -/
theorem loader_reorders (haliases : set'.aliases = set.aliases) (hbroken : set'.broken = set.broken)
    (h : List.Forall₂ (fun e e' => e'.1 = e.1 ∧ e.2.Reorders e'.2) set.entries set'.entries) :
    set.loader.Reorders set'.loader where
  resolve source identifier := by
    show set'.resolve identifier = set.resolve identifier
    have hlookup := lookup_reorders identifier h
    unfold resolve
    rw [haliases]
    cases hfirst : set.entries.lookup identifier <;>
      cases hsecond : set'.entries.lookup identifier <;>
        rw [hfirst, hsecond] at hlookup <;> first | rfl | cases hlookup
  load path := by
    show match set.load path, set'.load path with
      | .ok s, .ok s' => s.Reorders s'
      | .error _, .error _ => True
      | _, _ => False
    have hlookup := lookup_reorders path h
    unfold load
    rw [hbroken]
    cases set.broken.contains path with
    | true => trivial
    | false =>
      cases hfirst : set.entries.lookup path <;> cases hsecond : set'.entries.lookup path <;>
        rw [hfirst, hsecond] at hlookup
      · trivial
      · cases hlookup
      · cases hlookup
      · cases hlookup with
        | some hreorders => exact hreorders

end SchemaSet

/-- A schema that refers to these others, at the path of its own name, and exports these. -/
def exportingSchema (name : String) (references exports : List String) : Schema where
  name := name
  path := name
  objects := { name := "Schema", type := .metadata, metadata := { references } } ::
    { name := "Integer", type := .dataType } ::
      exports.map fun name => { name, type := .dataGroup }

theorem exportingSchema_reorders {name : String} {references references' exports : List String}
    (h : references'.Perm references) :
    (exportingSchema name references exports).Reorders
      (exportingSchema name references' exports) where
  name := rfl
  path := rfl
  objects := .cons ⟨references', h, rfl⟩ (List.forall₂_same.mpr fun _ _ => ⟨_, .refl _, rfl⟩)

/-- Two schemas that refer to each other. Both export `Map`; no other name is exported twice. -/
def exchangeSet (referencesOfB : List String) : SchemaSet where
  entries := [("B", exportingSchema "B" referencesOfB ["Map", "Unit"]),
    ("C", exportingSchema "C" ["B"] ["Map", "Size"])]
  aliases := [("A", "A")]

/-- `B` and `C` are met in the order in which `A` lists them. Both orders give the same answers,
since `Map` belongs to `A` anyway. -/
theorem strict_ignores_reference_order_ring :
    (exchangeSet ["A", "C"]).loader.Faithful ∧
    (exchangeSet ["A", "C"]).loader.Reorders (exchangeSet ["C", "A"]).loader ∧
    (exportingSchema "A" ["B", "C"] ["Map"]).Reorders (exportingSchema "A" ["C", "B"] ["Map"]) ∧
    ∃ c c', (Catalog.build (exchangeSet ["A", "C"]).loader true
        (exportingSchema "A" ["B", "C"] ["Map"])).result = .ok c ∧
      (Catalog.build (exchangeSet ["C", "A"]).loader true
        (exportingSchema "A" ["C", "B"] ["Map"])).result = .ok c' ∧
      c.origins.map (·.path) = ["A", "B", "C"] ∧ c'.origins.map (·.path) = ["A", "C", "B"] ∧
      ["Map", "Unit", "Size"].map c'.originOf? = [some "A", some "B", some "C"] ∧
      c'.isLocal "Map" = true ∧ c'.primitive? "Integer" = some "int" ∧ c'.entries = c.entries := by
  have hfaithful : (exchangeSet ["A", "C"]).loader.Faithful := by
    refine SchemaSet.faithful_loader fun e he => ?_
    simp only [exchangeSet, List.mem_cons, List.not_mem_nil, or_false] at he
    rcases he with rfl | rfl <;> rfl
  have hloader : (exchangeSet ["A", "C"]).loader.Reorders (exchangeSet ["C", "A"]).loader :=
    SchemaSet.loader_reorders rfl rfl <| .cons ⟨rfl, exportingSchema_reorders (.swap "A" "C" [])⟩ <|
      .cons ⟨rfl, exportingSchema_reorders (.refl _)⟩ .nil
  have hschema : (exportingSchema "A" ["B", "C"] ["Map"]).Reorders
      (exportingSchema "A" ["C", "B"] ["Map"]) :=
    exportingSchema_reorders (.swap "B" "C" [])
  have hview : (Catalog.build (exchangeSet ["A", "C"]).loader true
      (exportingSchema "A" ["B", "C"] ["Map"])).result.toOption.map
        (fun c => (c.origins.map (·.path), ["Map", "Unit", "Size"].map c.originOf?,
          c.isLocal "Map", c.primitive? "Integer")) =
      some (["A", "B", "C"], [some "A", some "B", some "C"], true, some "int") := by
    decide +kernel
  have hview' : (Catalog.build (exchangeSet ["C", "A"]).loader true
      (exportingSchema "A" ["C", "B"] ["Map"])).result.toOption.map
        (fun c => c.origins.map (·.path)) = some ["A", "C", "B"] := by
    decide +kernel
  obtain ⟨c, hc, hview⟩ := Option.map_eq_some_iff.mp hview
  simp only [Prod.mk.injEq] at hview
  obtain ⟨hpaths, horigins, hlocal, hprimitive⟩ := hview
  have hc := eq_ok_of_toOption hc
  obtain ⟨c', hc', -, hnames, hentries⟩ :=
    Catalog.strict_ignores_reference_order hfaithful hloader hschema hc
  rw [hc'] at hview'
  refine ⟨hfaithful, hloader, hschema, c, c', hc, hc', hpaths, Option.some.inj hview', ?_,
    (hnames "Map").2.1.trans hlocal, (hnames "Integer").2.2.trans hprimitive, hentries⟩
  rw [← horigins]
  exact List.map_congr_left fun name _ => (hnames name).1

end SchemaGen
