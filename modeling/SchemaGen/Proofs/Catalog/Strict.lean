import SchemaGen.Proofs.Catalog.BreadthFirst
import SchemaGen.Proofs.Catalog.FirstSeen

/-!
# Strict catalogs

In strict mode a traversal stops in the middle, at a name that two imports export. Here that is
compared with the traversal that does not stop. The two do the same up to the first export that is
repeated (`addObjects_strict`, `add_strict`), and the traversal that went on has all origins, so the
repeated export can be told from its result: it is the first in the order of the catalog that an
earlier origin has, and the local schema has not (`Repeats`).
-/

set_option autoImplicit false

namespace SchemaGen

open Catalog (exporters)

/-! ## Repeated exports -/

/-- The place of an export in a catalog: which origin has it, and where in the list of its
exports. -/
abbrev ExportPlace := Nat ×ₗ Nat

/-- The name that is exported at a place. -/
def exportAt (l : List Origin) (p : ExportPlace) : Option String :=
  l[(ofLex p).1]?.bind fun o => o.exports[(ofLex p).2]?

/-- A name that the first origin does not export is exported here, and was by an earlier origin. -/
def Repeats (l : List Origin) (p : ExportPlace) : Prop :=
  ∃ name, exportAt l p = some name ∧ 0 ∉ exporters l name ∧
    ∃ earlier < (ofLex p).1, earlier ∈ exporters l name

/-- Two origins export a name that the first origin does not. -/
def Ambiguous (l : List Origin) : Prop :=
  ∃ name, 0 ∉ exporters l name ∧
    ∃ place ∈ exporters l name, ∃ place' ∈ exporters l name, place ≠ place'

/-- Among the exports of the origins from a place on, a fault names the first that is repeated, with
the origin that was kept and the one that repeats it. -/
def NamesFirstRepeat (l : List Origin) (start : Nat) (fault : Fault) : Prop :=
  ∃ p name kept o o', IsLeast {p | start ≤ (ofLex p).1 ∧ Repeats l p} p ∧
    exportAt l p = some name ∧ IsLeast (exporters l name) kept ∧ l[kept]? = some o ∧
    l[(ofLex p).1]? = some o' ∧ fault = .ambiguousReference name o.schema o'.schema

theorem ambiguous_iff {l : List Origin} : Ambiguous l ↔ ∃ p, Repeats l p := by
  have hplace {name : String} {place : Nat} (h : place ∈ exporters l name) :
      ∃ j, exportAt l (toLex (place, j)) = some name := by
    obtain ⟨o, ho, hname⟩ := h
    obtain ⟨j, hj⟩ := List.getElem?_of_mem hname
    exact ⟨j, by show l[place]?.bind _ = _; rw [ho]; exact hj⟩
  constructor
  · rintro ⟨name, hlocal, place, h, place', h', hne⟩
    rcases Nat.lt_or_gt_of_ne hne with hlt | hlt
    · obtain ⟨j, hj⟩ := hplace h'
      exact ⟨toLex (place', j), name, hj, hlocal, place, hlt, h⟩
    · obtain ⟨j, hj⟩ := hplace h
      exact ⟨toLex (place, j), name, hj, hlocal, place', hlt, h'⟩
  · rintro ⟨p, name, hname, hlocal, earlier, hlt, hearlier⟩
    obtain ⟨o, ho, hj⟩ := Option.bind_eq_some_iff.mp hname
    exact ⟨name, hlocal, _, ⟨o, ho, List.mem_of_getElem? hj⟩, earlier, hearlier,
      Nat.ne_of_gt hlt⟩

namespace Catalog

/-! ## One schema -/

/-- The place of an import that already exports a name. -/
def keptImport? (c : Catalog) (name : String) : Option Nat :=
  (c.placeOf? name).filter (· ≠ 0)

/-- The fault of a repeated export. -/
def repeatFault (c : Catalog) (schema name : String) : Fault :=
  .ambiguousReference name (c.schemaAt ((c.keptImport? name).getD 0)) schema

/-- An object repeats an export of an import of `c`. -/
def repeatsImport (c : Catalog) (o : SchemaObject) : Bool :=
  o.type.isExported && (c.keptImport? o.name).isSome

theorem Indexed.lt_of_placeOf? {c : Catalog} (hc : Indexed c) {name : String} {place : Nat}
    (h : c.placeOf? name = some place) : place < c.origins.length := by
  rw [hc name] at h
  exact (List.findIdx?_eq_some_iff_getElem.mp h).1

variable {c c₁ : Catalog} {entered : String → Bool}

/-- **One object.** Strictness matters only if an import has exported the name before; what the same
schema has entered since does not count. -/
theorem addObject_strict (hc : Indexed c) (h : Enters c c.origins.length entered c₁)
    (schema : String) (o : SchemaObject) :
    (c₁.addObject true c.origins.length schema o).result =
      if c.repeatsImport o then .error (c.repeatFault schema o.name)
      else (c₁.addObject false c.origins.length schema o).result := by
  unfold addObject repeatsImport
  by_cases hexported : o.type.isExported = true
  · have hdata : o.type ≠ .dataType := by
      rintro hdata
      rw [hdata] at hexported
      cases hexported
    rw [if_neg hdata, if_neg hdata, hexported, if_pos rfl, if_pos rfl, Bool.true_and]
    have hplace : c₁.index.lookup o.name = _ := h.2 o.name
    unfold addExport
    rw [hplace]
    cases hknown : c.placeOf? o.name with
    | none =>
      rw [keptImport?, hknown]
      cases entered o.name <;> simp
    | some earlier =>
      have hlt := hc.lt_of_placeOf? hknown
      rw [Option.some_or]
      dsimp only
      rw [if_neg (Nat.ne_of_lt hlt), if_neg (Nat.ne_of_lt hlt)]
      by_cases hzero : earlier = 0
      · rw [keptImport?, hknown, if_pos hzero, if_pos hzero]
        simp [hzero]
      · have hkept : c.keptImport? o.name = some earlier := by simp [keptImport?, hknown, hzero]
        rw [hkept, if_neg hzero, repeatFault, hkept, schemaAt, schemaAt, h.1]
        rfl
  · simp [hexported]

/-- Several objects: up to the first repeated export there is no difference. -/
theorem addObjects_strict (hc : Indexed c) (schema : String) :
    ∀ {os : List SchemaObject} {entered : String → Bool} {c₁ : Catalog},
      Enters c c.origins.length entered c₁ →
        (addObjects true c.origins.length schema os c₁).result =
          match os.find? c.repeatsImport with
          | none => (addObjects false c.origins.length schema os c₁).result
          | some o => .error (c.repeatFault schema o.name)
  | [], _, _, _ => rfl
  | o :: os, _, c₁, h => by
    rw [addObjects, addObjects, Report.result_andThen, Report.result_andThen,
      addObject_strict hc h, List.find?_cons]
    cases c.repeatsImport o with
    | true => rfl
    | false =>
      obtain ⟨c₂, hc₂⟩ := exists_addObject c₁ c.origins.length schema o
      rw [if_neg Bool.false_ne_true, hc₂]
      exact addObjects_strict hc schema (h.trans (addObject_spec hc₂))

/-- **One schema.** It is refused if it repeats an export of an import, and else added as it would
be otherwise. -/
theorem add_strict (hc : Indexed c) (s : Schema) :
    (c.add true s).result =
      match s.objects.find? c.repeatsImport with
      | none => (c.add false s).result
      | some o => .error (c.repeatFault s.name o.name) := by
  rw [add, add, Report.result_andThen, Report.result_andThen,
    addObjects_strict hc s.name (enters_nothing c _)]
  cases s.objects.find? c.repeatsImport <;> rfl

/-- Which exports of the next schema are repeated can be told from the origins before it. -/
theorem repeats_iff (hc : Indexed c) {s : Schema} {l : List Origin}
    (hl : c.origins ++ [.ofSchema s] <+: l) {j : Nat} :
    Repeats l (toLex (c.origins.length, j)) ↔
      ∃ name, (Origin.ofSchema s).exports[j]? = some name ∧ (c.keptImport? name).isSome = true := by
  obtain ⟨more, rfl⟩ := hl
  have hat : exportAt (c.origins ++ [.ofSchema s] ++ more) (toLex (c.origins.length, j)) =
      (Origin.ofSchema s).exports[j]? := by
    show ((c.origins ++ [.ofSchema s] ++ more)[c.origins.length]?).bind _ = _
    rw [List.append_assoc, List.getElem?_append_right (Nat.le_refl _), Nat.sub_self]
    rfl
  have hbefore {name : String} {place : Nat} (hlt : place < c.origins.length) :
      place ∈ exporters (c.origins ++ [.ofSchema s] ++ more) name ↔
        place ∈ exporters c.origins name := by
    rw [exporters, exporters, Set.mem_ofPred, Set.mem_ofPred, List.append_assoc,
      List.getElem?_append_left hlt]
  refine exists_congr fun name => ?_
  rw [hat]
  refine and_congr_right fun _ => ?_
  rw [keptImport?, Option.isSome_filter]
  cases hplace : c.placeOf? name with
  | none =>
    simp only [Option.any_none, Bool.false_eq_true, iff_false, not_and, not_exists]
    rintro - earlier hlt hmem
    obtain ⟨o, ho, hname⟩ := (hbefore hlt).mp hmem
    rw [hc name, List.findIdx?_eq_none_iff] at hplace
    have := hplace o (List.mem_of_getElem? ho)
    simp [hname] at this
  | some place =>
    have hleast := hc.placeOf?_eq_some_iff.mp hplace
    have hlt := hc.lt_of_placeOf? hplace
    simp only [Option.any_some, decide_eq_true_eq]
    constructor
    · rintro ⟨hlocal, -⟩ rfl
      exact hlocal ((hbefore hlt).mpr hleast.1)
    · intro hne
      refine ⟨fun hlocal => hne ?_, place, hlt, (hbefore hlt).mpr hleast.1⟩
      have hle := hleast.2 ((hbefore (Nat.zero_lt_of_lt hlt)).mp hlocal)
      omega

/-- The first object that repeats an export is the first repeated export. -/
theorem exists_exports_of_find? {s : Schema} {o : SchemaObject}
    (h : s.objects.find? c.repeatsImport = some o) :
    ∃ j : Nat, (Origin.ofSchema s).exports[j]? = some o.name ∧
      (c.keptImport? o.name).isSome = true ∧
      ∀ j' < j, ∀ name, (Origin.ofSchema s).exports[j']? = some name →
        ¬ (c.keptImport? name).isSome = true := by
  obtain ⟨hrepeats, before, behind, hobjects, hbefore⟩ := List.find?_eq_some_iff_append.mp h
  obtain ⟨hexported, hkept⟩ := Bool.and_eq_true_iff.mp hrepeats
  have hexports : (Origin.ofSchema s).exports = (before.filter (·.type.isExported)).map (·.name) ++
      o.name :: (behind.filter (·.type.isExported)).map (·.name) := by
    simp [Origin.ofSchema, hobjects, hexported]
  refine ⟨((before.filter (·.type.isExported)).map (·.name)).length, ?_, hkept, ?_⟩
  · rw [hexports, List.getElem?_append_right (Nat.le_refl _), Nat.sub_self]
    rfl
  · intro j' hj' name hname hkept'
    rw [hexports, List.getElem?_append_left hj'] at hname
    obtain ⟨o', ho', rfl⟩ := List.mem_map.mp (List.mem_of_getElem? hname)
    obtain ⟨hmem, hexported'⟩ := List.mem_filter.mp ho'
    have hnot := hbefore o' hmem
    rw [repeatsImport, hexported', hkept'] at hnot
    cases hnot

theorem not_kept_of_find? {s : Schema} (h : s.objects.find? c.repeatsImport = none) {j : Nat}
    {name : String} (hname : (Origin.ofSchema s).exports[j]? = some name) :
    ¬ (c.keptImport? name).isSome = true := by
  obtain ⟨o, ho, rfl⟩ := List.mem_map.mp (List.mem_of_getElem? hname)
  obtain ⟨hmem, hexported⟩ := List.mem_filter.mp ho
  intro hkept
  exact List.find?_eq_none.mp h o hmem (Bool.and_eq_true_iff.mpr ⟨hexported, hkept⟩)

/-! ## The traversal -/

theorem result_addAll_cons (loader : Loader) (strict : Bool) (met : List String) (schema : Schema)
    (rest : List Schema) (c : Catalog) :
    (addAll loader strict met (schema :: rest) c).result =
      (c.add strict schema).result.bind fun c₁ =>
        (follow loader schema schema.references met).bind fun followed =>
          (addAll loader strict followed.1 (rest ++ followed.2) c₁).result := by
  rw [addAll, Report.result_andThen]
  congr 1
  funext c₁
  split
  next fault hfollow =>
    rw [hfollow]
    rfl
  next met' more hfollow =>
    rw [hfollow]
    rfl

/-- What strictness makes of a traversal that comes to `lenient`: nothing if no export is repeated
from a place on, and else a fault that names the first. -/
def StrictOutcome (start : Nat) (lenient strict : Except Fault Catalog) : Prop :=
  (strict = lenient ∧
    ∀ c, lenient = .ok c → ∀ p : ExportPlace, start ≤ (ofLex p).1 → ¬ Repeats c.origins p) ∨
  ∃ fault, strict = .error fault ∧
    ∀ c, lenient = .ok c → NamesFirstRepeat c.origins start fault

theorem add_of_find?_none (hc : Indexed c) {s : Schema}
    (h : s.objects.find? c.repeatsImport = none) :
    (c.add true s).result = (c.add false s).result := by
  rw [add_strict hc, h]

/-- A schema that repeats an export is where the strict traversal ends. -/
theorem namesFirstRepeat_of_find? (hc : Indexed c) {s : Schema} {o : SchemaObject} {l : List Origin}
    (h : s.objects.find? c.repeatsImport = some o) (hl : c.origins ++ [.ofSchema s] <+: l) :
    NamesFirstRepeat l c.origins.length (c.repeatFault s.name o.name) := by
  obtain ⟨j, hj, hkept, hbefore⟩ := exists_exports_of_find? h
  have hrepeats : Repeats l (toLex (c.origins.length, j)) :=
    (repeats_iff hc hl).mpr ⟨o.name, hj, hkept⟩
  obtain ⟨kept, hfilter⟩ := Option.isSome_iff_exists.mp hkept
  have hplace : c.placeOf? o.name = some kept := (Option.filter_eq_some_iff.mp hfilter).1
  have hleast := hc.placeOf?_eq_some_iff.mp hplace
  have hlt := hc.lt_of_placeOf? hplace
  obtain ⟨more, rfl⟩ := hl
  obtain ⟨o₁, ho₁, hname₁⟩ := hleast.1
  have hat : (c.origins ++ [.ofSchema s] ++ more)[c.origins.length]? = some (.ofSchema s) := by
    rw [List.append_assoc, List.getElem?_append_right (Nat.le_refl _), Nat.sub_self]
    rfl
  have hbelow {place : Nat} (hplace : place < c.origins.length) :
      (c.origins ++ [.ofSchema s] ++ more)[place]? = c.origins[place]? := by
    rw [List.append_assoc, List.getElem?_append_left hplace]
  refine ⟨toLex (c.origins.length, j), o.name, kept, o₁, .ofSchema s,
    ⟨⟨Nat.le_refl _, hrepeats⟩, ?_⟩, ?_, ⟨⟨o₁, (hbelow hlt).trans ho₁, hname₁⟩, ?_⟩,
    (hbelow hlt).trans ho₁, hat, ?_⟩
  · rintro p ⟨hle, hp⟩
    refine le_of_not_gt fun hgt => ?_
    obtain ⟨i, j'⟩ := p
    rcases Prod.Lex.toLex_lt_toLex.mp hgt with hlt' | ⟨heq, hlt'⟩
    · exact absurd hle (Nat.not_le_of_lt hlt')
    · cases heq
      obtain ⟨name, hname, hkept'⟩ := (repeats_iff hc ⟨more, rfl⟩).mp hp
      exact hbefore j' hlt' name hname hkept'
  · show ((c.origins ++ [.ofSchema s] ++ more)[c.origins.length]?).bind _ = _
    rw [hat]
    exact hj
  · rintro place ⟨o₂, ho₂, hname₂⟩
    by_cases hplace : place < c.origins.length
    · exact hleast.2 ⟨o₂, (hbelow hplace).symm.trans ho₂, hname₂⟩
    · omega
  · rw [repeatFault, hfilter, Option.getD_some, schemaAt, ho₁]
    rfl

/-- **The traversal, with and without strictness.** -/
theorem addAll_strict (loader : Loader) (met : List String) (queue : List Schema) {c : Catalog}
    (hc : Indexed c) :
    StrictOutcome c.origins.length (addAll loader false met queue c).result
      (addAll loader true met queue c).result := by
  -- by the recursion of the traversal; the next schema is where the runs part, or it has no repeat
  induction met, queue, c using addAll.induct loader with
  | case1 met c =>
    refine Or.inl ⟨by rw [addAll, addAll], fun c' hc' p hle => ?_⟩
    rw [addAll] at hc'
    cases hc'
    rintro ⟨name, hname, -⟩
    obtain ⟨o, ho, -⟩ := Option.bind_eq_some_iff.mp hname
    exact absurd (List.getElem?_eq_some_iff.mp ho).1 (Nat.not_lt_of_le hle)
  | case2 met c schema rest ih =>
    obtain ⟨c₁, hadd, horigins⟩ := exists_add c schema
    have hindexed := (hc.add hadd).1
    have hkeeps {c' : Catalog}
        (h : (addAll loader false met (schema :: rest) c).result = .ok c') :
        c.origins ++ [.ofSchema schema] <+: c'.origins := by
      rw [result_addAll_cons, hadd] at h
      cases hfollow : follow loader schema schema.references met with
      | error fault =>
        rw [hfollow] at h
        cases h
      | ok followed =>
        rw [hfollow] at h
        rw [← horigins]
        exact (spec_of_addAll hindexed h).2
    cases hrepeat : schema.objects.find? c.repeatsImport with
    | some o =>
      refine Or.inr ⟨c.repeatFault schema.name o.name, ?_, fun c' hc' =>
        namesFirstRepeat_of_find? hc hrepeat (hkeeps hc')⟩
      rw [result_addAll_cons, add_strict hc, hrepeat]
      rfl
    | none =>
      have hnone {c' : Catalog} (h : (addAll loader false met (schema :: rest) c).result = .ok c')
          {p : ExportPlace} (hp : Repeats c'.origins p) (hle : c.origins.length ≤ (ofLex p).1) :
          c₁.origins.length ≤ (ofLex p).1 := by
        rw [horigins, List.length_append, List.length_singleton]
        refine Nat.lt_of_le_of_ne hle fun heq => ?_
        obtain ⟨i, j⟩ := p
        cases heq
        obtain ⟨name, hname, hkept⟩ := (repeats_iff hc (hkeeps h)).mp hp
        exact not_kept_of_find? hrepeat hname hkept
      have hstep : StrictOutcome c₁.origins.length
          (addAll loader false met (schema :: rest) c).result
          (addAll loader true met (schema :: rest) c).result := by
        rw [result_addAll_cons, result_addAll_cons, add_of_find?_none hc hrepeat, hadd]
        cases hfollow : follow loader schema schema.references met with
        | error fault => exact Or.inl ⟨rfl, fun c' hc' => by cases hc'⟩
        | ok followed => exact ih c₁ followed.1 followed.2 hfollow hindexed
      rcases hstep with ⟨hsame, hfree⟩ | ⟨fault, hfault, hnames⟩
      · exact Or.inl ⟨hsame, fun c' hc' p hle hp => hfree c' hc' p (hnone hc' hp hle) hp⟩
      · refine Or.inr ⟨fault, hfault, fun c' hc' => ?_⟩
        obtain ⟨p, name, kept, o, o', ⟨⟨hle, hp⟩, hleast⟩, hrest⟩ := hnames c' hc'
        refine ⟨p, name, kept, o, o', ⟨⟨?_, hp⟩, fun q hq => hleast ⟨hnone hc' hq.2 hq.1, hq.2⟩⟩,
          hrest⟩
        rw [horigins, List.length_append] at hle
        omega

theorem result_build (loader : Loader) (strict : Bool) (s : Schema) :
    (build loader strict s).result = (addAll loader strict [s.path] [s] {}).result := by
  rw [build, Report.result_andThen]
  cases (addAll loader strict [s.path] [s] {}).result <;> rfl

/-- **Strictness only rejects, and only what is ambiguous.** For any loader and schema, a strict
catalog is built exactly if one is built without strictness and no two of its origins export a name
that the first origin, the local schema, does not; and it is the same catalog. If it is built
without strictness and two origins do, then the strict one fails on a precondition. The fault names
the first export in the order of the catalog that is repeated so, the first origin that has it and
the one that repeats it. -/
theorem strict_rejects_ambiguous (loader : Loader) (s : Schema) :
    (∀ c, (build loader true s).result = .ok c ↔
      (build loader false s).result = .ok c ∧ ¬ Ambiguous c.origins) ∧
    ∀ c, (build loader false s).result = .ok c → Ambiguous c.origins →
      ∃ fault, (build loader true s).result = .error fault ∧
        fault.code = some .failedPrecondition ∧
        ∃ p name kept o o', IsLeast {p | Repeats c.origins p} p ∧
          exportAt c.origins p = some name ∧ IsLeast (exporters c.origins name) kept ∧
          c.origins[kept]? = some o ∧ c.origins[(ofLex p).1]? = some o' ∧
          fault.message = "ambiguous reference: " ++ name ++ " is exported by both " ++ o.schema
            ++ " and " ++ o'.schema := by
  have hempty : Indexed {} := fun _ => rfl
  have hrun := addAll_strict loader [s.path] [s] hempty
  rw [← result_build, ← result_build] at hrun
  rcases hrun with ⟨hsame, hfree⟩ | ⟨fault, hfault, hnames⟩
  · have hclear {c : Catalog} (hc : (build loader false s).result = .ok c) :
        ¬ Ambiguous c.origins := by
      rw [ambiguous_iff]
      rintro ⟨p, hp⟩
      exact hfree c hc p (Nat.zero_le _) hp
    refine ⟨fun c => ?_, fun c hc hambiguous => absurd hambiguous (hclear hc)⟩
    rw [hsame]
    exact ⟨fun hc => ⟨hc, hclear hc⟩, And.left⟩
  · rw [hfault]
    refine ⟨fun c => ⟨fun hc => (nomatch hc), fun ⟨hc, hclear⟩ => ?_⟩, fun c hc _ => ?_⟩
    · obtain ⟨p, _, _, _, _, ⟨⟨-, hp⟩, -⟩, -⟩ := hnames c hc
      exact absurd (ambiguous_iff.mpr ⟨p, hp⟩) hclear
    · obtain ⟨p, name, kept, o, o', ⟨⟨-, hp⟩, hleast⟩, hname, hkept, ho, ho', rfl⟩ := hnames c hc
      exact ⟨_, rfl, rfl, p, name, kept, o, o', ⟨hp, fun q hq => hleast ⟨Nat.zero_le _, hq⟩⟩, hname,
        hkept, ho, ho', rfl⟩

end Catalog

/-- Two imports export `Unit`, which the local schema does not, and so the strict catalog is
refused. That one of them also exports `Map`, which the local schema has, is no reason. -/
theorem strict_rejects_ambiguous_unit :
    ∃ c fault, (Catalog.build hiddenSet.loader false hidingSchema).result = .ok c ∧
      Ambiguous c.origins ∧
      (Catalog.build hiddenSet.loader true hidingSchema).result = .error fault ∧
      fault.code = some .failedPrecondition ∧
      fault.message = "ambiguous reference: Unit is exported by both B and C" := by
  have horigins : (Catalog.build hiddenSet.loader false hidingSchema).result.toOption.map
      (·.origins) = some ((hidingSchema :: hiddenSet.entries.map Prod.snd).map .ofSchema) := by
    decide +kernel
  have hmessage : (((Catalog.build hiddenSet.loader true hidingSchema).result.map
      fun _ => "").tryCatch fun fault => .ok fault.message).toOption =
        some "ambiguous reference: Unit is exported by both B and C" := by
    decide +kernel
  obtain ⟨c, hc, horigins⟩ := Option.map_eq_some_iff.mp horigins
  have hc := eq_ok_of_toOption hc
  have hambiguous : Ambiguous c.origins := by
    rw [horigins]
    refine ⟨"Unit", ?_, 1, ⟨_, rfl, by decide⟩, 2, ⟨_, rfl, by decide⟩, by decide⟩
    rintro ⟨o, ho, hunit⟩
    cases ho
    exact absurd hunit (by decide)
  obtain ⟨fault, hfault, hcode, -⟩ :=
    (Catalog.strict_rejects_ambiguous hiddenSet.loader hidingSchema).2 c hc hambiguous
  rw [hfault] at hmessage
  exact ⟨c, fault, hc, hambiguous, hfault, hcode, Option.some.inj hmessage⟩

end SchemaGen
