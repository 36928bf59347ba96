import Mathlib.Data.List.Nodup
import Mathlib.Order.Bounds.Basic
import SchemaGen.Proofs.Catalog.Index
import SchemaGen.Proofs.Text.ByteOrder

/-!
# What a catalog answers

A catalog keeps three tables next to its origins, and none of them is computed from the origins:
they are filled object by object while references are still being followed. Here every answer is
given by the origins alone. A name belongs to the first of them that exports it, a fundamental type
is known if one of them declares it, and the listing has each exported name once.

What makes this true after every schema is `Coherent`: adding a schema keeps it (`Coherent.add`),
and so a whole traversal does (`coherent_of_build`). The induction over the traversal is made once,
for any property that adding a schema keeps (`addAll_preserves`).
-/

set_option autoImplicit false

namespace SchemaGen

/-- An origin holds an object of this name that others can refer to. -/
def Origin.Holds (o : Origin) (name : String) : Prop :=
  ∃ object ∈ o.objects, object.name = name ∧ object.type.isExported = true

/-- An origin declares this data type. -/
def Origin.declaresData (o : Origin) (name : String) : Bool :=
  o.objects.any fun object => object.type = .dataType && object.name = name

theorem Origin.mem_exports_iff (s : Schema) (name : String) :
    name ∈ (Origin.ofSchema s).exports ↔ (Origin.ofSchema s).Holds name := by
  rw [← List.contains_iff_mem, Catalog.contains_exports, List.any_eq_true, Origin.Holds]
  refine exists_congr fun object => and_congr_right fun _ => ?_
  rw [Bool.and_eq_true, beq_iff_eq, and_comm, eq_comm]

namespace Catalog

/-! ## Properties that adding a schema keeps -/

/-- **A traversal keeps what adding a schema keeps.** -/
theorem addAll_preserves {P : Catalog → Prop} {loader : Loader} {strict : Bool}
    (hadd : ∀ {c c' : Catalog} {s : Schema}, P c → (c.add strict s).result = .ok c' → P c')
    {met : List String} {queue : List Schema} {c c' : Catalog} (hc : P c)
    (h : (addAll loader strict met queue c).result = .ok c') : P c' := by
  induction met, queue, c using addAll.induct loader with
  | case1 met c =>
    rw [addAll] at h
    cases h
    exact hc
  | case2 met c schema rest ih =>
    rw [addAll] at h
    obtain ⟨c₁, hfirst, hrest⟩ := Report.exists_of_andThen h
    split at hrest
    · cases hrest
    next met' more hfollow => exact ih c₁ met' more hfollow (hadd hc hfirst) hrest

theorem addAll_of_build {loader : Loader} {strict : Bool} {s : Schema} {c : Catalog}
    (h : (build loader strict s).result = .ok c) :
    (addAll loader strict [s.path] [s] {}).result = .ok c := by
  obtain ⟨c₁, hall, hsay⟩ := Report.exists_of_andThen h
  cases hsay
  exact hall

/-! ## The invariant -/

/-- The three tables say what the origins say. -/
structure Coherent (c : Catalog) : Prop where
  /-- A name belongs to the first origin that exports it. -/
  indexed : Indexed c
  /-- No name is entered twice. -/
  distinct : (c.index.map Prod.fst).Nodup
  /-- A fundamental type is known if some origin declares it. -/
  primitives : ∀ name, c.primitive? name =
    if c.origins.any (·.declaresData name) then fundamentalTypes.lookup name else none
  /-- Every origin exports what it holds. -/
  ofSchemas : ∀ o ∈ c.origins, ∃ s, o = .ofSchema s

theorem coherent_empty : Coherent {} where
  indexed _ := rfl
  distinct := List.nodup_nil
  primitives _ := rfl
  ofSchemas _ h := nomatch h

/-- **What one object can do** to a catalog: nothing, enter a data type, or enter a name that is not
there yet. -/
theorem addObject_cases {c c' : Catalog} {strict : Bool} {place : Nat} {schema : String}
    {o : SchemaObject} (h : (c.addObject strict place schema o).result = .ok c') :
    (c' = c ∧ (o.type = .dataType → fundamentalTypes.lookup o.name = none)) ∨
    (o.type = .dataType ∧ ∃ primitive, fundamentalTypes.lookup o.name = some primitive ∧
      c' = { c with primitives := (o.name, primitive) :: c.primitives }) ∨
    (o.type ≠ .dataType ∧ c.index.lookup o.name = none ∧
      c' = { c with index := c.index ++ [(o.name, place)] }) := by
  unfold addObject at h
  split at h
  next hdata =>
    unfold addPrimitive at h
    split at h
    next primitive hlookup =>
      cases h
      exact Or.inr (Or.inl ⟨hdata, primitive, hlookup, rfl⟩)
    next hlookup =>
      cases h
      exact Or.inl ⟨rfl, fun _ => hlookup⟩
  next hdata =>
    split at h
    · unfold addExport at h
      split at h
      next hnew =>
        cases h
        exact Or.inr (Or.inr ⟨hdata, hnew, rfl⟩)
      next =>
        -- known from the same schema, from the local one, or from another
        refine Or.inl ⟨?_, fun hdata' => absurd hdata' hdata⟩
        split at h
        · cases h
          rfl
        · split at h
          · cases h
            rfl
          · split at h <;> cases h
            rfl
    · cases h
      exact Or.inl ⟨rfl, fun hdata' => absurd hdata' hdata⟩

theorem distinct_of_addObject {c c' : Catalog} {strict : Bool} {place : Nat} {schema : String}
    {o : SchemaObject} (hc : (c.index.map Prod.fst).Nodup)
    (h : (c.addObject strict place schema o).result = .ok c') :
    (c'.index.map Prod.fst).Nodup := by
  obtain ⟨rfl, -⟩ | ⟨-, _, -, rfl⟩ | ⟨-, hnew, rfl⟩ := addObject_cases h
  · exact hc
  · exact hc
  · rw [List.map_append, List.map_singleton, ← List.concat_eq_append]
    refine List.Nodup.concat (fun hmem => ?_) hc
    obtain ⟨e, he, hname⟩ := List.mem_map.mp hmem
    have hother := List.lookup_eq_none_iff.mp hnew e he
    simp [hname] at hother

theorem distinct_of_addObjects {strict : Bool} {place : Nat} {schema : String} :
    ∀ {os : List SchemaObject} {c c' : Catalog}, (c.index.map Prod.fst).Nodup →
      (addObjects strict place schema os c).result = .ok c' → (c'.index.map Prod.fst).Nodup
  | [], _, _, hc, h => by
    cases h
    exact hc
  | _ :: _, _, _, hc, h => by
    obtain ⟨c₁, hfirst, hrest⟩ := Report.exists_of_andThen h
    exact distinct_of_addObjects (distinct_of_addObject hc hfirst) hrest

/-- A data type that has a primitive is entered with it, whether or not it was there. -/
theorem primitive?_of_addObject {c c' : Catalog} {strict : Bool} {place : Nat} {schema : String}
    {o : SchemaObject} (h : (c.addObject strict place schema o).result = .ok c')
    (name : String) : c'.primitive? name =
      (if o.type = .dataType && o.name = name then fundamentalTypes.lookup name else none).or
        (c.primitive? name) := by
  obtain ⟨rfl, hnone⟩ | ⟨hdata, primitive, hlookup, rfl⟩ | ⟨hdata, -, rfl⟩ := addObject_cases h
  · split
    next hboth =>
      obtain ⟨hdata, rfl⟩ : o.type = .dataType ∧ o.name = name := by simpa using hboth
      rw [hnone hdata, Option.none_or]
    next => rw [Option.none_or]
  · by_cases hname : o.name = name
    · subst hname
      simp [primitive?, hdata, hlookup]
    · have hother : (name == o.name) = false := by simpa using Ne.symm hname
      simp [primitive?, List.lookup_cons, hother, hname]
  · simp [primitive?, hdata]

theorem primitive?_of_addObjects {strict : Bool} {place : Nat} {schema name : String} :
    ∀ {os : List SchemaObject} {c c' : Catalog},
      (addObjects strict place schema os c).result = .ok c' → c'.primitive? name =
        (if os.any (fun o => o.type = .dataType && o.name = name)
          then fundamentalTypes.lookup name else none).or (c.primitive? name)
  | [], _, _, h => by
    cases h
    rfl
  | o :: os, c, c', h => by
    obtain ⟨c₁, hfirst, hrest⟩ := Report.exists_of_andThen h
    rw [primitive?_of_addObjects hrest, primitive?_of_addObject hfirst, List.any_cons]
    cases o.type = .dataType && o.name = name <;>
      cases os.any (fun o => o.type = .dataType && o.name = name) <;>
        cases fundamentalTypes.lookup name <;> rfl

/-- **Adding a schema keeps the tables right.** -/
theorem Coherent.add {c c' : Catalog} {strict : Bool} {s : Schema} (hc : Coherent c)
    (h : (c.add strict s).result = .ok c') : Coherent c' := by
  obtain ⟨hindexed, horigins⟩ := hc.indexed.add h
  obtain ⟨c₁, hobjects, hdone⟩ := Report.exists_of_andThen h
  cases hdone
  have hdistinct := distinct_of_addObjects hc.distinct hobjects
  refine ⟨hindexed, hdistinct, fun name => ?_, ?_⟩
  · refine (primitive?_of_addObjects hobjects).trans ?_
    rw [hc.primitives name, horigins, List.any_append]
    have hlast : [Origin.ofSchema s].any (·.declaresData name) =
        s.objects.any fun o => o.type = .dataType && o.name = name := by
      simp [Origin.declaresData, Origin.ofSchema]
    rw [hlast]
    cases c.origins.any (·.declaresData name) <;>
      cases s.objects.any (fun o => o.type = .dataType && o.name = name) <;>
        cases fundamentalTypes.lookup name <;> rfl
  · intro o ho
    rw [horigins] at ho
    rcases List.mem_append.mp ho with ho | ho
    · exact hc.ofSchemas o ho
    · exact ⟨s, List.mem_singleton.mp ho⟩

theorem coherent_of_build {loader : Loader} {strict : Bool} {s : Schema} {c : Catalog}
    (h : (build loader strict s).result = .ok c) : Coherent c :=
  addAll_preserves Coherent.add coherent_empty (addAll_of_build h)

/-! ## Reading the tables -/

section Answers

variable {c : Catalog} {name : String}

/-- The places of the origins that export a name. -/
def exporters (l : List Origin) (name : String) : Set Nat :=
  {place | ∃ o, l[place]? = some o ∧ name ∈ o.exports}

/-- The places of the origins that hold an exported object of a name. -/
def holders (c : Catalog) (name : String) : Set Nat :=
  {place | ∃ o, c.origins[place]? = some o ∧ o.Holds name}

theorem Coherent.mem_exports_iff (hc : Coherent c) {o : Origin} (ho : o ∈ c.origins) :
    name ∈ o.exports ↔ o.Holds name := by
  obtain ⟨s, rfl⟩ := hc.ofSchemas o ho
  exact Origin.mem_exports_iff s name

theorem Coherent.exporters_eq (hc : Coherent c) (name : String) :
    exporters c.origins name = c.holders name :=
  Set.ext fun _ => exists_congr fun _ =>
    and_congr_right fun ho => hc.mem_exports_iff (List.mem_of_getElem? ho)

/-- The place of a name is the least that exports it. -/
theorem Indexed.placeOf?_eq_some_iff (hc : Indexed c) {place : Nat} :
    c.placeOf? name = some place ↔ IsLeast (exporters c.origins name) place := by
  rw [hc name, List.findIdx?_eq_some_iff_getElem]
  simp only [List.contains_iff_mem]
  constructor
  · rintro ⟨hlt, hmem, hbefore⟩
    refine ⟨⟨_, List.getElem?_eq_getElem hlt, hmem⟩, ?_⟩
    rintro earlier ⟨o, ho, hmem'⟩
    obtain ⟨_, rfl⟩ := List.getElem?_eq_some_iff.mp ho
    exact Nat.le_of_not_lt fun hlt' => hbefore earlier hlt' hmem'
  · rintro ⟨⟨o, ho, hmem⟩, hleast⟩
    obtain ⟨hlt, rfl⟩ := List.getElem?_eq_some_iff.mp ho
    refine ⟨hlt, hmem, fun earlier hlt' hmem' => ?_⟩
    have hle := hleast ⟨_, List.getElem?_eq_getElem (hlt'.trans hlt), hmem'⟩
    omega

theorem Coherent.placeOf?_eq_some_iff (hc : Coherent c) {place : Nat} :
    c.placeOf? name = some place ↔ IsLeast (c.holders name) place := by
  rw [hc.indexed.placeOf?_eq_some_iff, hc.exporters_eq]

theorem Coherent.originOf?_eq_some_iff (hc : Coherent c) {schema : String} :
    c.originOf? name = some schema ↔
      ∃ place o, IsLeast (c.holders name) place ∧ c.origins[place]? = some o ∧
        o.schema = schema := by
  rw [originOf?, Option.map_eq_some_iff]
  constructor
  · rintro ⟨place, hplace, rfl⟩
    have hleast := hc.placeOf?_eq_some_iff.mp hplace
    obtain ⟨o, ho, -⟩ := hleast.1
    exact ⟨place, o, hleast, ho, by rw [schemaAt, ho]; rfl⟩
  · rintro ⟨place, o, hleast, ho, rfl⟩
    exact ⟨place, hc.placeOf?_eq_some_iff.mpr hleast, by rw [schemaAt, ho]; rfl⟩

theorem Coherent.isSome_originOf?_iff (hc : Coherent c) :
    (c.originOf? name).isSome = true ↔ ∃ o ∈ c.origins, o.Holds name := by
  rw [originOf?, Option.isSome_map, hc.indexed name, List.findIdx?_isSome, List.any_eq_true]
  simp only [List.contains_iff_mem]
  exact exists_congr fun o => and_congr_right fun ho => hc.mem_exports_iff ho

/-- What a fundamental type is does not depend on who declares it. -/
theorem Coherent.primitive?_eq_some_iff (hc : Coherent c) {primitive : String} :
    c.primitive? name = some primitive ↔ (name, primitive) ∈ fundamentalTypes ∧
      ∃ o ∈ c.origins, ∃ object ∈ o.objects, object.type = .dataType ∧ object.name = name := by
  have hdeclared : c.origins.any (·.declaresData name) = true ↔
      ∃ o ∈ c.origins, ∃ object ∈ o.objects, object.type = .dataType ∧ object.name = name := by
    simp only [Origin.declaresData, List.any_eq_true, Bool.and_eq_true, decide_eq_true_eq]
  have htable : fundamentalTypes.lookup name = some primitive ↔
      (name, primitive) ∈ fundamentalTypes := by
    constructor
    · intro h
      obtain ⟨before, behind, htypes, -⟩ := List.lookup_eq_some_iff.mp h
      rw [htypes]
      simp
    · intro h
      simp only [fundamentalTypes, List.mem_cons, Prod.mk.injEq, List.not_mem_nil, or_false] at h
      rcases h with ⟨rfl, rfl⟩ | ⟨rfl, rfl⟩ | ⟨rfl, rfl⟩ | ⟨rfl, rfl⟩ <;> rfl
  rw [hc.primitives name, ← hdeclared, ← htable]
  cases c.origins.any (·.declaresData name) <;> simp

/-- Every entry of the index is in the listing, with the schema of its place. -/
theorem mem_entries_iff {entry : String × String} :
    entry ∈ c.entries ↔ ∃ place, (entry.1, place) ∈ c.index ∧ c.schemaAt place = entry.2 := by
  obtain ⟨name, schema⟩ := entry
  rw [entries, List.mem_map]
  constructor
  · rintro ⟨⟨name', place⟩, hmem, hentry⟩
    cases hentry
    exact ⟨place, List.mem_mergeSort.mp hmem, rfl⟩
  · rintro ⟨place, hmem, hschema⟩
    exact ⟨(name, place), List.mem_mergeSort.mpr hmem, Prod.ext rfl hschema⟩

theorem Coherent.mem_entries_iff (hc : Coherent c) {schema : String} :
    (name, schema) ∈ c.entries ↔ c.originOf? name = some schema := by
  rw [Catalog.mem_entries_iff, originOf?, Option.map_eq_some_iff]
  refine exists_congr fun place => and_congr_left fun _ => ?_
  -- a name is entered once, so looking it up finds the one entry it has
  constructor
  · intro hmem
    obtain ⟨before, behind, hindex⟩ := List.append_of_mem hmem
    have hdistinct := hc.distinct
    rw [hindex, List.map_append, List.map_cons, List.nodup_append] at hdistinct
    refine List.lookup_eq_some_iff.mpr ⟨before, behind, hindex, fun e he => ?_⟩
    have hne := hdistinct.2.2 e.1 (List.mem_map_of_mem he) name List.mem_cons_self
    simpa using hne.symm
  · intro hplace
    obtain ⟨before, behind, hindex, -⟩ := List.lookup_eq_some_iff.mp hplace
    rw [hindex]
    simp

/-- The listing goes up, and repeats nothing. -/
theorem Coherent.entries_increasing (hc : Coherent c) :
    c.entries.Pairwise fun a b => a.1 < b.1 := by
  rw [entries, List.pairwise_map]
  exact Text.pairwise_mergeSort_lt hc.distinct

end Answers

/-- **The first origin wins.** Take any loader and schema for which a catalog is built, and call an
object exported if its type can be referred to. The local schema is the first origin. A name has an
origin exactly if some origin holds an exported object of that name, and then it is the first that
does. It is local exactly if the local schema holds such an object. It is a fundamental type exactly
if it is in the table of those and some origin declares it as a data type, whichever it is. The
listing has the names that have an origin, with it, in strictly increasing order of their bytes. -/
theorem first_seen_wins {loader : Loader} {strict : Bool} {s : Schema} {c : Catalog}
    (h : (build loader strict s).result = .ok c) :
    c.origins.head? = some (.ofSchema s) ∧
    (∀ name,
      ((c.originOf? name).isSome = true ↔ ∃ o ∈ c.origins, o.Holds name) ∧
      (∀ schema, c.originOf? name = some schema ↔
        ∃ place o, IsLeast (c.holders name) place ∧ c.origins[place]? = some o ∧
          o.schema = schema) ∧
      (c.isLocal name = true ↔ (Origin.ofSchema s).Holds name) ∧
      ∀ primitive, c.primitive? name = some primitive ↔ (name, primitive) ∈ fundamentalTypes ∧
        ∃ o ∈ c.origins, ∃ object ∈ o.objects, object.type = .dataType ∧ object.name = name) ∧
    (c.entries.Pairwise fun a b => Text.utf8 a.1 < Text.utf8 b.1) ∧
    ∀ name schema, (name, schema) ∈ c.entries ↔ c.originOf? name = some schema := by
  have hc := coherent_of_build h
  obtain ⟨-, rest, horigins⟩ := spec_of_build h
  refine ⟨by rw [horigins]; rfl, fun name => ?_, ?_, fun name schema => hc.mem_entries_iff⟩
  · exact ⟨hc.isSome_originOf?_iff, fun schema => hc.originOf?_eq_some_iff, isLocal_iff h,
      fun primitive => hc.primitive?_eq_some_iff⟩
  · exact hc.entries_increasing.imp fun hlt => Text.lt_iff_utf8_lt.mp hlt

end Catalog

/-! ## Names in three schemas -/

/-- A schema that refers to two others, and hides a name of the first. -/
def hidingSchema : Schema where
  name := "A"
  path := "A"
  objects := [{ name := "Schema", type := .metadata, metadata := { references := ["B", "C"] } },
    { name := "Map", type := .performanceMap }]

/-- The schemas that it refers to. Both export `Unit`, and both declare integers. -/
def hiddenSet : SchemaSet where
  entries :=
    [("B", { name := "B", path := "B", objects := [{ name := "Unit", type := .enumeration },
        { name := "Map", type := .dataGroup }, { name := "Integer", type := .dataType }] }),
      ("C", { name := "C", path := "C", objects := [{ name := "Unit", type := .stringType },
        { name := "Integer", type := .dataType }, { name := "Äther", type := .dataGroup },
        { name := "Date", type := .dataType }] })]

/-- The first of three origins wins, or of two. -/
theorem first_seen_wins_hiding :
    ∃ c, (Catalog.build hiddenSet.loader false hidingSchema).result = .ok c ∧
      c.origins.map (·.schema) = ["A", "B", "C"] ∧
      c.isLocal "Map" = true ∧ c.primitive? "Integer" = some "int" ∧ c.primitive? "Date" = none ∧
      (∃ place o, IsLeast (c.holders "Unit") place ∧ c.origins[place]? = some o ∧
        o.schema = "B") ∧
      (c.entries.Pairwise fun a b => Text.utf8 a.1 < Text.utf8 b.1) ∧
      ("Map", "A") ∈ c.entries ∧ ("Unit", "B") ∈ c.entries ∧ ("Äther", "C") ∈ c.entries ∧
      ("Unit", "C") ∉ c.entries := by
  have hview : (Catalog.build hiddenSet.loader false hidingSchema).result.toOption.map
      (fun c => (c.origins.map (·.schema), ["Map", "Unit", "Äther"].map c.originOf?,
        ["Integer", "Date"].map c.primitive?, c.isLocal "Map")) =
      some (["A", "B", "C"], [some "A", some "B", some "C"], [some "int", none], true) := by
    decide +kernel
  obtain ⟨c, hc, hview⟩ := Option.map_eq_some_iff.mp hview
  simp only [Prod.mk.injEq, List.map_cons, List.cons.injEq] at hview
  obtain ⟨horigins, ⟨hmap, hunit, hether, -⟩, ⟨hinteger, hdate, -⟩, hlocal⟩ := hview
  have hc := eq_ok_of_toOption hc
  obtain ⟨-, hnames, hincreasing, hlisted⟩ := Catalog.first_seen_wins hc
  refine ⟨c, hc, horigins, hlocal, hinteger, hdate, ((hnames "Unit").2.1 "B").mp hunit, hincreasing,
    (hlisted _ _).mpr hmap, (hlisted _ _).mpr hunit, (hlisted _ _).mpr hether, fun hmem => ?_⟩
  have horigin := (hlisted _ _).mp hmem
  rw [hunit] at horigin
  simp at horigin

end SchemaGen
