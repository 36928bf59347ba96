import SchemaGen.Proofs.Catalog.FirstSeen

/-!
# The object behind a name

A catalog notes where a name belongs when an exported object of that name is entered, and looks for
the object only when it is asked: it takes the first object of the name in the origin, whatever its
type. So a name that has an origin always has an object there (`Coherent.isSome_object?_iff`). But
the object is one that can be referred to only if none that cannot stands before it
(`exported_first_iff`), and a schema file may use a name for objects of several types:
`unexported_object_found`.
-/

set_option autoImplicit false

namespace SchemaGen

/-! ## The first object of a name -/

/-- Before each object of this name that cannot be referred to stands one that can. -/
def Origin.ExportsFirst (o : Origin) (name : String) : Prop :=
  ∀ before object behind, o.objects = before ++ object :: behind → object.name = name →
    object.type.isExported = false →
    ∃ earlier ∈ before, earlier.name = name ∧ earlier.type.isExported = true

/-- **The first object of a name can be referred to** exactly if no other stands before all that
can. -/
theorem Origin.exported_first_iff {o : Origin} {name : String} {object : SchemaObject}
    (h : o.objects.find? (·.name = name) = some object) :
    object.type.isExported = true ↔ o.ExportsFirst name := by
  constructor
  · intro hexported before other behind hobjects hother hhidden
    rw [hobjects, List.find?_append] at h
    cases hbefore : before.find? (·.name = name) with
    | some earlier =>
      rw [hbefore, Option.some_or] at h
      obtain rfl := Option.some.inj h
      exact ⟨earlier, List.mem_of_find?_eq_some hbefore, by simpa using List.find?_some hbefore,
        hexported⟩
    | none =>
      rw [hbefore, Option.none_or, List.find?_cons_of_pos (by simpa using hother)] at h
      obtain rfl := Option.some.inj h
      rw [hexported] at hhidden
      cases hhidden
  · intro hfirst
    obtain ⟨hname, before, behind, hobjects, hbefore⟩ := List.find?_eq_some_iff_append.mp h
    by_contra hhidden
    obtain ⟨earlier, hmem, hearlier, -⟩ :=
      hfirst before object behind hobjects (by simpa using hname) (by simpa using hhidden)
    have hother := hbefore earlier hmem
    simp [hearlier] at hother

/-- An origin that uses the name for one object only has no choice. -/
theorem Origin.exportsFirst_of_holds {o : Origin} {name : String} (hholds : o.Holds name)
    (hdistinct : (o.objects.map (·.name)).Nodup) : o.ExportsFirst name := by
  obtain ⟨exported, hmem, hname, hexported⟩ := hholds
  intro before object behind hobjects hobject hhidden
  have hobjectmem : object ∈ o.objects := by simp [hobjects]
  have hsame := List.inj_on_of_nodup_map hdistinct hobjectmem hmem (hobject.trans hname.symm)
  rw [hsame, hexported] at hhidden
  cases hhidden

namespace Catalog

variable {c : Catalog} {name : String}

theorem object?_eq_some_iff {object : SchemaObject} :
    c.object? name = some object ↔ ∃ place origin, c.placeOf? name = some place ∧
      c.origins[place]? = some origin ∧ origin.objects.find? (·.name = name) = some object := by
  simp only [object?, Option.bind_eq_bind, Option.bind_eq_some_iff]
  exact exists_congr fun place =>
    ⟨fun ⟨hplace, origin, horigin⟩ => ⟨origin, hplace, horigin⟩,
      fun ⟨origin, hplace, horigin⟩ => ⟨hplace, origin, horigin⟩⟩

/-- **A name has an object exactly if it has an origin.** -/
theorem Coherent.isSome_object?_iff (hc : Coherent c) :
    (c.object? name).isSome = true ↔ (c.originOf? name).isSome = true := by
  rw [originOf?, Option.isSome_map]
  constructor
  · intro h
    obtain ⟨object, hobject⟩ := Option.isSome_iff_exists.mp h
    obtain ⟨place, -, hplace, -⟩ := object?_eq_some_iff.mp hobject
    rw [hplace]
    rfl
  · intro h
    obtain ⟨place, hplace⟩ := Option.isSome_iff_exists.mp h
    obtain ⟨origin, horigin, exported, hmem, hname, -⟩ := (hc.placeOf?_eq_some_iff.mp hplace).1
    have hfound : (origin.objects.find? (·.name = name)).isSome = true := by
      rw [List.find?_isSome]
      exact ⟨exported, hmem, by simpa using hname⟩
    obtain ⟨object, hobject⟩ := Option.isSome_iff_exists.mp hfound
    rw [object?_eq_some_iff.mpr ⟨place, origin, hplace, horigin, hobject⟩]
    rfl

/-- A local name has its object in the local schema. -/
theorem object?_of_isLocal {loader : Loader} {strict : Bool} {s : Schema}
    (h : (build loader strict s).result = .ok c) (hlocal : c.isLocal name = true) :
    c.object? name = s.objects.find? (·.name = name) := by
  obtain ⟨-, rest, horigins⟩ := spec_of_build h
  have hplace : c.placeOf? name = some 0 := by simpa [isLocal] using hlocal
  simp only [object?, hplace, horigins, Option.bind_eq_bind, Option.bind_some]
  rfl

/-- **What the object of a name is.** Take any loader and schema for which a catalog is built. A name
has an object exactly if it has an origin. The object has that name and is one of the first origin
that exports it. It can be referred to exactly if, in that origin, each object of the name that
cannot stands behind one that can; so it can if the origin uses no name twice. -/
theorem object_of_first_origin {loader : Loader} {strict : Bool} {s : Schema}
    (h : (build loader strict s).result = .ok c) (name : String) :
    ((c.object? name).isSome = true ↔ (c.originOf? name).isSome = true) ∧
    ∀ object, c.object? name = some object → object.name = name ∧
      ∃ place origin, IsLeast (c.holders name) place ∧ c.origins[place]? = some origin ∧
        c.originOf? name = some origin.schema ∧ object ∈ origin.objects ∧
        (object.type.isExported = true ↔ origin.ExportsFirst name) ∧
        ((origin.objects.map (·.name)).Nodup → object.type.isExported = true) := by
  have hc := coherent_of_build h
  refine ⟨hc.isSome_object?_iff, fun object hobject => ?_⟩
  obtain ⟨place, origin, hplace, horigin, hfound⟩ := object?_eq_some_iff.mp hobject
  have hleast := hc.placeOf?_eq_some_iff.mp hplace
  have hholds : origin.Holds name := by
    obtain ⟨origin', horigin', hholds⟩ := hleast.1
    rw [horigin] at horigin'
    rwa [Option.some.inj horigin']
  have hiff := Origin.exported_first_iff hfound
  refine ⟨by simpa using List.find?_some hfound, place, origin, hleast, horigin,
    hc.originOf?_eq_some_iff.mpr ⟨place, origin, hleast, horigin, rfl⟩,
    List.mem_of_find?_eq_some hfound, hiff, fun hdistinct => ?_⟩
  exact hiff.mpr (Origin.exportsFirst_of_holds hholds hdistinct)

end Catalog

/-- Of two schemas that export a name, the first has the object; a data type has none. -/
theorem object_of_first_origin_unit :
    ∃ c, (Catalog.build hiddenSet.loader false hidingSchema).result = .ok c ∧
      (∃ object, c.object? "Unit" = some object ∧ object.type = .enumeration ∧
        ∃ place origin, IsLeast (c.holders "Unit") place ∧ c.origins[place]? = some origin ∧
          origin.schema = "B" ∧ object ∈ origin.objects) ∧
      ((c.object? "Date").isSome = true ↔ (c.originOf? "Date").isSome = true) ∧
      c.originOf? "Date" = none := by
  have hview : (Catalog.build hiddenSet.loader false hidingSchema).result.toOption.map
      (fun c => ((c.object? "Unit").map (·.type), c.originOf? "Unit", c.originOf? "Date")) =
      some (some .enumeration, some "B", none) := by
    decide +kernel
  obtain ⟨c, hc, hview⟩ := Option.map_eq_some_iff.mp hview
  simp only [Prod.mk.injEq, Option.map_eq_some_iff] at hview
  obtain ⟨⟨object, hobject, htype⟩, hunit, hdate⟩ := hview
  have hc := eq_ok_of_toOption hc
  obtain ⟨-, hfound⟩ := Catalog.object_of_first_origin hc "Unit"
  obtain ⟨-, place, origin, hleast, horigin, hschema, hmem, -⟩ := hfound object hobject
  rw [hunit] at hschema
  exact ⟨c, hc, ⟨object, hobject, htype, place, origin, hleast, horigin,
    (Option.some.inj hschema).symm, hmem⟩, (Catalog.object_of_first_origin hc "Date").1, hdate⟩

/-! ## A name of two types -/

/-- A schema that uses one name for a data type and then for a group. -/
def doubleSchema : Schema where
  name := "S"
  path := "S"
  objects := [{ name := "X", type := .dataType }, { name := "X", type := .dataGroup }]

/-- **The object of a name may be one that nothing can refer to**: the schema exports the name for
its group, and the object that is found is the data type before it. -/
theorem unexported_object_found :
    ∃ c object, (Catalog.build (SchemaSet.loader {}) false doubleSchema).result = .ok c ∧
      c.originOf? "X" = some "S" ∧ c.object? "X" = some object ∧ object.type = .dataType ∧
      object.type.isExported = false := by
  have hview : (Catalog.build (SchemaSet.loader {}) false doubleSchema).result.toOption.map
      (fun c => (c.originOf? "X", (c.object? "X").map (·.type))) =
      some (some "S", some .dataType) := by
    decide +kernel
  obtain ⟨c, hc, hview⟩ := Option.map_eq_some_iff.mp hview
  simp only [Prod.mk.injEq, Option.map_eq_some_iff] at hview
  obtain ⟨horigin, object, hobject, htype⟩ := hview
  exact ⟨c, object, eq_ok_of_toOption hc, horigin, hobject, htype, by rw [htype]; rfl⟩

end SchemaGen
