import Mathlib.Data.List.Basic
import SchemaGen.Catalog.Closure

/-!
# The index of a catalog

A catalog answers for a name with a place that it noted when the name was entered. Names are entered
one object at a time, with a rule for repetitions that looks at who came first, and in the middle of
a traversal of references that may fail. What comes out is simple, though: a name belongs to the
first origin that exports it (`Indexed`).

Entering an object keeps what is there and adds at most its own name (`addObject_spec`). So adding a
schema keeps the index right (`Indexed.add`), and a whole traversal does (`spec_of_addAll`), which
also never moves an origin. The local schema is added first, hence its names are exactly those that
it exports (`isLocal_iff`).
-/

set_option autoImplicit false

namespace SchemaGen

/-- What a report of several steps came to was handed on by the first of them. -/
theorem Report.exists_of_andThen {α β : Type} {r : Report α} {f : α → Report β} {b : β}
    (h : (r.andThen f).result = .ok b) : ∃ a, r.result = .ok a ∧ (f a).result = .ok b := by
  rw [result_andThen] at h
  cases hr : r.result with
  | error fault =>
    rw [hr] at h
    cases h
  | ok a =>
    rw [hr] at h
    exact ⟨a, rfl, h⟩

theorem eq_ok_of_toOption {α : Type} {r : Except Fault α} {a : α} (h : r.toOption = some a) :
    r = .ok a := by
  cases r with
  | error fault => cases h
  | ok a' => rw [Option.some.inj h]

namespace Catalog

/-! ## Entering names -/

/-- A catalog with the same origins that has, next to the names of `c`, those that `entered` says,
at one place. -/
def Enters (c : Catalog) (place : Nat) (entered : String → Bool) (c' : Catalog) : Prop :=
  c'.origins = c.origins ∧
    ∀ name, c'.placeOf? name = (c.placeOf? name).or (if entered name then some place else none)

theorem enters_nothing (c : Catalog) (place : Nat) : Enters c place (fun _ => false) c :=
  ⟨rfl, fun _ => (Option.or_none).symm⟩

theorem Enters.trans {c c' c'' : Catalog} {place : Nat} {first second : String → Bool}
    (h : Enters c place first c') (h' : Enters c' place second c'') :
    Enters c place (fun name => first name || second name) c'' := by
  refine ⟨h'.1.trans h.1, fun name => ?_⟩
  rw [h'.2, h.2, Option.or_assoc]
  cases hfirst : first name <;> simp [hfirst]

/-- A name that is there is not entered again. -/
theorem enters_known {c : Catalog} {name : String} {earlier : Nat} (place : Nat)
    (h : c.placeOf? name = some earlier) : Enters c place (· == name) c := by
  refine ⟨rfl, fun name' => ?_⟩
  by_cases hname : name' = name
  · rw [hname, h, Option.some_or]
  · rw [if_neg (by simpa using hname), Option.or_none]

theorem addExport_spec {c c' : Catalog} {strict : Bool} {place : Nat} {schema name : String}
    (h : (c.addExport strict place schema name).result = .ok c') :
    Enters c place (· == name) c' := by
  unfold addExport at h
  cases hlookup : c.index.lookup name with
  | none =>
    simp only [hlookup, Report.result_done, Except.ok.injEq] at h
    subst h
    refine ⟨rfl, fun name' => ?_⟩
    rw [placeOf?, placeOf?, List.lookup_append, List.lookup_cons, List.lookup_nil]
    cases hname : name' == name <;> simp [hname]
  | some earlier =>
    -- whichever case it is, a success leaves the catalog as it was
    have hsame : c' = c := by
      simp only [hlookup] at h
      split at h
      · cases h; rfl
      · split at h
        · cases h; rfl
        · split at h
          · cases h
          · cases h; rfl
    rw [hsame]
    exact enters_known place hlookup

theorem addPrimitive_spec {c c' : Catalog} {schema name : String} (place : Nat)
    (h : (c.addPrimitive schema name).result = .ok c') : Enters c place (fun _ => false) c' := by
  unfold addPrimitive at h
  split at h
  · cases h
    exact enters_nothing _ place
  · cases h
    exact enters_nothing c place

/-- **One object.** It enters its name if others can refer to it. -/
theorem addObject_spec {c c' : Catalog} {strict : Bool} {place : Nat} {schema : String}
    {o : SchemaObject} (h : (c.addObject strict place schema o).result = .ok c') :
    Enters c place (fun name => o.type.isExported && name == o.name) c' := by
  unfold addObject at h
  split at h
  next hdata =>
    rw [hdata]
    exact addPrimitive_spec place h
  next =>
    split at h
    next hexported =>
      simp only [hexported, Bool.true_and]
      exact addExport_spec h
    next hexported =>
      simp only [hexported, Bool.false_and]
      cases h
      exact enters_nothing c place

theorem addObjects_spec {strict : Bool} {place : Nat} {schema : String} :
    ∀ {os : List SchemaObject} {c c' : Catalog},
      (addObjects strict place schema os c).result = .ok c' →
        Enters c place (fun name => os.any fun o => o.type.isExported && name == o.name) c'
  | [], c, c', h => by
    cases h
    exact enters_nothing c place
  | o :: os, c, c', h => by
    obtain ⟨c₁, hfirst, hrest⟩ := Report.exists_of_andThen h
    exact (addObject_spec hfirst).trans (addObjects_spec hrest)

/-! ## The invariant -/

/-- A name belongs to the first origin that exports it. -/
def Indexed (c : Catalog) : Prop :=
  ∀ name, c.placeOf? name = c.origins.findIdx? (·.exports.contains name)

theorem contains_exports (s : Schema) (name : String) :
    (Origin.ofSchema s).exports.contains name =
      s.objects.any fun o => o.type.isExported && name == o.name := by
  rw [Origin.ofSchema, List.contains_eq_any_beq, List.any_map, List.any_filter]
  rfl

/-- Adding a schema keeps the index right. -/
theorem Indexed.add {c c' : Catalog} {strict : Bool} {s : Schema} (hc : Indexed c)
    (h : (c.add strict s).result = .ok c') :
    Indexed c' ∧ c'.origins = c.origins ++ [.ofSchema s] := by
  obtain ⟨c₁, hobjects, hdone⟩ := Report.exists_of_andThen h
  cases hdone
  obtain ⟨horigins, hplaces⟩ := addObjects_spec hobjects
  refine ⟨fun name => ?_, by rw [horigins]⟩
  refine (hplaces name).trans ?_
  rw [hc name, horigins, List.findIdx?_append, List.findIdx?_singleton]
  beta_reduce
  rw [← contains_exports]
  cases (Origin.ofSchema s).exports.contains name <;> simp

/-- **A whole traversal keeps the index right** and leaves the origins that were there where they
were. -/
theorem spec_of_addAll {loader : Loader} {strict : Bool} {met : List String}
    {queue : List Schema} {c c' : Catalog} (hc : Indexed c)
    (h : (addAll loader strict met queue c).result = .ok c') :
    Indexed c' ∧ c.origins <+: c'.origins := by
  -- by the recursion of the traversal; the step is `Indexed.add`
  induction met, queue, c using addAll.induct loader with
  | case1 met c =>
    rw [addAll] at h
    cases h
    exact ⟨hc, List.prefix_rfl⟩
  | case2 met c schema rest ih =>
    rw [addAll] at h
    obtain ⟨c₁, hadd, hrest⟩ := Report.exists_of_andThen h
    obtain ⟨hindexed, horigins⟩ := hc.add hadd
    split at hrest
    · cases hrest
    next met' more hfollow =>
      obtain ⟨hindexed', hprefix⟩ := ih c₁ met' more hfollow hindexed hrest
      refine ⟨hindexed', List.IsPrefix.trans ?_ hprefix⟩
      rw [horigins]
      exact List.prefix_append _ _

/-- **What a catalog is**: its index is right, and its first origin is the local schema. -/
theorem spec_of_build {loader : Loader} {strict : Bool} {s : Schema} {c : Catalog}
    (h : (build loader strict s).result = .ok c) :
    Indexed c ∧ ∃ rest, c.origins = .ofSchema s :: rest := by
  obtain ⟨c₁, hall, hsay⟩ := Report.exists_of_andThen h
  cases hsay
  rw [addAll] at hall
  obtain ⟨c₂, hadd, hrest⟩ := Report.exists_of_andThen hall
  have hempty : Indexed {} := fun _ => rfl
  obtain ⟨hindexed, horigins⟩ := hempty.add hadd
  split at hrest
  · cases hrest
  · obtain ⟨hindexed', hprefix⟩ := spec_of_addAll hindexed hrest
    obtain ⟨more, hmore⟩ := hprefix
    exact ⟨hindexed', more, by rw [← hmore, horigins]; rfl⟩

/-- The local names are those that the local schema exports. -/
theorem isLocal_iff {loader : Loader} {strict : Bool} {s : Schema} {c : Catalog}
    (h : (build loader strict s).result = .ok c) {name : String} :
    c.isLocal name = true ↔ ∃ o ∈ s.objects, o.name = name ∧ o.type.isExported = true := by
  obtain ⟨hindexed, rest, horigins⟩ := spec_of_build h
  have hlocal : c.isLocal name = (Origin.ofSchema s).exports.contains name := by
    rw [isLocal, hindexed name, horigins, List.findIdx?_cons]
    cases (Origin.ofSchema s).exports.contains name <;> simp
  rw [hlocal, contains_exports, List.any_eq_true]
  constructor
  · rintro ⟨o, ho, hboth⟩
    obtain ⟨hexported, hname⟩ := Bool.and_eq_true_iff.mp hboth
    exact ⟨o, ho, (eq_of_beq hname).symm, hexported⟩
  · rintro ⟨o, ho, rfl, hexported⟩
    exact ⟨o, ho, Bool.and_eq_true_iff.mpr ⟨hexported, beq_self_eq_true _⟩⟩

end Catalog

end SchemaGen
