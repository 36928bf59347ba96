import SchemaGen.Declaration.Basic
import Mathlib.Data.List.Nodup
import Mathlib.Data.List.Perm.Basic

/-!
# The values of an enumeration and of its serialization

An enumeration ends with the unknown value and its serialization starts with it. The one puts the
value behind whatever it is given; the other takes it out of the list before it puts it in front.
So the two agree about every value but the unknown one, and about that one they agree as long as it
is not among the values given: `perm_serialized` says what each list holds in either case, and the
rest is read off it.
-/

set_option autoImplicit false

namespace SchemaGen

/-- The values that are declared for given ones. -/
def declaredValues (given : List String) : List String :=
  given ++ [unknownEnumerator]

/-- The values that are serialized for declared ones. -/
def serializedValues (declared : List String) : List String :=
  unknownEnumerator :: declared.filter (· ≠ unknownEnumerator)

theorem values_ofEnumerators (name : String) (es : List Enumerator) :
    (Decl.ofEnumerators name es).values = declaredValues (es.map (·.value)) := by
  simp [Decl.ofEnumerators, Decl.values, declaredValues]

theorem values_ofValues (name : String) (declared : List String) :
    (Decl.ofValues name declared).values = serializedValues declared := rfl

/-! ## What holds of any values -/

variable {given : List String}

theorem getLast?_declaredValues : (declaredValues given).getLast? = some unknownEnumerator :=
  List.getLast?_concat

theorem head?_serializedValues : (serializedValues given).head? = some unknownEnumerator := rfl

theorem filter_declaredValues :
    (declaredValues given).filter (· ≠ unknownEnumerator) =
      given.filter (· ≠ unknownEnumerator) := by
  simp [declaredValues]

theorem filter_serializedValues :
    (serializedValues given).filter (· ≠ unknownEnumerator) =
      given.filter (· ≠ unknownEnumerator) := by
  simp [serializedValues]

theorem nodup_serializedValues (hdistinct : given.Nodup) :
    (serializedValues (declaredValues given)).Nodup := by
  rw [serializedValues, filter_declaredValues, List.nodup_cons]
  exact ⟨by simp, hdistinct.filter _⟩

/-! ## The unknown value among those given -/

theorem serializedValues_of_notMem (hnot : unknownEnumerator ∉ given) :
    serializedValues (declaredValues given) = unknownEnumerator :: given := by
  rw [serializedValues, filter_declaredValues, List.filter_eq_self.mpr]
  intro v hv
  simpa using fun heq : v = unknownEnumerator => hnot (heq ▸ hv)

theorem perm_serializedValues_of_mem (hdistinct : given.Nodup) (hmem : unknownEnumerator ∈ given) :
    (serializedValues (declaredValues given)).Perm given := by
  rw [serializedValues, filter_declaredValues]
  have herase : given.filter (· ≠ unknownEnumerator) = given.erase unknownEnumerator := by
    rw [hdistinct.erase_eq_filter]
    exact List.filter_congr fun v _ => by by_cases h : v = unknownEnumerator <;> simp [h]
  rw [herase]
  exact (List.perm_cons_erase hmem).symm

/-- **What is declared is what is serialized**, and the unknown value once more if it is given. -/
theorem perm_serialized (hdistinct : given.Nodup) :
    (declaredValues given).Perm (serializedValues (declaredValues given)
      ++ if unknownEnumerator ∈ given then [unknownEnumerator] else []) := by
  split
  case isTrue hmem =>
    exact (perm_serializedValues_of_mem hdistinct hmem).symm.append_right _
  case isFalse hnot =>
    rw [serializedValues_of_notMem hnot, List.append_nil]
    exact List.perm_append_singleton _ _

theorem nodup_declaredValues_iff (hdistinct : given.Nodup) :
    (declaredValues given).Nodup ↔ unknownEnumerator ∉ given := by
  rw [declaredValues, ← List.concat_eq_append, List.nodup_concat]
  exact and_iff_left hdistinct

theorem count_declaredValues_eq_one_iff :
    (declaredValues given).count unknownEnumerator = 1 ↔ unknownEnumerator ∉ given := by
  simp [declaredValues, List.count_append, List.count_eq_zero]

theorem perm_declaredValues_iff (hdistinct : given.Nodup) :
    (serializedValues (declaredValues given)).Perm (declaredValues given) ↔
      unknownEnumerator ∉ given := by
  constructor
  · intro hperm
    exact (nodup_declaredValues_iff hdistinct).mp
      (hperm.nodup_iff.mp (nodup_serializedValues hdistinct))
  · intro hnot
    have hall := perm_serialized hdistinct
    rw [if_neg hnot, List.append_nil] at hall
    exact hall.symm

/-! ## Agreement -/

/-- What the values of an enumeration are meant to be, for the values given to it. -/
structure EndsWithUnknown (given values : List String) : Prop where
  distinct : values.Nodup
  once : values.count unknownEnumerator = 1
  last : values.getLast? = some unknownEnumerator
  order : values.filter (· ≠ unknownEnumerator) = given.filter (· ≠ unknownEnumerator)

/-- What the values of a serialization are meant to be, for those of the enumeration. -/
structure StartsWithUnknown (declared values : List String) : Prop where
  perm : values.Perm declared
  first : values.head? = some unknownEnumerator
  order : values.filter (· ≠ unknownEnumerator) = declared.filter (· ≠ unknownEnumerator)

theorem endsWithUnknown_iff (hdistinct : given.Nodup) :
    EndsWithUnknown given (declaredValues given) ↔ unknownEnumerator ∉ given := by
  constructor
  · exact fun h => (nodup_declaredValues_iff hdistinct).mp h.distinct
  · intro hnot
    exact
      { distinct := (nodup_declaredValues_iff hdistinct).mpr hnot
        once := count_declaredValues_eq_one_iff.mpr hnot
        last := getLast?_declaredValues
        order := filter_declaredValues }

theorem startsWithUnknown_iff (hdistinct : given.Nodup) :
    StartsWithUnknown (declaredValues given) (serializedValues (declaredValues given)) ↔
      unknownEnumerator ∉ given := by
  constructor
  · exact fun h => (perm_declaredValues_iff hdistinct).mp h.perm
  · intro hnot
    exact
      { perm := (perm_declaredValues_iff hdistinct).mpr hnot
        first := head?_serializedValues
        order := filter_serializedValues }

variable (name serialized : String) (es : List Enumerator)

/-- **An enumeration and its serialization agree** exactly if the unknown value is not among those
given. If it is, the enumeration declares it twice, where its serialization lists it once. -/
theorem enumeration_agrees_iff (hdistinct : (es.map (·.value)).Nodup) :
    let given := es.map (·.value)
    let declared := (Decl.ofEnumerators name es).values
    let listed := (Decl.ofValues serialized declared).values
    (EndsWithUnknown given declared ∧ StartsWithUnknown declared listed ↔
        unknownEnumerator ∉ given) ∧
      declared.getLast? = some unknownEnumerator ∧
      declared.filter (· ≠ unknownEnumerator) = given.filter (· ≠ unknownEnumerator) ∧
      listed.Nodup ∧
      listed.head? = some unknownEnumerator ∧
      listed.filter (· ≠ unknownEnumerator) = declared.filter (· ≠ unknownEnumerator) ∧
      declared.Perm (listed ++ if unknownEnumerator ∈ given then [unknownEnumerator] else []) := by
  intro given declared listed
  have hdeclared : declared = declaredValues given := values_ofEnumerators name es
  have hlisted : listed = serializedValues (declaredValues given) := by
    rw [← hdeclared]
    exact values_ofValues serialized declared
  rw [hlisted, hdeclared]
  refine ⟨?_, getLast?_declaredValues, filter_declaredValues, nodup_serializedValues hdistinct,
    head?_serializedValues, filter_serializedValues, perm_serialized hdistinct⟩
  rw [endsWithUnknown_iff hdistinct, startsWithUnknown_iff hdistinct, and_self]

/-- Two values, and the unknown one behind them. -/
theorem enumeration_agrees_on_off :
    let es : List Enumerator := [{ value := "ON" }, { value := "OFF" }]
    let declared := (Decl.ofEnumerators "Switch" es).values
    let listed := (Decl.ofValues "Switch" declared).values
    (es.map (·.value)).Nodup ∧
      declared = ["ON", "OFF", "UNKNOWN"] ∧ listed = ["UNKNOWN", "ON", "OFF"] ∧
      EndsWithUnknown (es.map (·.value)) declared ∧ StartsWithUnknown declared listed := by
  intro es declared listed
  have hdistinct : (es.map (·.value)).Nodup := by decide
  have hnot : unknownEnumerator ∉ es.map (·.value) := by decide
  exact ⟨hdistinct, rfl, rfl, (enumeration_agrees_iff "Switch" "Switch" es hdistinct).1.mpr hnot⟩

/-- An enumeration with a value of that name of its own has it twice, and its serialization is no
permutation of it. -/
theorem enumeration_repeats_unknown :
    let es : List Enumerator := [{ value := "UNKNOWN" }, { value := "A" }]
    let declared := (Decl.ofEnumerators "E" es).values
    let listed := (Decl.ofValues "E" declared).values
    (es.map (·.value)).Nodup ∧
      declared = ["UNKNOWN", "A", "UNKNOWN"] ∧ listed = ["UNKNOWN", "A"] ∧
      ¬ declared.Nodup ∧ declared.count unknownEnumerator = 2 ∧ ¬ listed.Perm declared := by
  decide

end SchemaGen
