import Mathlib.Data.List.Basic
import Mathlib.Data.List.Nodup

/-!
# The order of texts

Texts are compared character by character, while a listing promises the order of their bytes. The
two are one order (`lt_iff_utf8_lt`): the encodings of two different characters part at some byte,
and the smaller character has the smaller byte there (`encoding_parts`).

Listings are sorted by texts, and things are looked up by them. Where no two things share a text the
listing goes up strictly, and each text finds the one thing that has it.
-/

set_option autoImplicit false

namespace SchemaGen.Text

/-- The bytes of a text in UTF-8. -/
def utf8 (s : String) : List UInt8 :=
  s.toList.flatMap String.utf8EncodeChar

/-- They are the bytes that a text is held in. -/
theorem utf8_eq_toByteArray (s : String) : utf8 s = s.toByteArray.data.toList := by
  conv_rhs => rw [← String.ofList_toList (s := s), String.toByteArray_ofList]
  rw [utf8, List.utf8Encode, List.toList_data_toByteArray]

/-- Two lists part at some place, and the first has the smaller byte there. What follows does not
matter then. -/
def PartsBelow (bs bs' : List UInt8) : Prop :=
  ∃ shared b b' rest rest', bs = shared ++ b :: rest ∧ bs' = shared ++ b' :: rest' ∧ b < b'

theorem PartsBelow.append_lt {bs bs' : List UInt8} (h : PartsBelow bs bs')
    (more more' : List UInt8) : bs ++ more < bs' ++ more' := by
  obtain ⟨shared, b, b', rest, rest', rfl, rfl, hlt⟩ := h
  rw [List.append_assoc, List.append_assoc]
  exact List.append_left_lt (List.cons_lt_cons_iff.mpr (Or.inl hlt))

theorem ofNat_lt_ofNat {m n : Nat} (h : m < n) (hn : n < 256) :
    UInt8.ofNat m < UInt8.ofNat n := by
  rw [UInt8.lt_iff_toNat_lt, UInt8.toNat_ofNat_of_lt' (Nat.lt_trans h hn),
    UInt8.toNat_ofNat_of_lt' hn]
  exact h

theorem partsBelow_head {m n : Nat} (rest rest' : List UInt8) (h : m < n) (hn : n < 256) :
    PartsBelow (.ofNat m :: rest) (.ofNat n :: rest') :=
  ⟨[], _, _, rest, rest', rfl, rfl, ofNat_lt_ofNat h hn⟩

/-- Where the first bytes agree, the next ones decide. -/
theorem PartsBelow.cons {m n : Nat} {rest rest' : List UInt8} (hmn : m ≤ n) (hn : n < 256)
    (h : m = n → PartsBelow rest rest') : PartsBelow (.ofNat m :: rest) (.ofNat n :: rest') := by
  rcases Nat.lt_or_eq_of_le hmn with hlt | rfl
  · exact partsBelow_head rest rest' hlt hn
  · obtain ⟨shared, b, b', more, more', rfl, rfl, hb⟩ := h rfl
    exact ⟨.ofNat m :: shared, b, b', more, more', rfl, rfl, hb⟩

/-- **Encodings of different characters part**, and in the order of the characters. -/
theorem encoding_parts {c d : Char} (h : c < d) :
    PartsBelow (String.utf8EncodeChar c) (String.utf8EncodeChar d) := by
  have hval : c.val.toNat < d.val.toNat := h
  have hd : d.val.toNat < 1114112 := by
    rcases d.valid with hd | ⟨-, hd⟩ <;> omega
  unfold String.utf8EncodeChar
  generalize c.val.toNat = m at hval
  generalize d.val.toNat = n at hval hd
  dsimp only
  -- a longer encoding has a larger first byte; of two that are equally long, the first bytes are
  -- compared, and then those behind them
  split
  · split
    · exact partsBelow_head _ _ hval (by omega)
    · split
      · exact partsBelow_head _ _ (by omega) (by omega)
      · split <;> exact partsBelow_head _ _ (by omega) (by omega)
  · rw [if_neg (show ¬ n ≤ 127 by omega)]
    split
    · split
      · refine .cons (by omega) (by omega) fun _ => ?_
        exact partsBelow_head _ _ (by omega) (by omega)
      · split <;> exact partsBelow_head _ _ (by omega) (by omega)
    · rw [if_neg (show ¬ n ≤ 2047 by omega)]
      split
      · split
        · refine .cons (by omega) (by omega) fun _ => .cons (by omega) (by omega) fun _ => ?_
          exact partsBelow_head _ _ (by omega) (by omega)
        · exact partsBelow_head _ _ (by omega) (by omega)
      · rw [if_neg (show ¬ n ≤ 65535 by omega)]
        refine .cons (by omega) (by omega) fun _ => .cons (by omega) (by omega) fun _ =>
          .cons (by omega) (by omega) fun _ => ?_
        exact partsBelow_head _ _ (by omega) (by omega)

theorem flatMap_encoding_lt {cs ds : List Char} (h : cs < ds) :
    cs.flatMap String.utf8EncodeChar < ds.flatMap String.utf8EncodeChar := by
  -- by the way in which the lists are compared: one ends, they part, or they share a character
  induction h with
  | @nil d ds =>
    rw [List.flatMap_nil, List.flatMap_cons]
    cases hd : String.utf8EncodeChar d with
    | nil => exact absurd hd String.utf8EncodeChar_ne_nil
    | cons b bs => exact List.nil_lt_cons _ _
  | rel hlt => exact (encoding_parts hlt).append_lt _ _
  | cons _ ih => exact List.append_left_lt ih

/-- **The order of texts is that of their bytes.** -/
theorem lt_iff_utf8_lt {s t : String} : s < t ↔ utf8 s < utf8 t := by
  refine ⟨flatMap_encoding_lt, fun h => ?_⟩
  rcases Std.lt_trichotomy s t with hst | rfl | hts
  · exact hst
  · exact absurd h (List.lt_irrefl _)
  · exact absurd h (List.lt_asymm (flatMap_encoding_lt hts))

/-! ## Lists with a text for a key -/

section Keys

variable {α : Type} {key : α → String} {xs : List α}

/-- If no two share a key, a key finds whatever has it. -/
theorem find?_key_eq_some_iff (hdistinct : (xs.map key).Nodup) {name : String} {x : α} :
    xs.find? (key · = name) = some x ↔ x ∈ xs ∧ key x = name := by
  constructor
  · intro h
    exact ⟨List.mem_of_find?_eq_some h, by simpa using List.find?_some h⟩
  · rintro ⟨hx, hname⟩
    have hsome : (xs.find? (key · = name)).isSome = true :=
      List.find?_isSome.mpr ⟨x, hx, decide_eq_true hname⟩
    obtain ⟨y, hy⟩ := Option.isSome_iff_exists.mp hsome
    have hyname : key y = name := by simpa using List.find?_some hy
    rw [hy, List.inj_on_of_nodup_map hdistinct (List.mem_of_find?_eq_some hy) hx
      (hyname.trans hname.symm)]

/-- Sorted by texts that no two share, a list goes up strictly. -/
theorem pairwise_mergeSort_lt (hdistinct : (xs.map key).Nodup) :
    (xs.mergeSort fun a b => !decide (key b < key a)).Pairwise fun a b => key a < key b := by
  have hsorted : (xs.mergeSort fun a b => !decide (key b < key a)).Pairwise
      fun a b => (!decide (key b < key a)) = true := by
    refine List.pairwise_mergeSort (fun a b d hab hbd => ?_) (fun a b => ?_) xs
    · simp only [Bool.not_eq_true', decide_eq_false_iff_not, String.not_lt] at hab hbd ⊢
      exact String.le_trans hab hbd
    · simp only [Bool.or_eq_true, Bool.not_eq_true', decide_eq_false_iff_not, String.not_lt]
      exact String.le_total _ _
  have hapart : (xs.mergeSort fun a b => !decide (key b < key a)).Pairwise
      fun a b => key a ≠ key b := by
    have hperm := (List.mergeSort_perm xs fun a b => !decide (key b < key a)).map key
    exact List.pairwise_map.mp (hperm.nodup_iff.mpr hdistinct)
  refine (hsorted.and hapart).imp fun {a b} h => ?_
  have hle : ¬ key b < key a := by simpa using h.1
  rcases Std.lt_trichotomy (key a) (key b) with hlt | heq | hgt
  · exact hlt
  · exact absurd heq h.2
  · exact absurd hgt hle

end Keys

end SchemaGen.Text
