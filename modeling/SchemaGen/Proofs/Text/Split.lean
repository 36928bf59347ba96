import SchemaGen.Proofs.Text.WholeWord

/-!
# Cutting texts

A text cut at one character is the list of the pieces that the character stands between: they are
free of it, and the text is made of them again (`splitOnChar_eq_iff`). A text without its end is
what stands before that end (`stripEnd?_eq_some`).
-/

set_option autoImplicit false

namespace SchemaGen.Text

theorem splitAll_eq_splitOn (sep : Char) :
    ∀ cs : List Char, splitAll (· == sep) cs = cs.splitOn sep
  | [] => rfl
  | c :: cs => by
    rw [splitAll, List.splitOn, List.splitOnP_cons_eq_if_modifyHead, splitAll_eq_splitOn sep cs,
      List.splitOn]
    split
    · rfl
    · cases hpieces : List.splitOnP (· == sep) cs with
      | nil => exact absurd hpieces (List.splitOnP_ne_nil _ cs)
      | cons piece pieces => rfl

theorem not_mem_of_mem_splitAll {sep : Char} {piece cs : List Char}
    (h : piece ∈ splitAll (· == sep) cs) : sep ∉ piece := by
  intro hmem
  have hfree : ∀ c ∈ piece, (c == sep) = false := by
    rcases mem_splitAll_iff.mp h with h | ⟨_, _, _, _, _, h⟩
    · exact h.1
    · exact h.1
  exact absurd (beq_self_eq_true sep) (Bool.eq_false_iff.mp (hfree sep hmem))

/-- What stands between the separators of a text is what it is cut into. -/
theorem splitOnChar_eq_iff {sep : Char} {text : String} {pieces : List String} :
    splitOnChar sep text = pieces ↔ pieces ≠ [] ∧ (∀ piece ∈ pieces, sep ∉ piece.toList) ∧
      text.toList = [sep].intercalate (pieces.map String.toList) := by
  constructor
  · rintro rfl
    refine ⟨?_, ?_, ?_⟩
    · rw [splitOnChar, splitAll_eq_splitOn, Ne, List.map_eq_nil_iff]
      exact List.splitOnP_ne_nil _ _
    · intro piece hpiece
      obtain ⟨cs, hcs, rfl⟩ := List.mem_map.mp hpiece
      rw [String.toList_ofList]
      exact not_mem_of_mem_splitAll hcs
    · have hchars : (splitOnChar sep text).map String.toList = text.toList.splitOn sep := by
        rw [splitOnChar, List.map_map, splitAll_eq_splitOn]
        exact (List.map_congr_left fun cs _ => String.toList_ofList).trans (List.map_id _)
      rw [hchars, List.intercalate_splitOn]
  · rintro ⟨hne, hfree, htext⟩
    have hpieces : text.toList.splitOn sep = pieces.map String.toList := by
      rw [htext]
      refine List.splitOn_intercalate sep ?_ ?_
      · intro cs hcs
        obtain ⟨piece, hpiece, rfl⟩ := List.mem_map.mp hcs
        exact hfree piece hpiece
      · rwa [Ne, List.map_eq_nil_iff]
    rw [splitOnChar, splitAll_eq_splitOn, hpieces, List.map_map]
    exact (List.map_congr_left fun piece _ => String.ofList_toList).trans (List.map_id _)

/-- A text that goes on behind a separator is cut there, and on both sides of it as before. -/
theorem splitOnChar_append_sep (sep : Char) (a b : String) :
    splitOnChar sep (a ++ String.singleton sep ++ b) = splitOnChar sep a ++ splitOnChar sep b := by
  have htext : (a ++ String.singleton sep ++ b).toList = a.toList ++ sep :: b.toList := by simp
  rw [splitOnChar, splitAll_eq_splitOn, htext, List.splitOn_append_cons_self, List.map_append,
    ← splitAll_eq_splitOn, ← splitAll_eq_splitOn, ← splitOnChar, ← splitOnChar]

/-! ## Starts and ends -/

theorem stripStart?_eq_some {p s rest : List Char} (h : stripStart? p s = some rest) :
    s = p ++ rest := by
  induction p generalizing s with
  | nil => simpa [stripStart?] using h
  | cons a p ih =>
    cases s with
    | nil => cases h
    | cons b s =>
      rw [stripStart?] at h
      split at h
      next hab => rw [hab, ih h, List.cons_append]
      next => cases h

theorem stripStart?_append (p rest : List Char) : stripStart? p (p ++ rest) = some rest := by
  induction p with
  | nil => rfl
  | cons a p ih => rw [List.cons_append, stripStart?, if_pos rfl, ih]

theorem isSome_stripStart?_iff {p s : List Char} : (stripStart? p s).isSome = true ↔ p <+: s := by
  constructor
  · intro h
    obtain ⟨rest, hrest⟩ := Option.isSome_iff_exists.mp h
    exact ⟨rest, (stripStart?_eq_some hrest).symm⟩
  · rintro ⟨rest, rfl⟩
    rw [stripStart?_append]
    rfl

/-- What stands before an occurrence of `p` is what comes before the first, exactly if `p` does not
start earlier. -/
theorem beforeFirst_append_iff {p : List Char} (hp : p ≠ []) (xs ys : List Char) :
    beforeFirst p (xs ++ (p ++ ys)) = xs ↔ ¬ p <:+: xs ++ p.dropLast := by
  have hlength : p.dropLast.length + 1 = p.length := by
    have hpos := List.length_pos_iff.mpr hp
    rw [List.length_dropLast]
    omega
  induction xs with
  | nil =>
    obtain ⟨a, p', rfl⟩ := List.exists_cons_of_ne_nil hp
    have hstart : (stripStart? (a :: p') (a :: (p' ++ ys))).isSome = true :=
      isSome_stripStart?_iff.mpr ⟨ys, rfl⟩
    rw [List.nil_append, List.nil_append, List.cons_append, beforeFirst, if_pos hstart]
    refine iff_of_true rfl fun hinfix => ?_
    have hle := hinfix.length_le
    omega
  | cons x xs ih =>
    -- an earlier start leaves too little room for `p` to reach behind its last occurrence
    have hstart : p <+: x :: (xs ++ (p ++ ys)) ↔ p <+: x :: (xs ++ p.dropLast) := by
      have hlast : p ++ ys = p.dropLast ++ (p.getLast hp :: ys) :=
        calc
          p ++ ys = p.dropLast ++ [p.getLast hp] ++ ys := by rw [List.dropLast_concat_getLast hp]
          _ = p.dropLast ++ (p.getLast hp :: ys) := by simp
      rw [hlast, ← List.append_assoc, ← List.cons_append]
      refine ⟨fun h => List.prefix_of_prefix_length_le h (List.prefix_append _ _) ?_,
        fun h => h.trans (List.prefix_append _ _)⟩
      simp only [List.length_cons, List.length_append]
      omega
    rw [List.cons_append, beforeFirst, List.cons_append, List.infix_cons_iff, ← hstart,
      ← isSome_stripStart?_iff]
    split
    next h => simp [h]
    next h => simp [h, ih]

/-- What stands behind an occurrence of `p` is what comes after the last, exactly if `p` does not
occur later. -/
theorem afterLast_append_iff {p : List Char} (hp : p ≠ []) (xs ys : List Char) :
    afterLast p (ys ++ (p ++ xs)) = xs ↔ ¬ p <:+: p.tail ++ xs := by
  have hreverse : (ys ++ (p ++ xs)).reverse = xs.reverse ++ (p.reverse ++ ys.reverse) := by simp
  have hinfix : p.reverse <:+: xs.reverse ++ p.reverse.dropLast ↔ p <:+: p.tail ++ xs := by
    rw [List.dropLast_reverse, ← List.reverse_append, List.reverse_infix]
  rw [afterLast, hreverse, List.reverse_eq_iff,
    beforeFirst_append_iff (by simpa using hp), hinfix]

theorem stripEnd?_eq_some {p s rest : List Char} (h : stripEnd? p s = some rest) :
    s = rest ++ p := by
  obtain ⟨reversed, hstart, rfl⟩ := Option.map_eq_some_iff.mp h
  rw [← List.reverse_inj, stripStart?_eq_some hstart, List.reverse_append, List.reverse_reverse]

theorem stripEnd?_append (rest p : List Char) : stripEnd? p (rest ++ p) = some rest := by
  rw [stripEnd?, List.reverse_append, stripStart?_append, Option.map_some, List.reverse_reverse]

theorem endsWith_iff {s p : String} : endsWith s p = true ↔ p.toList <:+ s.toList := by
  rw [endsWith, Option.isSome_iff_exists]
  constructor
  · rintro ⟨rest, h⟩
    exact ⟨rest, (stripEnd?_eq_some h).symm⟩
  · rintro ⟨rest, h⟩
    exact ⟨rest, h ▸ stripEnd?_append rest p.toList⟩

@[simp] theorem dropEnd_append (s p : String) : dropEnd (s ++ p) p = s := by
  rw [dropEnd, String.toList_append, stripEnd?_append, Option.map_some, Option.getD_some,
    String.ofList_toList]

/-- What is dropped at the end leaves no new character. -/
theorem mem_of_mem_dropEnd {s p : String} {c : Char} (h : c ∈ (dropEnd s p).toList) :
    c ∈ s.toList := by
  unfold dropEnd at h
  cases hend : stripEnd? p.toList s.toList with
  | none => simpa [hend] using h
  | some rest =>
    rw [stripEnd?_eq_some hend]
    exact List.mem_append_left _ (by simpa [hend] using h)

end SchemaGen.Text
