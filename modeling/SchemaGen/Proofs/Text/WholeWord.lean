import SchemaGen.Text.Words

/-!
# Whole words

What `Text.identifiers` finds, said without splitting: a whole word of a text is a run of
identifier characters with no such character on either side of it.

`splitAll` is read as one head piece, the characters before the first separator, and the pieces
that each stand behind a separator of their own (`splitAll_eq`). The first is where a decomposition
`a ++ w ++ b` has an empty `a`; the others are where `a` ends with a separator. Everything that is
said about words elsewhere goes through `mem_identifiers_iff`.
-/

set_option autoImplicit false

namespace SchemaGen.Text

/-! ## Pieces between separators -/

/-- `w` is free of separators and ends where `cs` ends or at a separator. -/
def IsPieceAt (sep : Char → Bool) (w cs : List Char) : Prop :=
  (∀ c ∈ w, sep c = false) ∧ ∃ b, cs = w ++ b ∧ ∀ c ∈ b.head?, sep c = true

/-- `w` is such a piece directly behind a separator. -/
def IsPieceBehind (sep : Char → Bool) (w cs : List Char) : Prop :=
  ∃ a s rest, cs = a ++ s :: rest ∧ sep s = true ∧ IsPieceAt sep w rest

theorem isPieceAt_cons_of_sep {sep : Char → Bool} {c : Char} {w cs : List Char}
    (hc : sep c = true) : IsPieceAt sep w (c :: cs) ↔ w = [] := by
  constructor
  · rintro ⟨hw, b, hb, _⟩
    cases w with
    | nil => rfl
    | cons d w =>
      have hd : c = d := (List.cons.inj hb).1
      have := hw d (by simp)
      rw [← hd, hc] at this
      cases this
  · rintro rfl
    exact ⟨by simp, c :: cs, rfl, by simp [hc]⟩

theorem isPieceAt_cons_of_not_sep {sep : Char → Bool} {c : Char} {w cs : List Char}
    (hc : sep c = false) : IsPieceAt sep w (c :: cs) ↔ ∃ v, w = c :: v ∧ IsPieceAt sep v cs := by
  constructor
  · rintro ⟨hw, b, hb, hsep⟩
    cases w with
    | nil =>
      -- the remainder would start with `c`, which is no separator
      rw [List.nil_append] at hb
      subst hb
      have := hsep c (by simp)
      rw [hc] at this
      cases this
    | cons d w =>
      obtain ⟨rfl, rfl⟩ := List.cons.inj hb
      exact ⟨w, rfl, fun x hx => hw x (by simp [hx]), b, rfl, hsep⟩
  · rintro ⟨v, rfl, hv, b, rfl, hsep⟩
    refine ⟨?_, b, rfl, hsep⟩
    intro x hx
    rcases List.mem_cons.mp hx with rfl | hx
    · exact hc
    · exact hv x hx

theorem isPieceBehind_cons {sep : Char → Bool} {c : Char} {w cs : List Char} :
    IsPieceBehind sep w (c :: cs) ↔
      (sep c = true ∧ IsPieceAt sep w cs) ∨ IsPieceBehind sep w cs := by
  constructor
  · rintro ⟨a, s, rest, hcs, hs, hw⟩
    cases a with
    | nil =>
      obtain ⟨rfl, rfl⟩ := List.cons.inj hcs
      exact Or.inl ⟨hs, hw⟩
    | cons x a =>
      obtain ⟨rfl, rfl⟩ := List.cons.inj hcs
      exact Or.inr ⟨a, s, rest, rfl, hs, hw⟩
  · rintro (⟨hc, hw⟩ | ⟨a, s, rest, rfl, hs, hw⟩)
    · exact ⟨[], c, cs, rfl, hc, hw⟩
    · exact ⟨c :: a, s, rest, rfl, hs, hw⟩

/-- The pieces of a text are one that starts it and those behind its separators. -/
theorem splitAll_eq (sep : Char → Bool) :
    ∀ cs : List Char, ∃ first rest, splitAll sep cs = first :: rest ∧
      (∀ w, w = first ↔ IsPieceAt sep w cs) ∧ (∀ w, w ∈ rest ↔ IsPieceBehind sep w cs)
  | [] => by
    refine ⟨[], [], rfl, fun w => ?_, fun w => ?_⟩
    · constructor
      · rintro rfl
        exact ⟨by simp, [], rfl, by simp⟩
      · rintro ⟨_, b, hb, _⟩
        exact (List.append_eq_nil_iff.mp hb.symm).1
    · simp [IsPieceBehind]
  | c :: cs => by
    obtain ⟨first, rest, heq, hfirst, hrest⟩ := splitAll_eq sep cs
    cases hc : sep c with
    | true =>
      refine ⟨[], first :: rest, by simp [splitAll, hc, heq], fun w => ?_, fun w => ?_⟩
      · exact (isPieceAt_cons_of_sep hc).symm
      · rw [isPieceBehind_cons, List.mem_cons, hfirst, hrest]
        simp [hc]
    | false =>
      refine ⟨c :: first, rest, by simp [splitAll, hc, heq], fun w => ?_, fun w => ?_⟩
      · rw [isPieceAt_cons_of_not_sep hc]
        constructor
        · rintro rfl
          exact ⟨first, rfl, (hfirst first).mp rfl⟩
        · rintro ⟨v, rfl, hv⟩
          rw [(hfirst v).mpr hv]
      · rw [isPieceBehind_cons, hrest]
        simp [hc]

theorem mem_splitAll_iff {sep : Char → Bool} {w cs : List Char} :
    w ∈ splitAll sep cs ↔ IsPieceAt sep w cs ∨ IsPieceBehind sep w cs := by
  obtain ⟨first, rest, heq, hfirst, hrest⟩ := splitAll_eq sep cs
  rw [heq, List.mem_cons, hfirst, hrest]

/-! ## Words -/

/-- A non-empty run of identifier characters. -/
def IsWord (w : String) : Prop :=
  w ≠ "" ∧ ∀ c ∈ w.toList, isIdentChar c = true

/-- A word that stands in a text with no identifier character next to it. -/
def WholeWord (w text : String) : Prop :=
  IsWord w ∧ ∃ a b, text.toList = a ++ w.toList ++ b ∧
    (∀ c ∈ a.getLast?, isIdentChar c = false) ∧ (∀ c ∈ b.head?, isIdentChar c = false)

theorem isPiece_iff {w cs : List Char} :
    (IsPieceAt (fun c => !isIdentChar c) w cs ∨ IsPieceBehind (fun c => !isIdentChar c) w cs) ↔
      (∀ c ∈ w, isIdentChar c = true) ∧ ∃ a b, cs = a ++ w ++ b ∧
        (∀ c ∈ a.getLast?, isIdentChar c = false) ∧ (∀ c ∈ b.head?, isIdentChar c = false) := by
  constructor
  · rintro (⟨hw, b, rfl, hb⟩ | ⟨a, s, rest, rfl, hs, hw, b, rfl, hb⟩)
    · exact ⟨by simpa using hw, [], b, rfl, by simp, by simpa using hb⟩
    · refine ⟨by simpa using hw, a ++ [s], b, by simp, ?_, by simpa using hb⟩
      intro c hc
      have hcs : s = c := by simpa using hc
      rw [← hcs]
      simpa using hs
  · rintro ⟨hw, a, b, rfl, ha, hb⟩
    have hpiece : IsPieceAt (fun c => !isIdentChar c) w (w ++ b) :=
      ⟨by simpa using hw, b, rfl, by simpa using hb⟩
    rcases List.eq_nil_or_concat a with rfl | ⟨a, s, rfl⟩
    · exact Or.inl hpiece
    · have hs : isIdentChar s = false := ha s (by simp)
      exact Or.inr ⟨a, s, w ++ b, by simp, by simp [hs], hpiece⟩

/-- **The identifiers of a text are its whole words.** -/
theorem mem_identifiers_iff {w text : String} : w ∈ identifiers text ↔ WholeWord w text := by
  have hmem : w ∈ identifiers text ↔
      w ≠ "" ∧ w.toList ∈ splitAll (fun c => !isIdentChar c) text.toList := by
    unfold identifiers fields
    rw [List.mem_map]
    constructor
    · rintro ⟨cs, hcs, rfl⟩
      obtain ⟨hin, hne⟩ := List.mem_filter.mp hcs
      refine ⟨?_, by simpa using hin⟩
      rintro hempty
      have : cs = [] := by simpa using congrArg String.toList hempty
      simp [this] at hne
    · rintro ⟨hne, hin⟩
      refine ⟨w.toList, List.mem_filter.mpr ⟨hin, ?_⟩, String.ofList_toList⟩
      have : w.toList ≠ [] := fun h => hne (by rw [← String.ofList_toList (s := w), h])
      simpa using this
  rw [hmem, mem_splitAll_iff, isPiece_iff]
  exact ⟨fun ⟨hne, hw, h⟩ => ⟨⟨hne, hw⟩, h⟩, fun ⟨⟨hne, hw⟩, h⟩ => ⟨hne, hw, h⟩⟩

/-- A whole word of a text cuts it into what stands before the word, the word, and the rest. -/
theorem wholeWord_iff_append {w text : String} :
    WholeWord w text ↔ IsWord w ∧ ∃ before after : String, text = before ++ w ++ after ∧
      (∀ c ∈ before.toList.getLast?, isIdentChar c = false) ∧
      (∀ c ∈ after.toList.head?, isIdentChar c = false) := by
  refine and_congr_right fun _ => ⟨?_, ?_⟩
  · rintro ⟨a, b, htext, ha, hb⟩
    refine ⟨String.ofList a, String.ofList b, ?_, by simpa using ha, by simpa using hb⟩
    rw [← String.toList_inj, htext]
    simp [String.toList_append]
  · rintro ⟨before, after, rfl, hbefore, hafter⟩
    exact ⟨before.toList, after.toList, by simp [String.toList_append], hbefore, hafter⟩

/-- A word between two texts that end and start outside of it is a whole word of them all. -/
theorem wholeWord_of_append {w before after : String} (hw : IsWord w)
    (hbefore : ∀ c ∈ before.toList.getLast?, isIdentChar c = false)
    (hafter : ∀ c ∈ after.toList.head?, isIdentChar c = false) :
    WholeWord w (before ++ w ++ after) :=
  wholeWord_iff_append.mpr ⟨hw, before, after, rfl, hbefore, hafter⟩

end SchemaGen.Text
