import SchemaGen.Proofs.Text.Trim
import SchemaGen.Text.Naming

/-!
# Slashes in snake case

Names of files come from names of schemas in snake case. No letter has a slash for its lower case
(`toLower_eq_slash`), and so a name without slashes stays one (`no_slash_snake`); and the slashes
that are there stay (`slash_mem_snake_iff`).
-/

set_option autoImplicit false

namespace SchemaGen.Text

/-- No lower case partner is as small as a slash. -/
theorem targets_toLowerRuns : ∀ run ∈ toLowerRuns.toList, '/'.toNat < run.target := by
  decide +kernel

theorem slash_lt_mapRuns_toLower {n : Nat} (h : '/'.toNat < n) :
    '/'.toNat < mapRuns toLowerRuns n := by
  unfold mapRuns
  cases hfound : toLowerRuns.findSome? (·.partner? n) with
  | none => exact h
  | some m =>
    obtain ⟨run, hrun, hpartner⟩ := Array.exists_of_findSome?_eq_some hfound
    unfold CaseRun.partner? at hpartner
    split at hpartner
    · have := targets_toLowerRuns run (by simpa using hrun)
      cases hpartner
      rw [Option.getD_some]
      omega
    · cases hpartner

theorem ofNat_ne_slash {n : Nat} (h : '/'.toNat < n) : Char.ofNat n ≠ '/' := by
  intro hslash
  by_cases hvalid : n.isValidChar
  · have hchar : Char.ofNat n = Char.ofNatAux n hvalid := dif_pos hvalid
    have hn : n = '/'.toNat := congrArg Char.toNat (hchar.symm.trans hslash)
    omega
  · have hchar : Char.ofNat n = '\x00' := dif_neg hvalid
    exact absurd (hchar.symm.trans hslash) (by decide)

theorem toLower_eq_slash {c : Char} (h : toLower c = '/') : c = '/' := by
  unfold toLower at h
  split at h
  · unfold Char.toLower at h
    split at h
    next hupper =>
      -- a lower case letter is larger than a slash
      have hval : (c.val + 32).toNat = 47 := congrArg (·.val.toNat) h
      have hlow : 65 ≤ c.val.toNat := hupper.1
      have hhigh : c.val.toNat ≤ 90 := hupper.2
      rw [UInt32.toNat_add] at hval
      have h32 : (32 : UInt32).toNat = 32 := rfl
      omega
    next => exact h
  next hlarge =>
    have hslash : '/'.toNat < c.toNat := Nat.lt_of_lt_of_le (by decide) (Nat.not_lt.mp hlarge)
    exact absurd h (ofNat_ne_slash (slash_lt_mapRuns_toLower hslash))

theorem no_slash_snakeFrom {prev : Option Char} {cs : List Char} (h : '/' ∉ cs) :
    '/' ∉ snakeFrom prev cs := by
  induction cs generalizing prev with
  | nil => exact h
  | cons c cs ih =>
    rw [List.mem_cons, not_or] at h
    rw [snakeFrom, List.mem_append, List.mem_cons, not_or, not_or]
    refine ⟨?_, ?_, ih h.2⟩
    · split <;> decide
    · split
      · decide
      · exact fun hslash => h.1 (toLower_eq_slash hslash.symm).symm

theorem no_slash_snake {s : String} (h : '/' ∉ s.toList) : '/' ∉ (snake s).toList := by
  rw [snake, String.toList_ofList]
  refine no_slash_snakeFrom fun hmem => h ?_
  obtain ⟨before, after, -, -, -, htext⟩ := exists_eq_trimChars s.toList
  rw [htext]
  exact List.mem_append_left _ (List.mem_append_right _ hmem)

theorem slash_mem_snakeFrom {prev : Option Char} {cs : List Char} (h : '/' ∈ cs) :
    '/' ∈ snakeFrom prev cs := by
  induction cs generalizing prev with
  | nil => exact h
  | cons c cs ih =>
    rw [snakeFrom, List.mem_append, List.mem_cons]
    rcases List.mem_cons.mp h with rfl | h
    · exact .inr (.inl (by decide))
    · exact .inr (.inr (ih h))

/-- Snake case keeps slashes and makes none. -/
theorem slash_mem_snake_iff {s : String} : '/' ∈ (snake s).toList ↔ '/' ∈ s.toList := by
  constructor
  · exact fun h => by_contra fun hfree => no_slash_snake hfree h
  · intro h
    rw [snake, String.toList_ofList]
    exact slash_mem_snakeFrom ((mem_trimChars_iff (by decide)).mpr h)

/-- White space around a text does not show in snake case. -/
theorem snake_trim (s : String) : snake (trim s) = snake s := by
  rw [snake, trim, String.toList_ofList, (trimmed_trimChars s.toList).trimChars_eq, ← snake]

end SchemaGen.Text
