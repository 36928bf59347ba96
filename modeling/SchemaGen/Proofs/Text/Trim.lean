import Mathlib.Data.List.TakeWhile
import SchemaGen.Text.Words

/-!
# Trimming

What a text is trimmed to is the one trimmed text that it has white space around
(`exists_eq_trimChars`, `trimChars_eq_of_trimmed`). All else follows: white space put around a text
does not change what it is trimmed to, and trimming twice is trimming once.
-/

set_option autoImplicit false

namespace SchemaGen.Text

/-- Nothing but white space. -/
def Spaces (cs : List Char) : Prop :=
  ∀ c ∈ cs, isSpace c = true

theorem spaces_nil : Spaces [] :=
  fun _ hc => by cases hc

theorem Spaces.append {a b : List Char} (ha : Spaces a) (hb : Spaces b) : Spaces (a ++ b) := by
  intro c hc
  rcases List.mem_append.mp hc with hc | hc
  · exact ha c hc
  · exact hb c hc

/-- A text that neither starts nor ends with white space. -/
structure Trimmed (cs : List Char) : Prop where
  head : ∀ c ∈ cs.head?, isSpace c = false
  last : ∀ c ∈ cs.getLast?, isSpace c = false

/-! ## Dropping at one end -/

theorem forall_head?_cons {P : Char → Prop} {c : Char} {cs : List Char} (h : P c) :
    ∀ c' ∈ (c :: cs).head?, P c' := by
  intro c' hc'
  cases Option.mem_some_iff.mp hc'
  exact h

theorem dropWhile_eq_self {p : Char → Bool} {cs : List Char}
    (h : ∀ c ∈ cs.head?, p c = false) : cs.dropWhile p = cs := by
  cases cs with
  | nil => rfl
  | cons c cs => rw [List.dropWhile_cons, h c rfl]; rfl

/-- What is dropped at the start of a text, and the rest, which does not start so. -/
theorem exists_eq_dropWhile (p : Char → Bool) (cs : List Char) :
    ∃ dropped, (∀ c ∈ dropped, p c = true) ∧ cs = dropped ++ cs.dropWhile p ∧
      ∀ c ∈ (cs.dropWhile p).head?, p c = false := by
  refine ⟨cs.takeWhile p, fun c hc => List.mem_takeWhile_imp hc,
    List.takeWhile_append_dropWhile.symm, fun c hc => ?_⟩
  have hhead := List.head?_dropWhile_not p cs
  rwa [Option.mem_def.mp hc] at hhead

theorem dropEndWhile_append {p : Char → Bool} {cs dropped : List Char}
    (hdropped : ∀ c ∈ dropped, p c = true) (hlast : ∀ c ∈ cs.getLast?, p c = false) :
    dropEndWhile p (cs ++ dropped) = cs := by
  rw [dropEndWhile, List.reverse_append, List.dropWhile_append_of_pos, dropWhile_eq_self,
    List.reverse_reverse]
  · rwa [List.head?_reverse]
  · intro c hc
    exact hdropped c (List.mem_reverse.mp hc)

theorem exists_eq_dropEndWhile (p : Char → Bool) (cs : List Char) :
    ∃ dropped, (∀ c ∈ dropped, p c = true) ∧ cs = dropEndWhile p cs ++ dropped ∧
      ∀ c ∈ (dropEndWhile p cs).getLast?, p c = false := by
  obtain ⟨dropped, hdropped, heq, hhead⟩ := exists_eq_dropWhile p cs.reverse
  refine ⟨dropped.reverse, ?_, ?_, ?_⟩
  · intro c hc
    exact hdropped c (List.mem_reverse.mp hc)
  · rw [dropEndWhile, ← List.reverse_append, ← heq, List.reverse_reverse]
  · rwa [dropEndWhile, List.getLast?_reverse]

theorem mem_head?_dropEndWhile {p : Char → Bool} {cs : List Char} {c : Char}
    (h : c ∈ (dropEndWhile p cs).head?) : c ∈ cs.head? := by
  obtain ⟨dropped, -, heq, -⟩ := exists_eq_dropEndWhile p cs
  rw [heq, List.head?_append, Option.mem_def.mp h]
  rfl

/-! ## Trimming at both ends -/

/-- A trimmed text starts with the first character that is not white space. -/
theorem mem_head?_trimChars {cs : List Char} {c : Char} (h : c ∈ (trimChars cs).head?) :
    c ∈ (cs.dropWhile isSpace).head? :=
  mem_head?_dropEndWhile h

/-- A text is white space around its trimmed text. -/
theorem exists_eq_trimChars (cs : List Char) :
    ∃ before after, Spaces before ∧ Spaces after ∧ Trimmed (trimChars cs) ∧
      cs = before ++ trimChars cs ++ after := by
  obtain ⟨before, hbefore, hcs, hhead⟩ := exists_eq_dropWhile isSpace cs
  obtain ⟨after, hafter, hrest, hlast⟩ := exists_eq_dropEndWhile isSpace (cs.dropWhile isSpace)
  refine ⟨before, after, hbefore, hafter,
    ⟨fun c hc => hhead c (mem_head?_trimChars hc), hlast⟩, ?_⟩
  rw [List.append_assoc]
  exact hcs.trans (congrArg (before ++ ·) hrest)

/-- No other trimmed text is. -/
theorem trimChars_eq_of_trimmed {before cs after : List Char} (hbefore : Spaces before)
    (h : Trimmed cs) (hafter : Spaces after) : trimChars (before ++ cs ++ after) = cs := by
  rw [List.append_assoc, trimChars, stripWhile, List.dropWhile_append_of_pos hbefore]
  cases cs with
  | nil =>
    have hall : after.dropWhile isSpace = [] := List.dropWhile_eq_nil_iff.mpr hafter
    rw [List.nil_append, hall]
    rfl
  | cons c cs =>
    have hkeep : (c :: cs ++ after).dropWhile isSpace = c :: cs ++ after :=
      dropWhile_eq_self fun c' hc' => h.head c' hc'
    rw [hkeep]
    exact dropEndWhile_append hafter h.last

theorem Trimmed.trimChars_eq {cs : List Char} (h : Trimmed cs) : trimChars cs = cs := by
  simpa using trimChars_eq_of_trimmed spaces_nil h spaces_nil

theorem trimmed_trimChars (cs : List Char) : Trimmed (trimChars cs) := by
  obtain ⟨_, _, _, _, h, _⟩ := exists_eq_trimChars cs
  exact h

/-- Trimming takes nothing but white space. -/
theorem mem_trimChars_iff {cs : List Char} {c : Char} (h : isSpace c = false) :
    c ∈ trimChars cs ↔ c ∈ cs := by
  obtain ⟨before, after, hbefore, hafter, -, hcs⟩ := exists_eq_trimChars cs
  have hfree : ∀ {spaces : List Char}, Spaces spaces → c ∉ spaces := fun hspaces hc =>
    absurd (hspaces c hc) (by rw [h]; exact Bool.false_ne_true)
  have hmem : c ∈ cs ↔ c ∈ before ++ trimChars cs ++ after := by rw [← hcs]
  rw [hmem]
  simp only [List.mem_append, hfree hbefore, hfree hafter, false_or, or_false]

/-- White space around a text is trimmed away. -/
theorem trimChars_surround {before cs after : List Char} (hbefore : Spaces before)
    (hafter : Spaces after) : trimChars (before ++ cs ++ after) = trimChars cs := by
  obtain ⟨before', after', hbefore', hafter', h, hcs⟩ := exists_eq_trimChars cs
  have heq : before ++ cs ++ after = (before ++ before') ++ trimChars cs ++ (after' ++ after) := by
    refine (congrArg (fun text => before ++ text ++ after) hcs).trans ?_
    simp only [List.append_assoc]
  rw [heq]
  exact trimChars_eq_of_trimmed (hbefore.append hbefore') h (hafter'.append hafter)

end SchemaGen.Text
