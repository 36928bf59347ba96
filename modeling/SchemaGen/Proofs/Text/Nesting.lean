import SchemaGen.Proofs.Text.Literal
import SchemaGen.Proofs.Text.Split

/-!
# Nested texts

A text is well nested if every line of it has a given indentation, if it closes as many braces as it
opens, and if nothing is closed before it is opened (`WellNested`). Generated text is put together
from lines, and lines from pieces, so what is proved of a piece is how many braces are open behind
it, given how many were open before it (`openAfter`). Most pieces leave the number as it is: names,
types and values without brace and line feed (`Plain`), and all that is made of them.

A line feed ends a line and with it the count, so a line that is counted to its end has none, and
the lines of the text are those that it was put together from (`wellNested_intercalate`).
-/

set_option autoImplicit false

namespace SchemaGen.Text

/-! ## Plain texts -/

/-- Neither a brace nor a line feed. -/
def IsPlain (c : Char) : Prop :=
  c ≠ '\x7b' ∧ c ≠ '\x7d' ∧ c ≠ '\n'

instance (c : Char) : Decidable (IsPlain c) :=
  inferInstanceAs (Decidable (_ ∧ _ ∧ _))

/-- No brace and no line feed in a text. -/
def Plain (s : String) : Prop :=
  ∀ c ∈ s.toList, IsPlain c

-- Named, since a search may answer with a run through all characters that there are.
instance (s : String) : Decidable (Plain s) :=
  List.decidableBAll IsPlain s.toList

theorem plain_empty : Plain "" := by decide

theorem Plain.append {a b : String} (ha : Plain a) (hb : Plain b) : Plain (a ++ b) := by
  intro c hc
  rw [String.toList_append] at hc
  exact (List.mem_append.mp hc).elim (ha c) (hb c)

theorem plain_intercalate {sep : String} (hsep : Plain sep) :
    ∀ {pieces : List String}, (∀ s ∈ pieces, Plain s) → Plain (sep.intercalate pieces)
  | [], _ => String.intercalate_nil ▸ plain_empty
  | [s], h => by simpa using h s
  | s :: s' :: pieces, h => by
    have hrest : Plain (sep.intercalate (s' :: pieces)) :=
      plain_intercalate hsep fun x hx => h x (List.mem_cons_of_mem s hx)
    rw [String.intercalate_cons_cons]
    exact ((h s List.mem_cons_self).append hsep).append hrest

theorem isPlain_of_isDigit {c : Char} (h : c.isDigit = true) : IsPlain c := by
  refine ⟨?_, ?_, ?_⟩ <;> rintro rfl <;> exact absurd h (by decide)

theorem isPlain_of_isHexDigit {c : Char} (h : isHexDigit c = true) : IsPlain c := by
  refine ⟨?_, ?_, ?_⟩ <;> rintro rfl <;> exact absurd h (by decide)

theorem plain_repr (n : Nat) : Plain n.repr := by
  intro c hc
  rw [Nat.toList_repr] at hc
  exact isPlain_of_isDigit (Nat.isDigit_of_mem_toDigits (by decide) (by decide) hc)

theorem isPlain_of_escapeLetter? {c letter : Char} (h : escapeLetter? c = some letter) :
    IsPlain letter := by
  unfold escapeLetter? at h
  split at h <;> cases h <;> decide

/-- A spelled character brings in backslashes, letters and digits only. -/
theorem isPlain_of_mem_escapeChar {c d : Char} (hd : IsPlain d) (h : c ∈ escapeChar d) :
    IsPlain c := by
  have hslash : IsPlain '\\' := by decide
  have hdigits {mark : Char} (hmark : IsPlain mark) {width n : Nat}
      (hc : c ∈ '\\' :: mark :: hexDigits width n) : IsPlain c := by
    rcases List.mem_cons.mp hc with rfl | hc
    · exact hslash
    rcases List.mem_cons.mp hc with rfl | hc
    · exact hmark
    · exact isPlain_of_isHexDigit (isHexDigit_of_mem_hexDigits hc)
  unfold escapeChar at h
  split at h
  · rcases List.mem_pair.mp h with rfl | rfl
    · exact hslash
    · exact hd
  split at h
  · exact List.mem_singleton.mp h ▸ hd
  split at h
  next letter hletter =>
    rcases List.mem_pair.mp h with rfl | rfl
    · exact hslash
    · exact isPlain_of_escapeLetter? hletter
  next =>
    dsimp only at h
    split at h
    · exact hdigits (by decide) h
    split at h
    · exact hdigits (by decide) h
    · exact hdigits (by decide) h

theorem Plain.quoted {s : String} (h : Plain s) : Plain (quoted s) := by
  intro c hc
  rw [Text.quoted, String.toList_ofList] at hc
  rcases List.mem_append.mp hc with hc | hc
  · rcases List.mem_cons.mp hc with rfl | hc
    · decide
    · obtain ⟨d, hd, hc⟩ := List.mem_flatMap.mp hc
      exact isPlain_of_mem_escapeChar (h d hd) hc
  · rw [List.mem_singleton.mp hc]
    decide

/-! ## Counting open braces -/

/-- How many braces are open behind a character of a line, if `n` were open before it. There is no
answer where none is open to be closed, and where the line ends. -/
def openAfterChar (n : Nat) (c : Char) : Option Nat :=
  if c = '\x7b' then some (n + 1)
  else if c = '\x7d' then if n = 0 then none else some (n - 1)
  else if c = '\n' then none
  else some n

/-- How many braces are open behind a piece of a line. -/
def openAfter (n : Nat) (piece : String) : Option Nat :=
  piece.toList.foldlM openAfterChar n

/-- How many braces are open behind several lines. -/
def openAfterLines (n : Nat) (ls : List String) : Option Nat :=
  ls.foldlM openAfter n

theorem openAfterChar_of_isPlain {c : Char} (h : IsPlain c) (n : Nat) :
    openAfterChar n c = some n := by
  rw [openAfterChar, if_neg h.1, if_neg h.2.1, if_neg h.2.2]

@[simp] theorem openAfter_append (n : Nat) (a b : String) :
    openAfter n (a ++ b) = (openAfter n a).bind (openAfter · b) := by
  rw [openAfter, String.toList_append, List.foldlM_append]
  rfl

@[simp low] theorem openAfter_of_plain {s : String} (h : Plain s) (n : Nat) :
    openAfter n s = some n := by
  unfold Plain at h
  rw [openAfter]
  generalize s.toList = cs at h ⊢
  induction cs with
  | nil => rfl
  | cons c cs ih =>
    obtain ⟨hc, hcs⟩ := List.forall_mem_cons.mp h
    rw [List.foldlM_cons, openAfterChar_of_isPlain hc]
    exact ih hcs

/-- The pieces with a brace that generated lines are made of. -/
@[simp high] theorem openAfter_opening (n : Nat) :
    openAfter n " \x7b" = some (n + 1) ∧ openAfter n "\t\x7b" = some (n + 1) ∧
    openAfter n ", \x7b" = some (n + 1) ∧ openAfter n ") \x7b" = some (n + 1) ∧
    openAfter n "_info \x7b" = some (n + 1) ∧ openAfter n "enum \x7b" = some (n + 1) ∧
    openAfter n "std::vector<double> target \x7b" = some (n + 1) :=
  ⟨rfl, rfl, rfl, rfl, rfl, rfl, rfl⟩

@[simp high] theorem openAfter_closing (n : Nat) :
    openAfter (n + 1) "\x7d" = some n ∧ openAfter (n + 1) "\t\x7d" = some n ∧
    openAfter (n + 1) "\x7d;" = some n ∧ openAfter (n + 1) "\x7d," = some n ∧
    openAfter (n + 1) "\x7d)" = some n ∧ openAfter (n + 2) "\x7d\x7d" = some n ∧
    openAfter n " \x7b\x7d;" = some n :=
  ⟨rfl, rfl, rfl, rfl, rfl, rfl, rfl⟩

@[simp] theorem openAfterLines_nil (n : Nat) : openAfterLines n [] = some n := rfl

@[simp] theorem openAfterLines_cons (n : Nat) (line : String) (ls : List String) :
    openAfterLines n (line :: ls) = (openAfter n line).bind (openAfterLines · ls) := rfl

@[simp] theorem openAfterLines_append (n : Nat) (ls ls' : List String) :
    openAfterLines n (ls ++ ls') = (openAfterLines n ls).bind (openAfterLines · ls') := by
  rw [openAfterLines, List.foldlM_append]
  rfl

/-- A piece that opens as many braces as it closes, none of them too early. -/
def Balanced (piece : String) : Prop :=
  ∀ n, openAfter n piece = some n

theorem Plain.balanced {s : String} (h : Plain s) : Balanced s :=
  openAfter_of_plain h

theorem openAfterLines_of_balanced {ls : List String} (h : ∀ line ∈ ls, Balanced line) (n : Nat) :
    openAfterLines n ls = some n := by
  induction ls with
  | nil => rfl
  | cons line ls ih =>
    obtain ⟨hline, hls⟩ := List.forall_mem_cons.mp h
    rw [openAfterLines_cons, hline n]
    exact ih hls

theorem openAfterLines_map {α : Type} {line : α → String} {xs : List α}
    (h : ∀ x ∈ xs, Balanced (line x)) (n : Nat) : openAfterLines n (xs.map line) = some n :=
  openAfterLines_of_balanced (List.forall_mem_map.mpr h) n

theorem openAfterLines_flatMap {α : Type} {ls : α → List String} {xs : List α}
    (h : ∀ x ∈ xs, ∀ n, openAfterLines n (ls x) = some n) (n : Nat) :
    openAfterLines n (xs.flatMap ls) = some n := by
  induction xs with
  | nil => rfl
  | cons x xs ih =>
    obtain ⟨hx, hxs⟩ := List.forall_mem_cons.mp h
    rw [List.flatMap_cons, openAfterLines_append, hx n]
    exact ih hxs

/-! ## What the count means -/

/-- From `n` open braces the characters lead to `m`, and nowhere in between are more closed than are
open. -/
structure Leads (n : Nat) (cs : List Char) (m : Nat) : Prop where
  balance : n + cs.count '\x7b' = m + cs.count '\x7d'
  covered : ∀ start, start <+: cs → start.count '\x7d' ≤ n + start.count '\x7b'

theorem leads_nil (n : Nat) : Leads n [] n :=
  ⟨rfl, fun start h => by simp [List.prefix_nil.mp h]⟩

theorem Leads.append {n k m : Nat} {cs cs' : List Char} (h : Leads n cs k) (h' : Leads k cs' m) :
    Leads n (cs ++ cs') m := by
  have hbalance := h.balance
  refine ⟨?_, fun start hstart => ?_⟩
  · have hbalance' := h'.balance
    rw [List.count_append, List.count_append]
    omega
  · rcases List.prefix_or_prefix_of_prefix hstart (List.prefix_append cs cs') with hle | ⟨rest, rfl⟩
    · exact h.covered start hle
    · have hcovered := h'.covered rest ((List.prefix_append_right_inj cs).mp hstart)
      rw [List.count_append, List.count_append]
      omega

theorem leads_of_openAfterChar {n m : Nat} {c : Char} (h : openAfterChar n c = some m) :
    Leads n [c] m ∧ c ≠ '\n' := by
  have hsplit (hbalance : n + [c].count '\x7b' = m + [c].count '\x7d') : Leads n [c] m := by
    refine ⟨hbalance, fun start hstart => ?_⟩
    rcases List.prefix_cons_iff.mp hstart with rfl | ⟨t, rfl, ht⟩
    · simp
    · rw [List.prefix_nil.mp ht]
      omega
  unfold openAfterChar at h
  split at h
  next hc => cases h; exact ⟨hsplit (by simp [hc]), by simp [hc]⟩
  split at h
  next hc =>
    split at h
    next => cases h
    next hn => cases h; exact ⟨hsplit (by simp [hc]; omega), by simp [hc]⟩
  split at h
  next => cases h
  next hopen hclose hc => cases h; exact ⟨hsplit (by simp [hopen, hclose]), hc⟩

/-- **What is counted is balanced and on one line.** -/
theorem leads_of_openAfter {n m : Nat} {piece : String} (h : openAfter n piece = some m) :
    Leads n piece.toList m ∧ '\n' ∉ piece.toList := by
  rw [openAfter] at h
  generalize piece.toList = cs at h ⊢
  induction cs generalizing n with
  | nil =>
    cases h
    exact ⟨leads_nil m, List.not_mem_nil⟩
  | cons c cs ih =>
    rw [List.foldlM_cons] at h
    obtain ⟨k, hk, hm⟩ := Option.bind_eq_some_iff.mp h
    obtain ⟨hc, hline⟩ := leads_of_openAfterChar hk
    obtain ⟨hcs, hlines⟩ := ih hm
    exact ⟨hc.append hcs, by simp [Ne.symm hline, hlines]⟩

theorem leads_of_openAfterLines : ∀ {ls : List String} {n m : Nat},
    openAfterLines n ls = some m →
      Leads n (['\n'].intercalate (ls.map String.toList)) m ∧ ∀ line ∈ ls, '\n' ∉ line.toList
  | [], n, m, h => by
    cases h
    exact ⟨leads_nil n, by simp⟩
  | [line], n, m, h => by
    obtain ⟨k, hk, hm⟩ := Option.bind_eq_some_iff.mp h
    cases hm
    obtain ⟨hline, hbreak⟩ := leads_of_openAfter hk
    exact ⟨by simpa using hline, by simpa using hbreak⟩
  | line :: line' :: ls, n, m, h => by
    obtain ⟨k, hk, hm⟩ := Option.bind_eq_some_iff.mp h
    obtain ⟨hline, hbreak⟩ := leads_of_openAfter hk
    obtain ⟨hrest, hbreaks⟩ := leads_of_openAfterLines hm
    have hfeed : Leads k ['\n'] k := by
      refine ⟨rfl, fun start hstart => ?_⟩
      rcases List.prefix_cons_iff.mp hstart with rfl | ⟨t, rfl, ht⟩
      · simp
      · simp [List.prefix_nil.mp ht]
    refine ⟨?_, List.forall_mem_cons.mpr ⟨hbreak, hbreaks⟩⟩
    rw [List.map_cons, List.map_cons, List.intercalate_cons_cons]
    exact (hline.append hfeed).append hrest

/-! ## Well nested texts -/

/-- A line that starts with at least `depth` tabs. -/
def StartsIndented (depth : Nat) (line : String) : Prop :=
  List.replicate depth '\t' <+: line.toList

/-- Every line that is not empty starts with `depth` tabs, the braces are balanced, and none is
closed before it is opened. -/
structure WellNested (depth : Nat) (text : String) : Prop where
  indented : ∀ line ∈ lines text, line ≠ "" → StartsIndented depth line
  balanced : text.toList.count '\x7b' = text.toList.count '\x7d'
  covered : ∀ start, start <+: text.toList → start.count '\x7d' ≤ start.count '\x7b'

/-- **Lines that are indented and counted to zero make a well nested text.** No lines make a text of
one empty line. -/
theorem wellNested_intercalate {depth : Nat} {ls : List String}
    (hindented : ∀ line ∈ ls, line ≠ "" → StartsIndented depth line)
    (hopen : openAfterLines 0 ls = some 0) : WellNested depth ("\n".intercalate ls) := by
  obtain ⟨hleads, hbreaks⟩ := leads_of_openAfterLines hopen
  have htext : ("\n".intercalate ls).toList = ['\n'].intercalate (ls.map String.toList) :=
    String.toList_intercalate
  rw [← htext] at hleads
  refine ⟨fun line hline hne => ?_, by simpa using hleads.balance, fun start hstart => ?_⟩
  · by_cases hls : ls = []
    · rw [hls, String.intercalate_nil] at hline
      exact absurd (List.mem_singleton.mp hline) hne
    · rw [show lines ("\n".intercalate ls) = ls from
        splitOnChar_eq_iff.mpr ⟨hls, hbreaks, htext⟩] at hline
      exact hindented line hline hne
  · simpa using hleads.covered start hstart

end SchemaGen.Text
