import SchemaGen.Text.Literal
import SchemaGen.Yaml.Scalar
import SchemaGen.Proofs.Text.ByteOrder
import Mathlib.Algebra.Group.Nat.Defs
import Mathlib.Data.List.Infix
import Mathlib.Data.List.TakeWhile

/-!
# What a literal denotes

`quoted` spells a text for a compiler, which has rules of its own for reading it back. This module
states those rules (`readLiteral`) and says for which texts the reading gives back the text. It
does for every spelling of a character but one: behind `\x` the compiler takes all the digits that
there are, so a character that is spelled in that way (`IsMute`) swallows a digit behind it. The
step lemmas say what is read at one character; the two run lemmas follow the text.
-/

set_option autoImplicit false

namespace SchemaGen.Text

open SchemaGen.Yaml (hexValue?)

/-! ## Reading a literal -/

/-- A hexadecimal digit, of either case. -/
def isHexDigit (c : Char) : Bool := (hexValue? c).isSome

/-- The value of a row of hexadecimal digits. -/
def hexNumber (digits : List Char) : Nat :=
  digits.foldl (fun n d => 16 * n + (hexValue? d).getD 0) 0

/-- The byte behind `\x`. Its digits are all those that follow. -/
def readByte (text : List Char) : Option (List UInt8 × List Char) :=
  let digits := text.takeWhile isHexDigit
  if digits ≠ [] ∧ hexNumber digits < 256 then
    some ([.ofNat (hexNumber digits)], text.dropWhile isHexDigit)
  else none

/-- The character behind `\u` or `\U`, in UTF-8. Its digits are the next `width` characters. -/
def readCharacter (width : Nat) (text : List Char) : Option (List UInt8 × List Char) :=
  let digits := text.take width
  if digits.length = width ∧ digits.all isHexDigit ∧ (hexNumber digits).isValidChar then
    some (String.utf8EncodeChar (Char.ofNat (hexNumber digits)), text.drop width)
  else none

/-- What a letter stands for behind a backslash. -/
def simpleEscape? (letter : Char) : Option Char :=
  match letter with
  | '\'' | '"' | '?' | '\\' => some letter
  | 'a' => some '\x07'
  | 'b' => some '\x08'
  | 'f' => some '\x0c'
  | 'n' => some '\n'
  | 'r' => some '\r'
  | 't' => some '\t'
  | 'v' => some '\x0b'
  | _ => none

/-- What follows a backslash. -/
def readEscape : List Char → Option (List UInt8 × List Char)
  | [] => none
  | letter :: rest =>
    if letter = 'x' then readByte rest
    else if letter = 'u' then readCharacter 4 rest
    else if letter = 'U' then readCharacter 8 rest
    else (simpleEscape? letter).map fun c => (String.utf8EncodeChar c, rest)

/-- The first character of a literal, as bytes. A line end must not stand in one. -/
def readOne : List Char → Option (List UInt8 × List Char)
  | [] => none
  | c :: rest =>
    if c = '\\' then readEscape rest
    else if c = '"' ∨ c = '\n' then none
    else some (String.utf8EncodeChar c, rest)

theorem length_lt_of_readByte {text rest : List Char} {bytes : List UInt8}
    (h : readByte text = some (bytes, rest)) : rest.length < text.length := by
  simp only [readByte, Option.ite_none_right_eq_some, Option.some.injEq, Prod.mk.injEq] at h
  obtain ⟨⟨hne, -⟩, -, rfl⟩ := h
  have hsplit := congrArg List.length (List.takeWhile_append_dropWhile (p := isHexDigit) (l := text))
  have hpos := List.length_pos_iff.mpr hne
  rw [List.length_append] at hsplit
  omega

theorem length_lt_of_readEscape {text rest : List Char} {bytes : List UInt8}
    (h : readEscape text = some (bytes, rest)) : rest.length < text.length := by
  cases text with
  | nil => cases h
  | cons letter text =>
    have hdrop {width : Nat} (h : readCharacter width text = some (bytes, rest)) :
        rest.length ≤ text.length := by
      simp only [readCharacter, Option.ite_none_right_eq_some, Option.some.injEq,
        Prod.mk.injEq] at h
      rw [← h.2.2, List.length_drop]
      exact Nat.sub_le _ _
    rw [readEscape] at h
    rw [List.length_cons]
    split at h
    · exact Nat.lt_succ_of_lt (length_lt_of_readByte h)
    · split at h
      · exact Nat.lt_succ_of_le (hdrop h)
      · split at h
        · exact Nat.lt_succ_of_le (hdrop h)
        · obtain ⟨c, -, hc⟩ := Option.map_eq_some_iff.mp h
          cases hc
          exact Nat.lt_succ_self _

theorem length_lt_of_readOne {text rest : List Char} {bytes : List UInt8}
    (h : readOne text = some (bytes, rest)) : rest.length < text.length := by
  cases text with
  | nil => cases h
  | cons c text =>
    rw [readOne] at h
    rw [List.length_cons]
    split at h
    · exact Nat.lt_succ_of_lt (length_lt_of_readEscape h)
    · split at h
      · cases h
      · cases h
        exact Nat.lt_succ_self _

/-- The bytes up to the closing quote, and what stands behind it. -/
def readUntilQuote (text : List Char) : Option (List UInt8 × List Char) :=
  if text.head? = some '"' then some ([], text.tail)
  else
    match _h : readOne text with
    | none => none
    | some (bytes, rest) =>
      (readUntilQuote rest).map fun (more, after) => (bytes ++ more, after)
termination_by text.length
decreasing_by exact length_lt_of_readOne _h

/-- Reads the string literal that a text starts with: the bytes it denotes, and what follows it. -/
def readLiteral : List Char → Option (List UInt8 × List Char)
  | '"' :: text => readUntilQuote text
  | _ => none

theorem readUntilQuote_quote (after : List Char) :
    readUntilQuote ('"' :: after) = some ([], after) := by
  rw [readUntilQuote]
  exact if_pos rfl

theorem readUntilQuote_of_readOne {text rest : List Char} {bytes : List UInt8}
    (h : readOne text = some (bytes, rest)) :
    readUntilQuote text =
      (readUntilQuote rest).map fun (more, after) => (bytes ++ more, after) := by
  have hopen : text.head? ≠ some '"' := by
    intro hquote
    obtain ⟨tail, rfl⟩ := List.head?_eq_some_iff.mp hquote
    cases h
  rw [readUntilQuote, if_neg hopen]
  split
  case h_1 hnone => rw [hnone] at h; cases h
  case h_2 hsome => rw [hsome] at h; cases h; rfl

theorem readOne_of_readUntilQuote {text after : List Char} {bytes : List UInt8}
    (h : readUntilQuote text = some (bytes, after)) (hopen : text.head? ≠ some '"') :
    ∃ first rest more, readOne text = some (first, rest) ∧
      readUntilQuote rest = some (more, after) ∧ bytes = first ++ more := by
  rw [readUntilQuote, if_neg hopen] at h
  split at h
  case h_1 => cases h
  case h_2 first rest hone =>
    obtain ⟨⟨more, last⟩, hmore, heq⟩ := Option.map_eq_some_iff.mp h
    cases heq
    exact ⟨first, rest, more, hone, hmore, rfl⟩

/-! ## Digits -/

theorem hexValue?_hexDigit {n : Nat} (h : n < 16) : hexValue? (hexDigit n) = some n := by
  have hall : ∀ k : Fin 16, hexValue? (hexDigit k) = some k.val := by decide
  exact hall ⟨n, h⟩

theorem isHexDigit_of_mem_hexDigits {d : Char} :
    ∀ {width n : Nat}, d ∈ hexDigits width n → isHexDigit d = true
  | _ + 1, n, h => by
    rw [hexDigits, List.mem_append, List.mem_singleton] at h
    rcases h with h | rfl
    · exact isHexDigit_of_mem_hexDigits h
    · rw [isHexDigit, hexValue?_hexDigit (Nat.mod_lt n (by decide))]
      rfl

@[simp] theorem length_hexDigits : ∀ (width n : Nat), (hexDigits width n).length = width
  | 0, _ => rfl
  | width + 1, n => by
    rw [hexDigits, List.length_append, length_hexDigits width, List.length_singleton]

theorem hexNumber_concat (digits : List Char) (d : Char) :
    hexNumber (digits ++ [d]) = 16 * hexNumber digits + (hexValue? d).getD 0 := by
  rw [hexNumber, List.foldl_append]
  rfl

/-- A number is read off its digits again. -/
theorem hexNumber_hexDigits : ∀ {width n : Nat}, n < 16 ^ width → hexNumber (hexDigits width n) = n
  | 0, n, h => by
    rw [Nat.pow_zero, Nat.lt_one_iff] at h
    rw [h]
    rfl
  | width + 1, n, h => by
    have hdiv : n / 16 < 16 ^ width := by
      rw [Nat.pow_succ] at h
      exact Nat.div_lt_of_lt_mul (by omega)
    rw [hexDigits, hexNumber_concat, hexNumber_hexDigits hdiv,
      hexValue?_hexDigit (Nat.mod_lt n (by decide)), Option.getD_some]
    omega

theorem takeWhile_hexDigits (width n : Nat) (rest : List Char) :
    (hexDigits width n ++ rest).takeWhile isHexDigit =
      hexDigits width n ++ rest.takeWhile isHexDigit :=
  List.takeWhile_append_of_pos fun _ hd => isHexDigit_of_mem_hexDigits hd

theorem dropWhile_hexDigits (width n : Nat) (rest : List Char) :
    (hexDigits width n ++ rest).dropWhile isHexDigit = rest.dropWhile isHexDigit :=
  List.dropWhile_append_of_pos fun _ hd => isHexDigit_of_mem_hexDigits hd

/-- A character that is spelled with all the digits its escape asks for is read back. -/
theorem readCharacter_hexDigits {width : Nat} {c : Char} (h : c.toNat < 16 ^ width)
    (rest : List Char) :
    readCharacter width (hexDigits width c.toNat ++ rest) =
      some (String.utf8EncodeChar c, rest) := by
  have htake : (hexDigits width c.toNat ++ rest).take width = hexDigits width c.toNat :=
    List.take_left' (length_hexDigits width _)
  have hdrop : (hexDigits width c.toNat ++ rest).drop width = rest :=
    List.drop_left' (length_hexDigits width _)
  have hdigits : (hexDigits width c.toNat).all isHexDigit = true :=
    List.all_eq_true.mpr fun _ hd => isHexDigit_of_mem_hexDigits hd
  simp only [readCharacter, htake, hdrop, hexNumber_hexDigits h, Char.ofNat_toNat]
  rw [if_pos ⟨length_hexDigits width _, hdigits, c.valid⟩]

/-! ## The spelling of a character -/

/-- A control character of ASCII for which there is no letter. -/
def IsMute (c : Char) : Prop :=
  c.toNat < 0x07 ∨ 0x0e ≤ c.toNat ∧ c.toNat < 0x20 ∨ c.toNat = 0x7f

instance (c : Char) : Decidable (IsMute c) :=
  inferInstanceAs (Decidable (_ ∨ _ ∧ _ ∨ _))

theorem escapeLetter?_eq_none_iff {c : Char} :
    escapeLetter? c = none ↔ ¬ (0x07 ≤ c.toNat ∧ c.toNat ≤ 0x0d) := by
  unfold escapeLetter?
  generalize c.toNat = n
  split
  case h_8 => exact iff_of_true rfl (by grind)
  all_goals exact iff_of_false (by simp) (by omega)

theorem isPrintable_eq_true_iff {c : Char} (h : c.toNat < 0x80) :
    isPrintable c = true ↔ 0x20 ≤ c.toNat ∧ c.toNat < 0x7f := by
  simp only [isPrintable, if_pos h, Bool.and_eq_true, decide_eq_true_eq]

/-- A character is mute if it is of ASCII and neither shown nor named. -/
theorem isMute_iff {c : Char} :
    IsMute c ↔ c.toNat < 0x80 ∧ ¬ isPrintable c = true ∧ escapeLetter? c = none := by
  rw [escapeLetter?_eq_none_iff]
  by_cases h : c.toNat < 0x80
  · rw [isPrintable_eq_true_iff h]
    unfold IsMute
    omega
  · unfold IsMute
    omega

/-- What neither a quote nor a backslash is, is not spelled as these are. -/
theorem not_quote_or_backslash {p : Char → Prop} {c : Char} (h : p c) (hquote : ¬ p '"')
    (hslash : ¬ p '\\') : ¬ (c == '"' || c == '\\') = true := by
  intro heither
  rcases Bool.or_eq_true_iff.mp heither with heq | heq
  · exact hquote (eq_of_beq heq ▸ h)
  · exact hslash (eq_of_beq heq ▸ h)

theorem escapeChar_of_isMute {c : Char} (h : IsMute c) :
    escapeChar c = '\\' :: 'x' :: hexDigits 2 c.toNat := by
  obtain ⟨hascii, hprint, hletter⟩ := isMute_iff.mp h
  have hplain := not_quote_or_backslash h (by decide) (by decide)
  rw [escapeChar, if_neg hplain, if_neg hprint, hletter]
  exact if_pos hascii

/-- **The spellings of the other characters.** -/
theorem escapeChar_cases {c : Char} (h : ¬ IsMute c) :
    (escapeChar c = ['\\', c] ∧ (c = '"' ∨ c = '\\')) ∨
    (escapeChar c = [c] ∧ isPrintable c = true ∧ c ≠ '"' ∧ c ≠ '\\') ∨
    (∃ letter, escapeChar c = ['\\', letter] ∧ escapeLetter? c = some letter) ∨
    (escapeChar c = '\\' :: 'u' :: hexDigits 4 c.toNat ∧ c.toNat < 0x10000) ∨
    escapeChar c = '\\' :: 'U' :: hexDigits 8 c.toNat := by
  unfold escapeChar
  by_cases hquote : c = '"' ∨ c = '\\'
  · exact .inl ⟨if_pos (by simpa using hquote), hquote⟩
  rw [if_neg (by simpa using hquote)]
  by_cases hprint : isPrintable c = true
  · rw [if_pos hprint]
    exact .inr (.inl ⟨rfl, hprint, fun h => hquote (.inl h), fun h => hquote (.inr h)⟩)
  rw [if_neg hprint]
  cases hletter : escapeLetter? c with
  | some letter => exact .inr (.inr (.inl ⟨letter, rfl, rfl⟩))
  | none =>
    dsimp only
    rw [if_neg fun hascii => h (isMute_iff.mpr ⟨hascii, hprint, hletter⟩)]
    by_cases hshort : c.toNat < 0x10000
    · rw [if_pos hshort]
      exact .inr (.inr (.inr (.inl ⟨rfl, hshort⟩)))
    · rw [if_neg hshort]
      exact .inr (.inr (.inr (.inr rfl)))

theorem simpleEscape?_of_escapeLetter? {c letter : Char} (h : escapeLetter? c = some letter) :
    simpleEscape? letter = some c ∧ letter ≠ 'x' ∧ letter ≠ 'u' ∧ letter ≠ 'U' := by
  have hc := (Char.ofNat_toNat c).symm
  unfold escapeLetter? at h
  split at h
  case h_8 => cases h
  all_goals
    cases h
    simp_all only
    decide

theorem toNat_lt_pow (c : Char) : c.toNat < 16 ^ 8 := by
  rcases c.valid with hval | ⟨-, hval⟩ <;>
  · change c.toNat < _ at hval
    omega

theorem readOne_x (text : List Char) : readOne ('\\' :: 'x' :: text) = readByte text := rfl

theorem readOne_u (text : List Char) : readOne ('\\' :: 'u' :: text) = readCharacter 4 text := rfl

theorem readOne_U (text : List Char) : readOne ('\\' :: 'U' :: text) = readCharacter 8 text := rfl

/-- **A character is read back from its spelling**, if it is spelled with a letter or with a fixed
number of digits. -/
theorem readOne_escapeChar {c : Char} (h : ¬ IsMute c) (rest : List Char) :
    readOne (escapeChar c ++ rest) = some (String.utf8EncodeChar c, rest) := by
  rcases escapeChar_cases h with ⟨heq, rfl | rfl⟩ | ⟨heq, hprint, hquote, hslash⟩ |
    ⟨letter, heq, hletter⟩ | ⟨heq, hlt⟩ | heq
  · rfl
  · rfl
  · have hline : c ≠ '\n' := by
      rintro rfl
      exact absurd hprint (by decide)
    rw [heq, List.singleton_append, readOne, if_neg hslash, if_neg (by simp [hquote, hline])]
  · obtain ⟨hsimple, hx, hu, hU⟩ := simpleEscape?_of_escapeLetter? hletter
    rw [heq]
    simp only [List.cons_append, List.nil_append, readOne, readEscape, if_pos, if_neg hx,
      if_neg hu, if_neg hU, hsimple, Option.map_some]
  · rw [heq, List.cons_append, List.cons_append, readOne_u]
    exact readCharacter_hexDigits hlt rest
  · rw [heq, List.cons_append, List.cons_append, readOne_U]
    exact readCharacter_hexDigits (toNat_lt_pow c) rest

theorem readOne_escapeChar_of_isMute {c : Char} (h : IsMute c) (rest : List Char) :
    readOne (escapeChar c ++ rest) = readByte (hexDigits 2 c.toNat ++ rest) := by
  rw [escapeChar_of_isMute h, List.cons_append, List.cons_append, readOne_x]

/-! ## The spelling of a text -/

theorem toNat_of_isHexDigit {c : Char} (h : isHexDigit c = true) :
    (0x30 ≤ c.toNat ∧ c.toNat ≤ 0x39) ∨ (0x41 ≤ c.toNat ∧ c.toNat ≤ 0x46) ∨
      (0x61 ≤ c.toNat ∧ c.toNat ≤ 0x66) := by
  unfold isHexDigit hexValue? at h
  split at h
  case isTrue hdigit =>
    simp only [Char.isDigit, Bool.and_eq_true, decide_eq_true_eq] at hdigit
    exact .inl hdigit
  split at h
  case isTrue hlower =>
    simp only [Bool.and_eq_true, decide_eq_true_eq] at hlower
    exact .inr (.inr hlower)
  split at h
  case isTrue hupper =>
    simp only [Bool.and_eq_true, decide_eq_true_eq] at hupper
    exact .inr (.inl hupper)
  cases h

/-- A digit is spelled by itself. -/
theorem escapeChar_of_isHexDigit {c : Char} (h : isHexDigit c = true) : escapeChar c = [c] := by
  have hcode := toNat_of_isHexDigit h
  have hplain := not_quote_or_backslash (p := (isHexDigit · = true)) h (by decide) (by decide)
  rw [escapeChar, if_neg hplain, if_pos]
  exact (isPrintable_eq_true_iff (by omega)).mpr (by omega)

/-- The spelling of anything else does not start with a digit, and no spelling with a quote. -/
theorem exists_head_escapeChar (c : Char) :
    ∃ d more, escapeChar c = d :: more ∧ d ≠ '"' ∧ (isHexDigit d = true → isHexDigit c = true) := by
  have hslash : ¬ isHexDigit '\\' = true := by decide
  by_cases hmute : IsMute c
  · exact ⟨_, _, escapeChar_of_isMute hmute, by decide, fun h => absurd h hslash⟩
  rcases escapeChar_cases hmute with ⟨heq, -⟩ | ⟨heq, -, hquote, -⟩ | ⟨letter, heq, -⟩ |
    ⟨heq, -⟩ | heq
  case inr.inl => exact ⟨_, _, heq, hquote, id⟩
  all_goals exact ⟨_, _, heq, by decide, fun h => absurd h hslash⟩

/-- A text as it stands behind the opening quote of its literal. -/
def spelled (cs after : List Char) : List Char :=
  cs.flatMap escapeChar ++ '"' :: after

variable {c : Char} {cs after : List Char}

theorem spelled_cons : spelled (c :: cs) after = escapeChar c ++ spelled cs after := by
  rw [spelled, List.flatMap_cons, List.append_assoc, spelled]

theorem head?_spelled_cons : (spelled (c :: cs) after).head? ≠ some '"' := by
  obtain ⟨d, more, heq, hquote, -⟩ := exists_head_escapeChar c
  rw [spelled_cons, heq]
  exact fun h => hquote (Option.some.inj h)

/-- The digits behind the opening quote are those that the text starts with. -/
theorem takeWhile_spelled :
    ∀ cs, (spelled cs after).takeWhile isHexDigit = cs.takeWhile isHexDigit
  | [] => rfl
  | c :: cs => by
    rw [spelled_cons]
    by_cases hdigit : isHexDigit c = true
    · rw [escapeChar_of_isHexDigit hdigit, List.singleton_append,
        List.takeWhile_cons_of_pos hdigit, List.takeWhile_cons_of_pos hdigit,
        takeWhile_spelled cs]
    · obtain ⟨d, more, heq, -, hd⟩ := exists_head_escapeChar c
      rw [heq, List.cons_append, List.takeWhile_cons_of_neg fun h => hdigit (hd h),
        List.takeWhile_cons_of_neg hdigit]

theorem dropWhile_spelled :
    ∀ cs, (spelled cs after).dropWhile isHexDigit = spelled (cs.dropWhile isHexDigit) after
  | [] => rfl
  | c :: cs => by
    by_cases hdigit : isHexDigit c = true
    · rw [spelled_cons, escapeChar_of_isHexDigit hdigit, List.singleton_append,
        List.dropWhile_cons_of_pos hdigit, List.dropWhile_cons_of_pos hdigit,
        dropWhile_spelled cs]
    · obtain ⟨d, more, heq, -, hd⟩ := exists_head_escapeChar c
      rw [List.dropWhile_cons_of_neg hdigit, spelled_cons, heq, List.cons_append,
        List.dropWhile_cons_of_neg fun h => hdigit (hd h)]

/-! ## Swallowed digits -/

/-- A digit stands right behind a mute character. -/
def SwallowsDigit (cs : List Char) : Prop :=
  ∃ c d, IsMute c ∧ isHexDigit d = true ∧ [c, d] <:+: cs

theorem not_swallowsDigit_nil : ¬ SwallowsDigit [] := by
  rintro ⟨c, d, -, -, hinfix⟩
  cases List.infix_nil.mp hinfix

theorem takeWhile_isHexDigit_ne_nil_iff :
    cs.takeWhile isHexDigit ≠ [] ↔ ∃ d, isHexDigit d = true ∧ [d] <+: cs := by
  cases cs with
  | nil => simp
  | cons e cs =>
    by_cases hdigit : isHexDigit e = true <;> simp [List.cons_prefix_cons, hdigit]

theorem swallowsDigit_cons_iff :
    SwallowsDigit (c :: cs) ↔ (IsMute c ∧ cs.takeWhile isHexDigit ≠ []) ∨ SwallowsDigit cs := by
  rw [takeWhile_isHexDigit_ne_nil_iff]
  constructor
  · rintro ⟨b, d, hmute, hdigit, hinfix⟩
    rcases List.infix_cons_iff.mp hinfix with hprefix | hinfix
    · obtain ⟨rfl, htail⟩ := List.cons_prefix_cons.mp hprefix
      exact .inl ⟨hmute, d, hdigit, htail⟩
    · exact .inr ⟨b, d, hmute, hdigit, hinfix⟩
  · rintro (⟨hmute, d, hdigit, hprefix⟩ | ⟨b, d, hmute, hdigit, hinfix⟩)
    · exact ⟨c, d, hmute, hdigit, (List.cons_prefix_cons.mpr ⟨rfl, hprefix⟩).isInfix⟩
    · exact ⟨b, d, hmute, hdigit, List.infix_cons_iff.mpr (.inr hinfix)⟩

instance decidableSwallowsDigit : ∀ cs, Decidable (SwallowsDigit cs)
  | [] => .isFalse not_swallowsDigit_nil
  | c :: cs =>
    have := decidableSwallowsDigit cs
    decidable_of_iff' ((IsMute c ∧ cs.takeWhile isHexDigit ≠ []) ∨ SwallowsDigit cs)
      swallowsDigit_cons_iff

theorem toNat_lt_of_isMute (h : IsMute c) : c.toNat < 0x80 :=
  (isMute_iff.mp h).1

theorem utf8EncodeChar_of_isMute (h : IsMute c) :
    String.utf8EncodeChar c = [.ofNat c.toNat] := by
  have hascii : c.val.toNat ≤ 127 := Nat.le_of_lt_succ (toNat_lt_of_isMute h)
  unfold String.utf8EncodeChar
  dsimp only
  rw [if_pos hascii]
  rfl

/-- What is read at a mute character: one byte, of all the digits that are there. -/
theorem readOne_spelled_of_isMute (h : IsMute c) :
    readOne (spelled (c :: cs) after) =
      if hexNumber (hexDigits 2 c.toNat ++ cs.takeWhile isHexDigit) < 256 then
        some ([.ofNat (hexNumber (hexDigits 2 c.toNat ++ cs.takeWhile isHexDigit))],
          spelled (cs.dropWhile isHexDigit) after)
      else none := by
  have hne : hexDigits 2 c.toNat ++ cs.takeWhile isHexDigit ≠ [] := by
    simp [hexDigits]
  rw [spelled_cons, readOne_escapeChar_of_isMute h, readByte, takeWhile_hexDigits,
    dropWhile_hexDigits, takeWhile_spelled, dropWhile_spelled]
  exact if_congr (and_iff_right hne) rfl rfl

/-- **A character is read back** unless it is mute and a digit follows. -/
theorem readOne_spelled (h : ¬ (IsMute c ∧ cs.takeWhile isHexDigit ≠ [])) :
    readOne (spelled (c :: cs) after) = some (String.utf8EncodeChar c, spelled cs after) := by
  by_cases hmute : IsMute c
  · have hnone : cs.takeWhile isHexDigit = [] := by
      by_contra hsome
      exact h ⟨hmute, hsome⟩
    have hall : cs.dropWhile isHexDigit = cs := by
      have hsplit := List.takeWhile_append_dropWhile (p := isHexDigit) (l := cs)
      rwa [hnone, List.nil_append] at hsplit
    have hbyte : c.toNat < 256 := Nat.lt_trans (toNat_lt_of_isMute hmute) (by decide)
    have hnumber : hexNumber (hexDigits 2 c.toNat) = c.toNat := hexNumber_hexDigits hbyte
    rw [readOne_spelled_of_isMute hmute, hnone, List.append_nil, hall, hnumber, if_pos hbyte,
      utf8EncodeChar_of_isMute hmute]
  · rw [spelled_cons]
    exact readOne_escapeChar hmute _

/-- **A text without swallowed digits is read back.** -/
theorem readUntilQuote_spelled :
    ∀ {cs : List Char}, ¬ SwallowsDigit cs →
      readUntilQuote (spelled cs after) = some (cs.flatMap String.utf8EncodeChar, after)
  | [], _ => readUntilQuote_quote after
  | c :: cs, h => by
    rw [swallowsDigit_cons_iff, not_or] at h
    rw [readUntilQuote_of_readOne (readOne_spelled h.1), readUntilQuote_spelled h.2,
      Option.map_some, List.flatMap_cons]

/-- Every character has a byte at least. -/
theorem length_le_length_flatMap (cs : List Char) :
    cs.length ≤ (cs.flatMap String.utf8EncodeChar).length := by
  induction cs with
  | nil => exact Nat.le_refl _
  | cons c cs ih =>
    have hpos := List.length_pos_iff.mpr (String.utf8EncodeChar_ne_nil (c := c))
    rw [List.flatMap_cons, List.length_append, List.length_cons]
    omega

/-- **What is read is never longer than the text**, and it is shorter if a digit is swallowed. -/
theorem length_of_readUntilQuote {bytes : List UInt8} {rest : List Char} :
    ∀ {cs : List Char}, readUntilQuote (spelled cs after) = some (bytes, rest) →
      rest = after ∧ bytes.length ≤ (cs.flatMap String.utf8EncodeChar).length ∧
        (SwallowsDigit cs → bytes.length < (cs.flatMap String.utf8EncodeChar).length)
  | [], h => by
    rw [show spelled [] after = '"' :: after from rfl, readUntilQuote_quote] at h
    cases h
    exact ⟨rfl, Nat.le_refl _, fun hswallow => absurd hswallow not_swallowsDigit_nil⟩
  | c :: cs, h => by
    obtain ⟨first, mid, more, hone, hmore, rfl⟩ := readOne_of_readUntilQuote h head?_spelled_cons
    rw [List.flatMap_cons, List.length_append, List.length_append]
    by_cases hswallow : IsMute c ∧ cs.takeWhile isHexDigit ≠ []
    · -- one byte stands for the character and for all the digits behind it
      rw [readOne_spelled_of_isMute hswallow.1, Option.ite_none_right_eq_some] at hone
      cases hone.2
      obtain ⟨hrest, hle, -⟩ := length_of_readUntilQuote hmore
      have hdigits := List.length_pos_iff.mpr hswallow.2
      have hsplit := congrArg (fun l => (l.flatMap String.utf8EncodeChar).length)
        (List.takeWhile_append_dropWhile (p := isHexDigit) (l := cs))
      have hbytes := length_le_length_flatMap (cs.takeWhile isHexDigit)
      simp only [List.flatMap_append, List.length_append] at hsplit
      rw [utf8EncodeChar_of_isMute hswallow.1, List.length_singleton, List.length_singleton]
      exact ⟨hrest, by omega, fun _ => by omega⟩
    · rw [readOne_spelled hswallow] at hone
      cases hone
      obtain ⟨hrest, hle, hlt⟩ := length_of_readUntilQuote hmore
      refine ⟨hrest, Nat.add_le_add_left hle _, fun h => Nat.add_lt_add_left (hlt ?_) _⟩
      exact (swallowsDigit_cons_iff.mp h).resolve_left hswallow
termination_by cs => cs.length
decreasing_by
  · exact Nat.lt_succ_of_le (List.dropWhile_sublist _).length_le
  · exact Nat.lt_succ_self _

/-! ## Literals -/

theorem readLiteral_quoted (v : String) (after : List Char) :
    readLiteral ((quoted v).toList ++ after) = readUntilQuote (spelled v.toList after) := by
  simp only [quoted, String.toList_ofList, List.cons_append, List.append_assoc, readLiteral,
    spelled, List.nil_append]

/-- **A literal denotes its text** exactly if the text swallows no digit. -/
theorem readLiteral_quoted_eq_some_iff (v : String) (after : List Char) :
    readLiteral ((quoted v).toList ++ after) = some (utf8 v, after) ↔
      ¬ SwallowsDigit v.toList := by
  rw [readLiteral_quoted]
  constructor
  · intro h hswallow
    exact Nat.lt_irrefl _ ((length_of_readUntilQuote h).2.2 hswallow)
  · exact readUntilQuote_spelled

/-- **A literal of another text** is refused, or it denotes fewer bytes. -/
theorem readLiteral_quoted_of_swallowsDigit {v : String} (h : SwallowsDigit v.toList)
    (after : List Char) :
    readLiteral ((quoted v).toList ++ after) = none ∨
      ∃ bytes, readLiteral ((quoted v).toList ++ after) = some (bytes, after) ∧
        bytes.length < (utf8 v).length := by
  rw [readLiteral_quoted]
  cases hread : readUntilQuote (spelled v.toList after) with
  | none => exact .inl rfl
  | some read =>
    obtain ⟨bytes, rest⟩ := read
    obtain ⟨rfl, -, hlt⟩ := length_of_readUntilQuote hread
    exact .inr ⟨bytes, rfl, hlt h⟩

end SchemaGen.Text
