import SchemaGen.Proofs.Text.Trim
import SchemaGen.TypeExpr.Grammar

/-!
# Data type expressions as trees

What a data type is meant to be, before it is a text: a reference, with or without decoration, an
array of something, or something with alternatives behind it, and blanks between the parts. The
parts carry what makes them readable, so that every tree can be printed: a name has none of the
characters that expressions are made of, a word is not empty, and the brackets of an alternative
that is not read are balanced. Brackets of the four kinds count as one, here as in the reader.

The reader never sees a tree. What it does first with a text is to look for a slash outside of
brackets. `Expr.head` is what a tree has before that slash, without blanks, and
`firstAlternative_print` says that the cut is made there: brackets are balanced in a printed tree
(`balanced_print`), so the slashes of its inner trees are all inside of brackets.
-/

set_option autoImplicit false

namespace SchemaGen.TypeExpr

open SchemaGen.Text

/-! ## Balanced texts -/

/-- How many brackets are open after a text that `depth` were open before; none if one is closed
that is not open. -/
def depthAfter? : (depth : Nat) → List Char → Option Nat
  | depth, [] => some depth
  | depth, c :: cs =>
    if isOpening c then depthAfter? (depth + 1) cs
    else if isClosing c then
      match depth with
      | 0 => none
      | depth + 1 => depthAfter? depth cs
    else depthAfter? depth cs

/-- Every bracket of the text is closed, and none that is not open. -/
def Balanced (cs : List Char) : Prop :=
  depthAfter? 0 cs = some 0

instance (cs : List Char) : Decidable (Balanced cs) :=
  inferInstanceAs (Decidable (depthAfter? 0 cs = some 0))

section Steps

variable {c : Char} {cs : List Char}

theorem depthAfter?_opening (h : isOpening c = true) (depth : Nat) :
    depthAfter? depth (c :: cs) = depthAfter? (depth + 1) cs := by
  cases depth <;> rw [depthAfter?, h, if_pos rfl]

theorem depthAfter?_closing_zero (h : isOpening c = false) (h' : isClosing c = true) :
    depthAfter? 0 (c :: cs) = none := by
  rw [depthAfter?, h, h', if_neg (by decide), if_pos rfl]

theorem depthAfter?_closing_succ (h : isOpening c = false) (h' : isClosing c = true)
    (depth : Nat) : depthAfter? (depth + 1) (c :: cs) = depthAfter? depth cs := by
  rw [depthAfter?, h, h', if_neg (by decide), if_pos rfl]

theorem depthAfter?_plain (h : isOpening c = false) (h' : isClosing c = false) (depth : Nat) :
    depthAfter? depth (c :: cs) = depthAfter? depth cs := by
  cases depth <;> rw [depthAfter?, h, h', if_neg (by decide), if_neg (by decide)]

theorem beforeSlash?_opening (h : isOpening c = true) (depth : Int) :
    beforeSlash? depth (c :: cs) = (beforeSlash? (depth + 1) cs).map (c :: ·) := by
  rw [beforeSlash?, h, if_pos rfl]

theorem beforeSlash?_closing (h : isOpening c = false) (h' : isClosing c = true) (depth : Int) :
    beforeSlash? depth (c :: cs) = (beforeSlash? (depth - 1) cs).map (c :: ·) := by
  rw [beforeSlash?, h, h', if_neg (by decide), if_pos rfl]

theorem beforeSlash?_plain (h : isOpening c = false) (h' : isClosing c = false) {depth : Int}
    (hslash : c ≠ '/' ∨ depth ≠ 0) :
    beforeSlash? depth (c :: cs) = (beforeSlash? depth cs).map (c :: ·) := by
  have hnot : (c == '/' && depth == 0) = false := by
    rcases hslash with hne | hne
    · rw [beq_eq_false_iff_ne.mpr hne, Bool.false_and]
    · rw [beq_eq_false_iff_ne.mpr hne, Bool.and_false]
  rw [beforeSlash?, h, h', hnot, if_neg (by decide), if_neg (by decide), if_neg (by decide)]

end Steps

theorem depthAfter?_append : ∀ (a b : List Char) (depth : Nat),
    depthAfter? depth (a ++ b) = (depthAfter? depth a).bind (depthAfter? · b)
  | [], _, _ => rfl
  | c :: a, b, depth => by
    rw [List.cons_append]
    cases hopen : isOpening c with
    | true =>
      rw [depthAfter?_opening hopen, depthAfter?_opening hopen]
      exact depthAfter?_append a b _
    | false =>
      cases hclose : isClosing c with
      | true =>
        cases depth with
        | zero =>
          rw [depthAfter?_closing_zero hopen hclose, depthAfter?_closing_zero hopen hclose]
          rfl
        | succ depth =>
          rw [depthAfter?_closing_succ hopen hclose, depthAfter?_closing_succ hopen hclose]
          exact depthAfter?_append a b depth
      | false =>
        rw [depthAfter?_plain hopen hclose, depthAfter?_plain hopen hclose]
        exact depthAfter?_append a b depth

/-- More open brackets around a text stay open. -/
theorem depthAfter?_add (more : Nat) : ∀ {cs : List Char} {depth after : Nat},
    depthAfter? depth cs = some after → depthAfter? (depth + more) cs = some (after + more)
  | [], _, _, h => by rw [depthAfter?, Option.some.inj h]
  | c :: cs, depth, after, h => by
    cases hopen : isOpening c with
    | true =>
      rw [depthAfter?_opening hopen] at h ⊢
      rw [Nat.add_right_comm]
      exact depthAfter?_add more h
    | false =>
      cases hclose : isClosing c with
      | true =>
        cases depth with
        | zero =>
          rw [depthAfter?_closing_zero hopen hclose] at h
          cases h
        | succ depth =>
          rw [depthAfter?_closing_succ hopen hclose] at h
          rw [Nat.add_right_comm, depthAfter?_closing_succ hopen hclose]
          exact depthAfter?_add more h
      | false =>
        rw [depthAfter?_plain hopen hclose] at h ⊢
        exact depthAfter?_add more h

theorem Balanced.depthAfter? {cs : List Char} (h : Balanced cs) (depth : Nat) :
    depthAfter? depth cs = some depth := by
  simpa using depthAfter?_add depth h

theorem Balanced.append {a b : List Char} (ha : Balanced a) (hb : Balanced b) :
    Balanced (a ++ b) := by
  rw [Balanced, depthAfter?_append, ha.depthAfter?]
  exact hb

theorem balanced_of_no_brackets : ∀ {cs : List Char},
    (∀ c ∈ cs, isOpening c = false ∧ isClosing c = false) → Balanced cs
  | [], _ => rfl
  | c :: cs, h => by
    obtain ⟨hopen, hclose⟩ := h c List.mem_cons_self
    rw [Balanced, depthAfter?_plain hopen hclose]
    exact balanced_of_no_brackets fun c' hc' => h c' (List.mem_cons_of_mem _ hc')

theorem Balanced.enclose {cs : List Char} (h : Balanced cs) {opening closing : Char}
    (hopening : isOpening opening = true) (hclosing : isOpening closing = false)
    (hclosing' : isClosing closing = true) : Balanced (opening :: (cs ++ [closing])) := by
  rw [Balanced, depthAfter?_opening hopening, depthAfter?_append, h.depthAfter?, Option.bind_some,
    depthAfter?_closing_succ hclosing hclosing']
  rfl

/-- **Slashes inside of brackets are passed over**, and a text without slashes is anyway. `base`
brackets are open around the text all the time. -/
theorem beforeSlash?_skip {base : Nat} {rest : List Char} : ∀ {cs : List Char} {depth after : Nat},
    0 < base ∨ '/' ∉ cs → depthAfter? depth cs = some after →
      beforeSlash? (depth + base : Nat) (cs ++ rest) =
        (beforeSlash? (after + base : Nat) rest).map (cs ++ ·)
  | [], _, _, _, h => by
    rw [Option.some.inj h]
    simp
  | c :: cs, depth, after, hbase, h => by
    have hbase' : 0 < base ∨ '/' ∉ cs :=
      hbase.imp_right fun hnot hmem => hnot (List.mem_cons_of_mem _ hmem)
    have hmap (x : Option (List Char)) : (x.map (cs ++ ·)).map (c :: ·) = x.map (c :: cs ++ ·) := by
      rw [Option.map_map]
      rfl
    rw [List.cons_append]
    cases hopen : isOpening c with
    | true =>
      rw [depthAfter?_opening hopen] at h
      have hdepth : ((depth + base : Nat) : Int) + 1 = (depth + 1 + base : Nat) := by omega
      rw [beforeSlash?_opening hopen, hdepth, beforeSlash?_skip hbase' h, hmap]
    | false =>
      cases hclose : isClosing c with
      | true =>
        cases depth with
        | zero =>
          rw [depthAfter?_closing_zero hopen hclose] at h
          cases h
        | succ depth =>
          rw [depthAfter?_closing_succ hopen hclose] at h
          have hdepth : ((depth + 1 + base : Nat) : Int) - 1 = (depth + base : Nat) := by omega
          rw [beforeSlash?_closing hopen hclose, hdepth, beforeSlash?_skip hbase' h, hmap]
      | false =>
        rw [depthAfter?_plain hopen hclose] at h
        have hslash : c ≠ '/' ∨ ((depth + base : Nat) : Int) ≠ 0 := by
          rcases hbase with hpos | hnot
          · exact Or.inr (by omega)
          · exact Or.inl fun heq => hnot (heq ▸ List.mem_cons_self)
        rw [beforeSlash?_plain hopen hclose hslash, beforeSlash?_skip hbase' h, hmap]

/-! ## The parts of an expression -/

/-- Blanks between the parts: spaces and tabs. -/
structure Pad where
  chars : List Char
  blank : ∀ c ∈ chars, c = ' ' ∨ c = '\t'

/-- A name: a trimmed text of one line without the characters that expressions are made of. It may
be empty. -/
structure PlainName where
  chars : List Char
  trimmed : trimChars chars = chars
  plain : ∀ c ∈ chars, isReserved c = false
  oneLine : '\n' ∉ chars

/-- A non-empty word of ASCII letters, digits and underscores. -/
structure Word where
  chars : List Char
  nonempty : chars ≠ []
  word : ∀ c ∈ chars, isWordChar c = true

/-- The text behind the slash of an alternative, which is never read. -/
structure Remark where
  chars : List Char
  balanced : Balanced chars

def PlainName.text (n : PlainName) : String :=
  String.ofList n.chars

def Word.text (w : Word) : String :=
  String.ofList w.chars

/-- A sub-selection `name(key=value)` with blanks around key and value. -/
structure Selected where
  name : Word
  beforeKey : Pad
  key : Word
  afterKey : Pad
  beforeValue : Pad
  value : Word
  afterValue : Pad

/-- What an expression refers to. -/
inductive Reference where
  | name (n : PlainName)
  | selected (s : Selected)

/-- How a reference is decorated; blanks may stand inside of the brackets. -/
inductive Decoration where
  | bare
  | braces (before after : Pad)
  | angles (before after : Pad)

/-- A data type expression. -/
inductive Expr where
  | leaf (d : Decoration) (r : Reference)
  | array (e : Expr)
  /-- An expression, a slash and whatever else it may be. -/
  | alt (e : Expr) (other : Remark)
  | padded (before : Pad) (e : Expr) (after : Pad)

/-! ## Printing -/

/-- What stands between the parentheses of a sub-selection. -/
def Selected.inside (s : Selected) : List Char :=
  s.beforeKey.chars ++ (s.key.chars ++ (s.afterKey.chars ++
    '=' :: (s.beforeValue.chars ++ (s.value.chars ++ s.afterValue.chars))))

def Reference.print : Reference → List Char
  | name n => n.chars
  | selected s => s.name.chars ++ '(' :: (s.inside ++ [')'])

def Decoration.print (cs : List Char) : Decoration → List Char
  | bare => cs
  | braces before after => '\x7b' :: ((before.chars ++ cs ++ after.chars) ++ ['\x7d'])
  | angles before after => '<' :: ((before.chars ++ cs ++ after.chars) ++ ['>'])

def Expr.print : Expr → List Char
  | leaf d r => d.print r.print
  | array e => '[' :: (e.print ++ [']'])
  | alt e other => e.print ++ '/' :: other.chars
  | padded before e after => before.chars ++ e.print ++ after.chars

/-! ## Characters of the parts -/

/-- A text without brackets, slashes and line ends. -/
def Flat (cs : List Char) : Prop :=
  ∀ c ∈ cs, isOpening c = false ∧ isClosing c = false ∧ c ≠ '/' ∧ c ≠ '\n'

theorem Flat.append {a b : List Char} (ha : Flat a) (hb : Flat b) : Flat (a ++ b) := by
  intro c hc
  rcases List.mem_append.mp hc with hc | hc
  · exact ha c hc
  · exact hb c hc

theorem Flat.cons {c : Char} {cs : List Char}
    (hc : isOpening c = false ∧ isClosing c = false ∧ c ≠ '/' ∧ c ≠ '\n') (hcs : Flat cs) :
    Flat (c :: cs) := by
  intro c' hc'
  rcases List.mem_cons.mp hc' with rfl | hc'
  · exact hc
  · exact hcs c' hc'

theorem Flat.balanced {cs : List Char} (h : Flat cs) : Balanced cs :=
  balanced_of_no_brackets fun c hc => ⟨(h c hc).1, (h c hc).2.1⟩

theorem isOpening_of_isReserved {c : Char} (h : isReserved c = false) :
    isOpening c = false ∧ isClosing c = false ∧ c ≠ '/' := by
  simp only [isReserved, Bool.or_eq_false_iff, beq_eq_false_iff_ne] at h
  exact ⟨h.1.1.1, h.1.1.2, h.1.2⟩

/-- The characters that expressions are made of. -/
def reservedChars : List Char :=
  ['[', '\x7b', '<', '(', ']', '\x7d', '>', ')', '/', '=']

/-- A class of characters that has none of these in it. -/
theorem isReserved_eq_false_of {p : Char → Bool} (hp : reservedChars.any p = false) {c : Char}
    (h : p c = true) : isReserved c = false := by
  by_contra hreserved
  rw [Bool.not_eq_false] at hreserved
  have hmem : c ∈ reservedChars := by
    simpa only [isReserved, isOpening, isClosing, Bool.or_eq_true, beq_iff_eq, or_assoc,
      reservedChars, List.mem_cons, List.not_mem_nil, or_false] using hreserved
  exact List.any_eq_false.mp hp c hmem h

theorem isReserved_of_isWordChar {c : Char} (h : isWordChar c = true) : isReserved c = false :=
  isReserved_eq_false_of (by decide) h

theorem isReserved_of_isSpace {c : Char} (h : isSpace c = true) : isReserved c = false :=
  isReserved_eq_false_of (by decide) h

theorem isSpace_of_isWordChar {c : Char} (h : isWordChar c = true) : isSpace c = false := by
  have hrange : 0x30 ≤ c.toNat ∧ c.toNat < 0x80 := by
    delta isWordChar Char.isAlphanum Char.isAlpha Char.isUpper Char.isLower Char.isDigit at h
    simp only [Bool.or_eq_true, Bool.and_eq_true, decide_eq_true_eq, beq_iff_eq, ge_iff_le,
      UInt32.le_iff_toNat_le] at h
    rcases h with ((h | h) | h) | rfl
    · exact ⟨Nat.le_trans (by decide) h.1, Nat.lt_of_le_of_lt h.2 (by decide)⟩
    · exact ⟨Nat.le_trans (by decide) h.1, Nat.lt_of_le_of_lt h.2 (by decide)⟩
    · exact ⟨Nat.le_trans (by decide) h.1, Nat.lt_of_le_of_lt h.2 (by decide)⟩
    · decide
  obtain ⟨hlow, hhigh⟩ := hrange
  simp only [isSpace, Bool.or_eq_false_iff, Bool.and_eq_false_iff, beq_eq_false_iff_ne,
    decide_eq_false_iff_not]
  omega

theorem Pad.flat (p : Pad) : Flat p.chars := by
  intro c hc
  rcases p.blank c hc with rfl | rfl <;> decide

theorem Pad.spaces (p : Pad) : Spaces p.chars := by
  intro c hc
  rcases p.blank c hc with rfl | rfl <;> decide

theorem PlainName.flat (n : PlainName) : Flat n.chars := by
  intro c hc
  obtain ⟨hopen, hclose, hslash⟩ := isOpening_of_isReserved (n.plain c hc)
  exact ⟨hopen, hclose, hslash, fun heq => n.oneLine (heq ▸ hc)⟩

theorem Word.flat (w : Word) : Flat w.chars := by
  intro c hc
  obtain ⟨hopen, hclose, hslash⟩ := isOpening_of_isReserved (isReserved_of_isWordChar (w.word c hc))
  refine ⟨hopen, hclose, hslash, ?_⟩
  rintro rfl
  exact absurd (w.word _ hc) (by decide)

theorem Selected.flat_inside (s : Selected) : Flat s.inside :=
  s.beforeKey.flat.append (s.key.flat.append (s.afterKey.flat.append
    (.cons (by decide) (s.beforeValue.flat.append (s.value.flat.append s.afterValue.flat)))))

/-! ## Printed trees are balanced -/

theorem Reference.balanced_print : ∀ r : Reference, Balanced r.print
  | name n => n.flat.balanced
  | selected s => s.name.flat.balanced.append (s.flat_inside.balanced.enclose rfl rfl rfl)

theorem Decoration.balanced_print {cs : List Char} (h : Balanced cs) :
    ∀ d : Decoration, Balanced (d.print cs)
  | bare => h
  | braces before after | angles before after =>
    ((before.flat.balanced.append h).append after.flat.balanced).enclose rfl rfl rfl

/-- **Every bracket of a printed tree is closed in it.** -/
theorem Expr.balanced_print : ∀ e : Expr, Balanced e.print
  | leaf d r => d.balanced_print r.balanced_print
  | array e => e.balanced_print.enclose rfl rfl rfl
  | alt e other => e.balanced_print.append
      (depthAfter?_plain (by decide) (by decide) 0 |>.trans other.balanced)
  | padded before e after =>
    (before.flat.balanced.append e.balanced_print).append after.flat.balanced

theorem Reference.no_breaks : ∀ r : Reference, ∀ c ∈ r.print, c ≠ '/' ∧ c ≠ '\n'
  | name n, c, hc => (n.flat c hc).2.2
  | selected s, c, hc => by
    simp only [print, List.mem_append, List.mem_cons, List.not_mem_nil, or_false] at hc
    rcases hc with hc | rfl | hc | rfl
    · exact (s.name.flat c hc).2.2
    · decide
    · exact (s.flat_inside c hc).2.2
    · decide

theorem Decoration.no_slash {cs : List Char} (h : '/' ∉ cs) : ∀ d : Decoration, '/' ∉ d.print cs
  | bare => h
  | braces before after | angles before after => by
    simp only [print, List.mem_append, List.mem_cons, List.not_mem_nil, or_false, not_or]
    exact ⟨by decide, ⟨⟨fun hmem => (before.flat _ hmem).2.2.1 rfl, h⟩,
      fun hmem => (after.flat _ hmem).2.2.1 rfl⟩, by decide⟩

/-! ## Trimmed texts -/

theorem trimmed_enclosed {opening closing : Char} {cs : List Char}
    (hopening : isSpace opening = false) (hclosing : isSpace closing = false) :
    Trimmed (opening :: (cs ++ [closing])) where
  head := forall_head?_cons hopening
  last c hc := by
    rw [← List.cons_append, List.getLast?_concat] at hc
    cases Option.mem_some_iff.mp hc
    exact hclosing

theorem Reference.trimmed_print : ∀ r : Reference, Trimmed r.print
  | name n => by
    have htrimmed := trimmed_trimChars n.chars
    rwa [n.trimmed] at htrimmed
  | selected s => by
    obtain ⟨c, cs, hcs⟩ := List.exists_cons_of_ne_nil s.name.nonempty
    have hword : isWordChar c = true := s.name.word c (hcs ▸ List.mem_cons_self)
    have hprint : (selected s).print = c :: ((cs ++ '(' :: s.inside) ++ [')']) := by
      rw [print, hcs]
      simp
    rw [hprint]
    exact trimmed_enclosed (isSpace_of_isWordChar hword) (by decide)

theorem Decoration.trimmed_print {cs : List Char} (h : Trimmed cs) :
    ∀ d : Decoration, Trimmed (d.print cs)
  | bare => h
  | braces _ _ | angles _ _ => trimmed_enclosed (by decide) (by decide)

/-! ## The first alternative -/

/-- What a tree has before its first alternative slash, without blanks around it. -/
def Expr.head : Expr → List Char
  | leaf d r => d.print r.print
  | array e => '[' :: (e.print ++ [']'])
  | alt e _ => e.head
  | padded _ e _ => e.head

theorem Expr.trimmed_head : ∀ e : Expr, Trimmed e.head
  | leaf d r => d.trimmed_print r.trimmed_print
  | array _ => trimmed_enclosed (by decide) (by decide)
  | alt e _ => e.trimmed_head
  | padded _ e _ => e.trimmed_head

/-- The search for a slash goes over the whole text and on behind it. -/
def PassedOver (cs : List Char) : Prop :=
  ∀ rest, beforeSlash? 0 (cs ++ rest) = (beforeSlash? 0 rest).map (cs ++ ·)

theorem passedOver_of_no_slash {cs : List Char} (h : Balanced cs) (hslash : '/' ∉ cs) :
    PassedOver cs := by
  intro rest
  simpa using @beforeSlash?_skip 0 rest cs 0 0 (Or.inr hslash) h

theorem passedOver_leaf (d : Decoration) (r : Reference) : PassedOver (d.print r.print) :=
  passedOver_of_no_slash (d.balanced_print r.balanced_print)
    (d.no_slash fun hmem => (r.no_breaks _ hmem).1 rfl)

theorem passedOver_array {cs : List Char} (h : Balanced cs) :
    PassedOver ('[' :: (cs ++ [']'])) := by
  intro rest
  have hskip : beforeSlash? 1 (cs ++ ']' :: rest) =
      (beforeSlash? 1 (']' :: rest)).map (cs ++ ·) :=
    @beforeSlash?_skip 1 (']' :: rest) cs 0 0 (Or.inl Nat.one_pos) h
  have hclosing : beforeSlash? 1 (']' :: rest) = (beforeSlash? 0 rest).map (']' :: ·) :=
    beforeSlash?_closing rfl rfl 1
  have htext : '[' :: (cs ++ [']']) ++ rest = '[' :: (cs ++ ']' :: rest) := by simp
  rw [htext, beforeSlash?_opening rfl, Int.zero_add, hskip, hclosing, Option.map_map,
    Option.map_map]
  congr 1
  funext first
  simp

theorem PassedOver.append {a b : List Char} (ha : PassedOver a) (hb : PassedOver b) :
    PassedOver (a ++ b) := by
  intro rest
  rw [List.append_assoc, ha, hb, Option.map_map]
  congr 1
  funext cs
  exact (List.append_assoc a b cs).symm

theorem passedOver_of_spaces {cs : List Char} (h : Spaces cs) : PassedOver cs := by
  refine passedOver_of_no_slash (balanced_of_no_brackets fun c hc => ?_) fun hmem => ?_
  · obtain ⟨hopen, hclose, -⟩ := isOpening_of_isReserved (isReserved_of_isSpace (h c hc))
    exact ⟨hopen, hclose⟩
  · exact (isOpening_of_isReserved (isReserved_of_isSpace (h _ hmem))).2.2 rfl

/-- **Where a printed tree is cut.** Either no slash of it is outside of brackets, or it is cut
behind its head; blanks are all that can stand around the head. -/
theorem Expr.exists_cut : ∀ e : Expr, ∃ before after, Spaces before ∧ Spaces after ∧
    ((e.print = before ++ e.head ++ after ∧ PassedOver e.print) ∨
      ∀ rest, beforeSlash? 0 (e.print ++ rest) = some (before ++ e.head ++ after))
  | leaf d r => ⟨[], [], spaces_nil, spaces_nil, Or.inl ⟨by simp [head, print],
      passedOver_leaf d r⟩⟩
  | array e => ⟨[], [], spaces_nil, spaces_nil, Or.inl ⟨by simp [head, print],
      passedOver_array e.balanced_print⟩⟩
  | alt e other => by
    obtain ⟨before, after, hbefore, hafter, hcut⟩ := e.exists_cut
    refine ⟨before, after, hbefore, hafter, Or.inr fun rest => ?_⟩
    rw [print, List.append_assoc, List.cons_append]
    rcases hcut with ⟨hprint, hpass⟩ | hcut
    · -- all of `e` is passed over, and the slash behind it is the first one outside
      rw [hpass, show beforeSlash? 0 ('/' :: (other.chars ++ rest)) = some [] from rfl,
        Option.map_some, List.append_nil, hprint]
      rfl
    · exact hcut _
  | padded p e q => by
    obtain ⟨before, after, hbefore, hafter, hcut⟩ := e.exists_cut
    rcases hcut with ⟨hprint, hpass⟩ | hcut
    · have hpass' : PassedOver (p.chars ++ e.print ++ q.chars) :=
        ((passedOver_of_spaces p.spaces).append hpass).append (passedOver_of_spaces q.spaces)
      refine ⟨p.chars ++ before, after ++ q.chars, p.spaces.append hbefore,
        hafter.append q.spaces, Or.inl ⟨?_, hpass'⟩⟩
      rw [print, hprint, head]
      simp only [List.append_assoc]
    · refine ⟨p.chars ++ before, after, p.spaces.append hbefore, hafter, Or.inr fun rest => ?_⟩
      rw [print, List.append_assoc, List.append_assoc, passedOver_of_spaces p.spaces, hcut,
        Option.map_some, head]
      simp only [List.append_assoc]

/-- Behind the end of a text that has no slash to be cut at, white space has none either. -/
theorem beforeSlash?_append_spaces {after : List Char} (h : Spaces after) :
    ∀ (cs : List Char) (depth : Int), beforeSlash? depth (cs ++ after) = beforeSlash? depth cs
  | [], depth => by
    induction after with
    | nil => rfl
    | cons c after ih =>
      obtain ⟨hopen, hclose, hslash⟩ :=
        isOpening_of_isReserved (isReserved_of_isSpace (h c List.mem_cons_self))
      have hnone := ih fun c' hc' => h c' (List.mem_cons_of_mem _ hc')
      rw [List.nil_append] at hnone ⊢
      rw [beforeSlash?_plain hopen hclose (Or.inl hslash), hnone]
      rfl
  | c :: cs, depth => by
    simp only [List.cons_append, beforeSlash?, beforeSlash?_append_spaces h cs]

/-- White space around a text does not change where it is cut. -/
theorem firstAlternative_trimChars (cs : List Char) :
    firstAlternative (trimChars cs) = trimChars ((beforeSlash? 0 cs).getD cs) := by
  obtain ⟨before, after, hbefore, hafter, -, hcs⟩ := exists_eq_trimChars cs
  have hcut : beforeSlash? 0 cs = (beforeSlash? 0 (trimChars cs)).map (before ++ ·) := by
    rw [← passedOver_of_spaces hbefore, ← beforeSlash?_append_spaces hafter (before ++ _), ← hcs]
  rw [firstAlternative, hcut]
  cases beforeSlash? 0 (trimChars cs) with
  | none => rfl
  | some first =>
    have hsurround := @trimChars_surround before first [] hbefore spaces_nil
    rw [List.append_nil] at hsurround
    exact hsurround.symm

/-- **The first alternative of a printed tree is its head.** -/
theorem Expr.firstAlternative_print (e : Expr) : firstAlternative (trimChars e.print) = e.head := by
  obtain ⟨before, after, hbefore, hafter, hcut⟩ := e.exists_cut
  have hhead := trimChars_eq_of_trimmed hbefore e.trimmed_head hafter
  rw [firstAlternative_trimChars]
  rcases hcut with ⟨hprint, hpass⟩ | hcut
  · have hnone := hpass []
    rw [List.append_nil] at hnone
    rw [hnone]
    refine Eq.trans ?_ hhead
    rw [← hprint]
    rfl
  · have hsome := hcut []
    rw [List.append_nil] at hsome
    rw [hsome]
    exact hhead

/-! ## The first character -/

theorem Reference.head_plain : ∀ r : Reference, ∀ c ∈ r.print.head?, isReserved c = false
  | name n, c, hc => n.plain c (List.mem_of_mem_head? hc)
  | selected s, c, hc => by
    obtain ⟨c', cs, hcs⟩ := List.exists_cons_of_ne_nil s.name.nonempty
    rw [print, hcs] at hc
    cases Option.mem_some_iff.mp hc
    exact isReserved_of_isWordChar (s.name.word c (hcs ▸ List.mem_cons_self))

/-- The first character of a text that is not white space, if any, is no parenthesis. -/
def OpensPlainly (cs : List Char) : Prop :=
  ∀ c ∈ (cs.dropWhile isSpace).head?, c ≠ '('

theorem opensPlainly_cons {c : Char} {cs : List Char} (h : isSpace c = false) (h' : c ≠ '(') :
    OpensPlainly (c :: cs) := by
  have hkeep : (c :: cs).dropWhile isSpace = c :: cs := dropWhile_eq_self (forall_head?_cons h)
  rw [OpensPlainly, hkeep]
  exact forall_head?_cons h'

theorem opensPlainly_spaces {before cs : List Char} (h : Spaces before) (hcs : OpensPlainly cs) :
    OpensPlainly (before ++ cs) := by
  rw [OpensPlainly, List.dropWhile_append_of_pos h]
  exact hcs

/-- **No printed tree looks like a list of choices.** -/
theorem Expr.opensPlainly_print : ∀ (e : Expr) {rest : List Char},
    OpensPlainly rest → OpensPlainly (e.print ++ rest)
  | leaf .bare r, rest, hrest => by
    rw [print, Decoration.print]
    cases hr : r.print with
    | nil => exact hrest
    | cons c cs =>
      have hhead : c ∈ r.print.head? := by rw [hr]; rfl
      refine opensPlainly_cons (r.trimmed_print.head c hhead) ?_
      rintro rfl
      exact absurd (r.head_plain _ hhead) (by decide)
  | leaf (.braces _ _) r, _, _ | leaf (.angles _ _) r, _, _ | array _, _, _ =>
    opensPlainly_cons (by decide) (by decide)
  | alt e other, rest, _ => by
    rw [print, List.append_assoc]
    exact e.opensPlainly_print (opensPlainly_cons (by decide) (by decide))
  | padded p e q, rest, hrest => by
    rw [print, List.append_assoc, List.append_assoc]
    exact opensPlainly_spaces p.spaces (e.opensPlainly_print (opensPlainly_spaces q.spaces hrest))

end SchemaGen.TypeExpr
