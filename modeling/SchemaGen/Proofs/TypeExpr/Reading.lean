import SchemaGen.Proofs.TypeExpr.Expression
import SchemaGen.TypeExpr.Resolver

/-!
# Reading data types

The resolver goes through the text of a data type by cuts and tests that look at the ends of a text
and at brackets counted as one kind. Here it is held against the trees of
`SchemaGen.Proofs.TypeExpr.Expression`: `Expr.Denotes` says what a tree means, rule by rule, with no
text in it but the names that are looked up and the text that a descriptor keeps, and
`resolve_print_iff` says that the resolver gives a printed tree this meaning and no other.

The induction is on the tree. What carries it is that the resolver depends on a text only through
its first alternative, and that the first alternative of a printed tree is its head; an array is
read again from the inside of its head, and alternatives and blanks have the head of what they are
around.
-/

set_option autoImplicit false

namespace SchemaGen.TypeExpr

open SchemaGen.Text

/-! ## What trees mean -/

/-- What a reference means in a catalog, for a descriptor that keeps `raw`. -/
inductive Reference.Denotes (c : Catalog) (raw : String) : Reference → TypeDescriptor → Prop where
  /-- A name that some schema exports is a type in the namespace of that schema. -/
  | exported {n : PlainName} {origin : String} (h : c.originOf? n.text = some origin) :
      Denotes c raw (.name n)
        { kind := .simple, raw, name := namespaceName origin ++ "::" ++ n.text, origin }
  /-- Any other name is a fundamental type, or none. -/
  | fundamental {n : PlainName} {primitive : String} (h : c.originOf? n.text = none)
      (h' : c.primitive? n.text = some primitive) :
      Denotes c raw (.name n) { kind := .simple, raw, name := primitive }
  /-- A sub-selection of an exported name keeps the name as it is, with its key and value. -/
  | selected {s : Selected} {origin : String} (h : c.originOf? s.name.text = some origin) :
      Denotes c raw (.selected s)
        { kind := .nested, raw, name := s.name.text, origin, subKey := s.key.text
          subValue := s.value.text }

/-- What an expression means. An array keeps its own text, its element the text inside. -/
inductive Expr.Denotes (c : Catalog) : String → Expr → TypeDescriptor → Prop where
  | leaf {raw : String} (deco : Decoration) {r : Reference} {d : TypeDescriptor}
      (h : r.Denotes c raw d) : Denotes c raw (.leaf deco r) d
  | array {raw : String} {e : Expr} {elem : TypeDescriptor}
      (h : Denotes c (String.ofList (trimChars e.print)) e elem) :
      Denotes c raw (.array e) { kind := .array, raw, elem := some elem }
  | alt {raw : String} {e : Expr} (other : Remark) {d : TypeDescriptor} (h : Denotes c raw e d) :
      Denotes c raw (.alt e other) d
  | padded {raw : String} (before after : Pad) {e : Expr} {d : TypeDescriptor}
      (h : Denotes c raw e d) : Denotes c raw (.padded before e after) d

/-- The reference that is reached by always taking the first alternative. -/
def Expr.reference : Expr → Reference
  | leaf _ r => r
  | array e | alt e _ | padded _ e _ => e.reference

/-- A catalog knows a reference if some schema exports its name or, without a sub-selection, if it
is a fundamental type. -/
def Reference.Known (c : Catalog) : Reference → Prop
  | name n => (c.originOf? n.text).isSome ∨ (c.primitive? n.text).isSome
  | selected s => (c.originOf? s.name.text).isSome

instance (c : Catalog) : (r : Reference) → Decidable (r.Known c)
  | .name n => inferInstanceAs
      (Decidable ((c.originOf? n.text).isSome = true ∨ (c.primitive? n.text).isSome = true))
  | .selected s => inferInstanceAs (Decidable ((c.originOf? s.name.text).isSome = true))

section Rules

variable {c : Catalog} {raw : String} {d : TypeDescriptor}

theorem Expr.denotes_leaf {deco : Decoration} {r : Reference} :
    (leaf deco r).Denotes c raw d ↔ r.Denotes c raw d := by
  constructor
  · intro h
    cases h with
    | leaf _ h => exact h
  · exact .leaf deco

theorem Expr.denotes_array {e : Expr} :
    (array e).Denotes c raw d ↔ ∃ elem, e.Denotes c (String.ofList (trimChars e.print)) elem ∧
      d = { kind := .array, raw, elem := some elem } := by
  constructor
  · intro h
    cases h with
    | array h => exact ⟨_, h, rfl⟩
  · rintro ⟨elem, h, rfl⟩
    exact .array h

theorem Expr.denotes_alt {e : Expr} {other : Remark} :
    (alt e other).Denotes c raw d ↔ e.Denotes c raw d := by
  constructor
  · intro h
    cases h with
    | alt _ h => exact h
  · exact .alt other

theorem Expr.denotes_padded {before after : Pad} {e : Expr} :
    (padded before e after).Denotes c raw d ↔ e.Denotes c raw d := by
  constructor
  · intro h
    cases h with
    | padded _ _ h => exact h
  · exact .padded before after

end Rules

theorem Reference.exists_denotes_iff (c : Catalog) (raw : String) :
    ∀ r : Reference, (∃ d, r.Denotes c raw d) ↔ r.Known c
  | name n => by
    constructor
    · rintro ⟨d, h | ⟨_, h⟩⟩
      · exact Or.inl (Option.isSome_iff_exists.mpr ⟨_, h⟩)
      · exact Or.inr (Option.isSome_iff_exists.mpr ⟨_, h⟩)
    · intro h
      cases horigin : c.originOf? n.text with
      | some origin => exact ⟨_, .exported horigin⟩
      | none =>
        rw [Known, horigin] at h
        obtain ⟨primitive, hprimitive⟩ := Option.isSome_iff_exists.mp (h.resolve_left (by decide))
        exact ⟨_, .fundamental horigin hprimitive⟩
  | selected s => by
    constructor
    · rintro ⟨d, h⟩
      cases h with
      | selected h => exact Option.isSome_iff_exists.mpr ⟨_, h⟩
    · intro h
      obtain ⟨origin, horigin⟩ := Option.isSome_iff_exists.mp h
      exact ⟨_, .selected horigin⟩

/-- A tree has a meaning exactly if its reference does. -/
theorem Expr.exists_denotes_iff (c : Catalog) :
    ∀ (e : Expr) (raw : String), (∃ d, e.Denotes c raw d) ↔ e.reference.Known c
  | leaf deco r, raw => by
    simp only [denotes_leaf]
    exact r.exists_denotes_iff c raw
  | array e, raw => by
    refine Iff.trans ?_ (exists_denotes_iff c e (String.ofList (trimChars e.print)))
    constructor
    · rintro ⟨d, h⟩
      obtain ⟨elem, helem, -⟩ := denotes_array.mp h
      exact ⟨elem, helem⟩
    · rintro ⟨elem, helem⟩
      exact ⟨_, .array helem⟩
  | alt e other, raw => by
    simp only [denotes_alt]
    exact exists_denotes_iff c e raw
  | padded before e after, raw => by
    simp only [denotes_padded]
    exact exists_denotes_iff c e raw

/-! ## Reading a reference -/

theorem enclosed?_enclosed (opening closing : Char) (cs : List Char) :
    enclosed? opening closing (opening :: (cs ++ [closing])) = some cs := by
  rw [enclosed?, if_pos ⟨rfl, List.getLast?_concat⟩, List.dropLast_concat]

theorem enclosed?_eq_none {opening closing : Char} {cs : List Char}
    (h : ∀ c ∈ cs.head?, c ≠ opening) : enclosed? opening closing cs = none := by
  cases cs with
  | nil => rfl
  | cons c cs => rw [enclosed?, if_neg fun hboth => h c rfl hboth.1]

theorem Reference.enclosed?_print (r : Reference) {opening : Char} (closing : Char)
    (h : isReserved opening = true) : enclosed? opening closing r.print = none := by
  refine enclosed?_eq_none fun c hc heq => ?_
  rw [heq] at hc
  rw [r.head_plain _ hc] at h
  cases h

/-- A reference with blanks around it is one line. -/
theorem Reference.oneLine_padded (r : Reference) (before after : Pad) :
    (before.chars ++ r.print ++ after.chars).contains '\n' = false := by
  rw [List.contains_eq_mem, decide_eq_false_iff_not, List.mem_append, List.mem_append, not_or,
    not_or]
  exact ⟨⟨fun hmem => (before.flat _ hmem).2.2.2 rfl, fun hmem => (r.no_breaks _ hmem).2 rfl⟩,
    fun hmem => (after.flat _ hmem).2.2.2 rfl⟩

/-- Decoration and the blanks inside of it are taken off. -/
theorem Decoration.referenceName_print (r : Reference) :
    ∀ d : Decoration, referenceName (d.print r.print) = r.print
  | bare => by
    simp only [print, referenceName, r.enclosed?_print _ (show isReserved '\x7b' = true from rfl),
      r.enclosed?_print _ (show isReserved '<' = true from rfl), Option.filter_none]
  | braces before after => by
    simp only [print, referenceName, enclosed?_enclosed, Option.filter_some,
      r.oneLine_padded before after, Bool.not_false, if_true]
    exact trimChars_eq_of_trimmed before.spaces r.trimmed_print after.spaces
  | angles before after => by
    have hnone : enclosed? '\x7b' '\x7d'
        ('<' :: ((before.chars ++ r.print ++ after.chars) ++ ['>'])) = none :=
      enclosed?_eq_none (forall_head?_cons (by decide))
    simp only [print, referenceName, hnone, Option.filter_none, enclosed?_enclosed,
      Option.filter_some, r.oneLine_padded before after, Bool.not_false, if_true]
    exact trimChars_eq_of_trimmed before.spaces r.trimmed_print after.spaces

/-! ## Reading a sub-selection -/

/-- A word is read up to where something else starts. -/
theorem Word.word?_append (w : Word) {rest : List Char}
    (h : ∀ c ∈ rest.head?, isWordChar c = false) :
    word? (w.chars ++ rest) = some (w.chars, rest) := by
  have htake : (w.chars ++ rest).takeWhile isWordChar = w.chars := by
    rw [List.takeWhile_append_of_pos w.word]
    cases rest with
    | nil => simp
    | cons c rest => rw [List.takeWhile_cons, h c rfl]; simp
  have hdrop : (w.chars ++ rest).dropWhile isWordChar = rest := by
    rw [List.dropWhile_append_of_pos w.word, dropWhile_eq_self h]
  obtain ⟨c, cs, hcs⟩ := List.exists_cons_of_ne_nil w.nonempty
  rw [word?, htake, hdrop, hcs]

theorem Pad.dropWhile_append (p : Pad) {cs : List Char} (h : ∀ c ∈ cs.head?, isBlank c = false) :
    (p.chars ++ cs).dropWhile isBlank = cs := by
  rw [List.dropWhile_append_of_pos, dropWhile_eq_self h]
  intro c hc
  rcases p.blank c hc with rfl | rfl <;> rfl

/-- Blanks and a character that is no word character end a word. -/
theorem Pad.head_not_word (p : Pad) {c : Char} (h : isWordChar c = false) (cs : List Char) :
    ∀ c' ∈ (p.chars ++ c :: cs).head?, isWordChar c' = false := by
  cases hp : p.chars with
  | nil => exact forall_head?_cons h
  | cons b bs =>
    refine forall_head?_cons ?_
    rcases p.blank b (hp ▸ List.mem_cons_self) with rfl | rfl <;> rfl

theorem Word.head_not_blank (w : Word) (rest : List Char) :
    ∀ c ∈ (w.chars ++ rest).head?, isBlank c = false := by
  obtain ⟨c, cs, hcs⟩ := List.exists_cons_of_ne_nil w.nonempty
  rw [hcs]
  refine forall_head?_cons ?_
  have hword := w.word c (hcs ▸ List.mem_cons_self)
  by_contra hblank
  rw [Bool.not_eq_false] at hblank
  simp only [isBlank, Bool.or_eq_true, beq_iff_eq] at hblank
  rcases hblank with (((rfl | rfl) | rfl) | rfl) | rfl
  all_goals exact absurd hword (by decide)

theorem skip?_self (c : Char) (cs : List Char) : skip? c (c :: cs) = some cs := by
  rw [skip?, if_pos rfl]

/-- **A printed sub-selection is read as its three words.** -/
theorem Selected.subSelection?_print (s : Selected) :
    subSelection? (Reference.selected s).print =
      some ⟨s.name.text, s.key.text, s.value.text⟩ := by
  have hprint : (Reference.selected s).print = s.name.chars ++ '(' :: (s.beforeKey.chars ++
      (s.key.chars ++ (s.afterKey.chars ++ '=' :: (s.beforeValue.chars ++
        (s.value.chars ++ (s.afterValue.chars ++ [')'])))))) := by
    simp only [Reference.print, inside, List.append_assoc, List.cons_append]
  have hopen (rest : List Char) : ∀ c ∈ ('(' :: rest).head?, isWordChar c = false :=
    forall_head?_cons rfl
  have hequals (rest : List Char) : ∀ c ∈ ('=' :: rest).head?, isBlank c = false :=
    forall_head?_cons rfl
  have hclose : ∀ c ∈ [')'].head?, isBlank c = false := forall_head?_cons rfl
  rw [hprint, subSelection?]
  simp only [Option.bind_eq_bind, s.name.word?_append (hopen _), Option.bind_some, skip?_self,
    s.beforeKey.dropWhile_append (s.key.head_not_blank _),
    s.key.word?_append (s.afterKey.head_not_word (show isWordChar '=' = false from rfl) _),
    s.afterKey.dropWhile_append (hequals _),
    s.beforeValue.dropWhile_append (s.value.head_not_blank _),
    s.value.word?_append (s.afterValue.head_not_word (show isWordChar ')' = false from rfl) _),
    s.afterValue.dropWhile_append hclose]
  rfl

/-! ## Reading an expression -/

theorem resolveName_eq_some_iff {c : Catalog} {raw : String} {n : PlainName}
    {d : TypeDescriptor} :
    resolveName c raw n.text = some d ↔ (Reference.name n).Denotes c raw d := by
  unfold resolveName
  constructor
  · intro h
    split at h
    next origin horigin =>
      cases h
      exact .exported horigin
    next horigin =>
      obtain ⟨primitive, hprimitive, rfl⟩ := Option.map_eq_some_iff.mp h
      exact .fundamental horigin hprimitive
  · intro h
    cases h with
    | exported horigin => rw [horigin]
    | fundamental horigin hprimitive => rw [horigin, hprimitive]; rfl

theorem resolveSubSelection_eq_some_iff {c : Catalog} {raw : String} {s : Selected}
    {d : TypeDescriptor} :
    resolveSubSelection c raw (Reference.selected s).print = some d ↔
      (Reference.selected s).Denotes c raw d := by
  rw [resolveSubSelection, s.subSelection?_print]
  simp only [Option.bind_eq_bind, Option.bind_some, Option.pure_def]
  constructor
  · intro h
    obtain ⟨origin, horigin, h⟩ := Option.bind_eq_some_iff.mp h
    cases h
    exact .selected horigin
  · intro h
    cases h with
    | selected horigin => rw [horigin]; rfl

/-- A leaf is read as its reference, whatever its decoration. -/
theorem resolveSimple_eq_some_iff {c : Catalog} {raw : String} {deco : Decoration}
    {r : Reference} {d : TypeDescriptor} :
    resolveSimple c raw (deco.print r.print) = some d ↔ r.Denotes c raw d := by
  have hfirst : firstAlternative (deco.print r.print) = deco.print r.print := by
    have hnone := passedOver_leaf deco r []
    rw [List.append_nil] at hnone
    rw [firstAlternative, hnone]
    rfl
  simp only [resolveSimple, hfirst, deco.referenceName_print]
  cases r with
  | name n =>
    have hplain : (Reference.name n).print.any isReserved = false := by
      rw [List.any_eq_false]
      intro c hc
      simp [n.plain c hc]
    rw [hplain]
    exact resolveName_eq_some_iff
  | selected s =>
    have hreserved : (Reference.selected s).print.any isReserved = true := by
      simp [Reference.print, isReserved, isOpening]
    rw [hreserved]
    exact resolveSubSelection_eq_some_iff

theorem Decoration.enclosed?_print (d : Decoration) (r : Reference) :
    enclosed? '[' ']' (d.print r.print) = none := by
  cases d with
  | bare => exact r.enclosed?_print _ rfl
  | braces | angles => exact enclosed?_eq_none (forall_head?_cons (by decide))

theorem resolveExpression_of_some {c : Catalog} {cs inner : List Char}
    (h : enclosed? '[' ']' (firstAlternative (trimChars cs)) = some inner) :
    resolveExpression c cs = (resolveExpression c inner).map fun elem =>
      { kind := .array, raw := String.ofList (trimChars cs), elem := some elem } := by
  rw [resolveExpression]
  split
  next found hfound => rw [h] at hfound; cases hfound; rfl
  next hnone => rw [h] at hnone; cases hnone

theorem resolveExpression_of_none {c : Catalog} {cs : List Char}
    (h : enclosed? '[' ']' (firstAlternative (trimChars cs)) = none) :
    resolveExpression c cs =
      resolveSimple c (String.ofList (trimChars cs)) (firstAlternative (trimChars cs)) := by
  rw [resolveExpression]
  split
  next found hfound => rw [h] at hfound; cases hfound
  next => rfl

/-- **The resolver reads a tree off any text that has its head for first alternative.** -/
theorem resolveExpression_eq_some_iff {c : Catalog} :
    ∀ {e : Expr} {cs : List Char} {d : TypeDescriptor},
      firstAlternative (trimChars cs) = e.head →
        (resolveExpression c cs = some d ↔ e.Denotes c (String.ofList (trimChars cs)) d)
  | .leaf deco r, cs, d, hfirst => by
    have hnone : enclosed? '[' ']' (firstAlternative (trimChars cs)) = none := by
      rw [hfirst]
      exact deco.enclosed?_print r
    rw [resolveExpression_of_none hnone, hfirst, Expr.denotes_leaf]
    exact resolveSimple_eq_some_iff
  | .array e, cs, d, hfirst => by
    have hsome : enclosed? '[' ']' (firstAlternative (trimChars cs)) = some e.print := by
      rw [hfirst]
      exact enclosed?_enclosed '[' ']' e.print
    rw [resolveExpression_of_some hsome, Option.map_eq_some_iff, Expr.denotes_array]
    -- the inside is read as a text of its own, whose first alternative is the head of `e`
    have hinside (elem : TypeDescriptor) := @resolveExpression_eq_some_iff c e e.print elem
      e.firstAlternative_print
    simp only [hinside, eq_comm]
  | .alt e other, cs, d, hfirst => by
    rw [Expr.denotes_alt]
    exact resolveExpression_eq_some_iff hfirst
  | .padded before e after, cs, d, hfirst => by
    rw [Expr.denotes_padded]
    exact resolveExpression_eq_some_iff hfirst

/-! ## The types of the generated code -/

/-- The type of a tree in the generated code, if its reference has the type `name`. -/
def Expr.typeText (name : String) : Expr → String
  | leaf _ _ => name
  | array e => "std::vector<" ++ e.typeText name ++ ">"
  | alt e _ | padded _ e _ => e.typeText name

/-- The type of the elements of a tree that is an array; the type itself otherwise. -/
def Expr.innerText (name : String) : Expr → String
  | leaf _ _ => name
  | array e => e.typeText name
  | alt e _ | padded _ e _ => e.innerText name

theorem Reference.cppType_of_denotes {c : Catalog} {raw : String} {r : Reference}
    {d : TypeDescriptor} (h : r.Denotes c raw d) : d.cppType = d.name ∧ d.innerType = d.name := by
  cases h <;> exact ⟨rfl, rfl⟩

theorem Expr.exists_typeText {c : Catalog} {e : Expr} {raw : String} {d : TypeDescriptor}
    (h : e.Denotes c raw d) : ∃ raw' leaf, e.reference.Denotes c raw' leaf ∧
      d.cppType = e.typeText leaf.name ∧ d.innerType = e.innerText leaf.name := by
  induction h with
  | leaf deco h => exact ⟨_, _, h, Reference.cppType_of_denotes h⟩
  | array _ ih =>
    obtain ⟨raw', leaf, hleaf, htype, -⟩ := ih
    refine ⟨raw', leaf, hleaf, ?_, htype⟩
    rw [TypeDescriptor.cppType, htype]
    rfl
  | alt other _ ih => exact ih
  | padded before after _ ih => exact ih

/-! ## The whole data type -/

theorem Expr.selectorChoices?_print (e : Expr) :
    selectorChoices? (String.ofList (trimChars e.print)) = none := by
  have hopens : OpensPlainly ([] : List Char) := fun c hc => by cases hc
  have hplain := e.opensPlainly_print hopens
  rw [List.append_nil] at hplain
  rw [selectorChoices?, String.toList_ofList, enclosed?_eq_none, Option.map_none]
  exact fun c hc => hplain c (mem_head?_trimChars hc)

theorem resolve_eq_ok_iff {r : Resolver} {group : SchemaObject} {element : DataElement} {e : Expr}
    (htext : element.dataType = String.ofList e.print) (hblank : trim element.dataType ≠ "")
    {d : TypeDescriptor} :
    r.resolve group element = .ok d ↔ e.Denotes r.catalog (trim element.dataType) d := by
  have htrim : trim element.dataType = String.ofList (trimChars e.print) := by
    rw [htext, trim, String.toList_ofList]
  -- the resolver trims a text that has been trimmed already
  have hfirst : firstAlternative (trimChars (trimChars e.print)) = e.head := by
    rw [(trimmed_trimChars e.print).trimChars_eq, e.firstAlternative_print]
  have hread := @resolveExpression_eq_some_iff r.catalog e (trimChars e.print) d hfirst
  rw [(trimmed_trimChars e.print).trimChars_eq, ← htrim] at hread
  rw [← hread]
  unfold Resolver.resolve
  simp only [hblank, if_false]
  rw [htrim, e.selectorChoices?_print, String.toList_ofList]
  cases resolveExpression r.catalog (trimChars e.print) <;> simp

/-- **A data type is read as the tree that it is printed from.** For every catalog, group and
element: if the data type of the element is a printed tree and is not blank, it is resolved exactly
if the catalog knows the reference that always taking the first alternative leads to. The result is
then what the tree denotes, and its type in the generated code that of the reference, in a vector
for each array around it. -/
theorem resolve_print_iff (r : Resolver) (group : SchemaObject) (element : DataElement) (e : Expr)
    (htext : element.dataType = String.ofList e.print) (hblank : trim element.dataType ≠ "") :
    ((∃ d, r.resolve group element = .ok d) ↔ e.reference.Known r.catalog) ∧
      ∀ d, r.resolve group element = .ok d →
        e.Denotes r.catalog (trim element.dataType) d ∧
        ∃ raw leaf, e.reference.Denotes r.catalog raw leaf ∧
          d.cppType = e.typeText leaf.name ∧ d.innerType = e.innerText leaf.name := by
  simp only [resolve_eq_ok_iff htext hblank]
  exact ⟨e.exists_denotes_iff r.catalog _, fun d h => ⟨h, e.exists_typeText h⟩⟩

/-- The tree of ` [\t<Kind( k=v )>/ (a/b)] /Null`. -/
def kindExpr : Expr :=
  .padded ⟨[' '], by simp⟩
    (.alt
      (.padded ⟨[], by simp⟩
        (.array (.padded ⟨['\t'], by simp⟩
          (.alt
            (.leaf (.angles ⟨[], by simp⟩ ⟨[], by simp⟩)
              (.selected
                { name := ⟨['K', 'i', 'n', 'd'], by simp, List.all_eq_true.mp rfl⟩
                  beforeKey := ⟨[' '], by simp⟩
                  key := ⟨['k'], by simp, List.all_eq_true.mp rfl⟩
                  afterKey := ⟨[], by simp⟩
                  beforeValue := ⟨[], by simp⟩
                  value := ⟨['v'], by simp, List.all_eq_true.mp rfl⟩
                  afterValue := ⟨[' '], by simp⟩ }))
            ⟨[' ', '(', 'a', '/', 'b', ')'], by decide⟩)
          ⟨[], by simp⟩))
        ⟨[' '], by simp⟩)
      ⟨['N', 'u', 'l', 'l'], by decide⟩)
    ⟨[], by simp⟩

/-- A catalog that knows one name. -/
def kindCatalog : Catalog where
  origins := [⟨"Common", "", ["Kind"], []⟩]
  index := [("Kind", 0)]

/-- The alternatives inside of the brackets and behind them do not matter. -/
theorem resolve_print_kind :
    ∃ d, Resolver.resolve ⟨kindCatalog, {}⟩ {}
        { name := "x", dataType := " [\t<Kind( k=v )>/ (a/b)] /Null" } = .ok d ∧
      d.cppType = "std::vector<Kind>" := by
  obtain ⟨hknown, hdenotes⟩ := resolve_print_iff ⟨kindCatalog, {}⟩ {}
    { name := "x", dataType := " [\t<Kind( k=v )>/ (a/b)] /Null" } kindExpr (by decide) (by decide)
  obtain ⟨d, hd⟩ := hknown.mpr (by decide)
  obtain ⟨-, raw, leaf, hleaf, htype, -⟩ := hdenotes d hd
  refine ⟨d, hd, htype.trans ?_⟩
  cases hleaf
  rfl

end SchemaGen.TypeExpr
