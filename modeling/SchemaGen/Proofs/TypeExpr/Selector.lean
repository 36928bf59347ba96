import Mathlib.Data.List.Forall2
import SchemaGen.Proofs.Text.Split
import SchemaGen.Proofs.TypeExpr.Reading

/-!
# Selectors

A selector takes its types from one text and their enumerators from another: a list in the data
type, and a list in a constraint, each with blank entries that do not count. The type of the
enumerators comes from a third place, the element that the constraint names. Here all three are said
as texts that have a form (`IsCommaList`, `IsChoice`, `keyElements`), and not as the cuts and
searches that the resolver makes, and `Selects` puts them together.

`resolve_selector_iff` says that the resolver finds a meaning exactly where the parts are there, and
that it is the one that pairs them in order.
-/

set_option autoImplicit false

namespace SchemaGen.TypeExpr

open SchemaGen.Text

/-! ## Lists with commas -/

/-- A text is a list of these entries: they stand between its commas, with white space around them.
Where there is nothing but white space, there is no entry. -/
def IsCommaList (text : String) (entries : List String) : Prop :=
  ∃ pieces : List String, pieces ≠ [] ∧ (∀ piece ∈ pieces, ',' ∉ piece.toList) ∧
    text = ",".intercalate pieces ∧ entries = (pieces.map trim).filter (· ≠ "")

theorem isCommaList_iff {text : String} {entries : List String} :
    IsCommaList text entries ↔ commaList text = entries := by
  have hpieces (pieces : List String) : text = ",".intercalate pieces ↔
      text.toList = [','].intercalate (pieces.map String.toList) := by
    rw [← String.toList_inj, String.toList_intercalate]
    rfl
  constructor
  · rintro ⟨pieces, hne, hfree, htext, rfl⟩
    rw [commaList, splitOnChar_eq_iff.mpr ⟨hne, hfree, (hpieces pieces).mp htext⟩]
  · rintro rfl
    obtain ⟨hne, hfree, htext⟩ := splitOnChar_eq_iff.mp (rfl : splitOnChar ',' text = _)
    exact ⟨_, hne, hfree, (hpieces _).mpr htext, rfl⟩

/-- The entries of a list have no white space around them. -/
theorem trimmed_of_mem_commaList {text entry : String} (h : entry ∈ commaList text) :
    Trimmed entry.toList := by
  obtain ⟨h, -⟩ := List.mem_filter.mp h
  obtain ⟨piece, -, rfl⟩ := List.mem_map.mp h
  rw [trim, String.toList_ofList]
  exact trimmed_trimChars _

/-! ## Constraints that are choices -/

/-- Nothing but blanks. -/
def Blanks (cs : List Char) : Prop :=
  ∀ c ∈ cs, isBlank c = true

/-- A constraint is a choice: a key, which is a word, and behind it a list in parentheses, which is
one line. Blanks may stand around both. -/
structure IsChoice (constraint key list : String) : Prop where
  key_ne_nil : key.toList ≠ []
  key_word : ∀ c ∈ key.toList, isWordChar c = true
  oneLine : '\n' ∉ list.toList
  text : ∃ before between after, Blanks before ∧ Blanks between ∧ Blanks after ∧
    constraint.toList =
      before ++ (key.toList ++ (between ++ '(' :: (list.toList ++ ')' :: after)))

theorem enclosed?_eq_some_iff {opening closing : Char} {cs inner : List Char} :
    enclosed? opening closing cs = some inner ↔ cs = opening :: (inner ++ [closing]) := by
  constructor
  · intro h
    unfold enclosed? at h
    split at h
    · cases h
    next c rest =>
      split at h
      next hboth =>
        obtain ⟨inner', rfl⟩ := List.getLast?_eq_some_iff.mp hboth.2
        rw [List.dropLast_concat, Option.some.injEq] at h
        rw [hboth.1, h]
      next => cases h
  · rintro rfl
    exact enclosed?_enclosed opening closing inner

theorem word?_eq_some {cs w rest : List Char} (h : word? cs = some (w, rest)) :
    w ≠ [] ∧ (∀ c ∈ w, isWordChar c = true) ∧ cs = w ++ rest := by
  unfold word? at h
  split at h
  · cases h
  next c w' htake =>
    obtain ⟨rfl, rfl⟩ := Prod.mk.inj (Option.some.inj h)
    refine ⟨List.cons_ne_nil _ _, fun c' hc' => ?_, ?_⟩
    · rw [← htake] at hc'
      exact List.mem_takeWhile_imp hc'
    · rw [← htake, List.takeWhile_append_dropWhile]

theorem Blanks.head_not_word {between : List Char} (h : Blanks between) {c : Char}
    (hc : isWordChar c = false) (cs : List Char) :
    ∀ c' ∈ (between ++ c :: cs).head?, isWordChar c' = false := by
  cases between with
  | nil => exact forall_head?_cons hc
  | cons b between =>
    refine forall_head?_cons ?_
    by_contra hword
    rw [Bool.not_eq_false] at hword
    -- a word starts with no blank
    have hblank :=
      (Word.mk [b] (List.cons_ne_nil _ _) (by simpa using hword)).head_not_blank [] b rfl
    rw [h b List.mem_cons_self] at hblank
    cases hblank

theorem selectorConstraint?_of_isChoice {constraint key list : String}
    (h : IsChoice constraint key list) : selectorConstraint? constraint = some (key, list) := by
  obtain ⟨before, between, after, hbefore, hbetween, hafter, htext⟩ := h.text
  let w : Word := ⟨key.toList, h.key_ne_nil, h.key_word⟩
  have hstart : constraint.toList.dropWhile isBlank =
      w.chars ++ (between ++ '(' :: (list.toList ++ ')' :: after)) := by
    rw [htext, List.dropWhile_append_of_pos hbefore]
    exact dropWhile_eq_self (w.head_not_blank _)
  have hword := w.word?_append (hbetween.head_not_word (show isWordChar '(' = false from rfl)
    (list.toList ++ ')' :: after))
  have hlist : (between ++ '(' :: (list.toList ++ ')' :: after)).dropWhile isBlank =
      ('(' :: (list.toList ++ [')'])) ++ after := by
    rw [List.dropWhile_append_of_pos hbetween, dropWhile_eq_self (forall_head?_cons rfl)]
    simp
  have hend : dropEndWhile isBlank (('(' :: (list.toList ++ [')'])) ++ after) =
      '(' :: (list.toList ++ [')']) := by
    refine dropEndWhile_append hafter fun c hc => ?_
    rw [← List.cons_append, List.getLast?_concat] at hc
    cases hc
    rfl
  have hone : list.toList.contains '\n' = false := by
    rw [List.contains_eq_mem, decide_eq_false_iff_not]
    exact h.oneLine
  rw [selectorConstraint?, hstart, hword]
  simp only [Option.bind_eq_bind, Option.bind_some, hlist, hend, enclosed?_enclosed, hone,
    Bool.false_eq_true, if_false, String.ofList_toList]
  exact congrArg (fun text => some (text, list)) String.ofList_toList

theorem isChoice_of_selectorConstraint? {constraint key list : String}
    (h : selectorConstraint? constraint = some (key, list)) : IsChoice constraint key list := by
  unfold selectorConstraint? at h
  simp only [Option.bind_eq_bind] at h
  obtain ⟨⟨w, rest⟩, hword, h⟩ := Option.bind_eq_some_iff.mp h
  obtain ⟨inner, hinner, h⟩ := Option.bind_eq_some_iff.mp h
  split at h
  · cases h
  next hone =>
    obtain ⟨rfl, rfl⟩ := Prod.mk.inj (Option.some.inj h)
    obtain ⟨hne, hchars, hstart⟩ := word?_eq_some hword
    obtain ⟨before, hbefore, hconstraint, -⟩ := exists_eq_dropWhile isBlank constraint.toList
    obtain ⟨between, hbetween, hrest, -⟩ := exists_eq_dropWhile isBlank rest
    obtain ⟨after, hafter, hlist, -⟩ := exists_eq_dropEndWhile isBlank (rest.dropWhile isBlank)
    rw [enclosed?_eq_some_iff.mp hinner] at hlist
    rw [hlist] at hrest
    rw [hstart, hrest] at hconstraint
    refine ⟨?_, ?_, ?_, before, between, after, hbefore, hbetween, hafter, ?_⟩
    · rwa [String.toList_ofList]
    · rwa [String.toList_ofList]
    · rw [String.toList_ofList]
      simpa using hone
    · rw [hconstraint, String.toList_ofList, String.toList_ofList]
      simp

theorem selectorConstraint?_eq_some_iff {constraint key list : String} :
    selectorConstraint? constraint = some (key, list) ↔ IsChoice constraint key list :=
  ⟨isChoice_of_selectorConstraint?, selectorConstraint?_of_isChoice⟩

/-- The first of several constraints that is a choice is one with this key and this list. -/
def IsFirstChoice (constraints : List String) (key list : String) : Prop :=
  ∃ before constraint after, constraints = before ++ constraint :: after ∧
    IsChoice constraint key list ∧ ∀ other ∈ before, ∀ key' list', ¬ IsChoice other key' list'

theorem findSome?_selectorConstraint?_iff {constraints : List String} {key list : String} :
    constraints.findSome? selectorConstraint? = some (key, list) ↔
      IsFirstChoice constraints key list := by
  have hnone (other : String) : selectorConstraint? other = none ↔
      ∀ key' list', ¬ IsChoice other key' list' := by
    rw [Option.eq_none_iff_forall_ne_some, Prod.forall]
    simp only [Ne, selectorConstraint?_eq_some_iff]
  rw [List.findSome?_eq_some_iff]
  simp only [selectorConstraint?_eq_some_iff, hnone, IsFirstChoice]

/-! ## Keys -/

/-- The elements that a key is looked for among, in order: those of the same group, of the schema,
and of the origins of the catalog. -/
def keyElements (r : Resolver) (group : SchemaObject) : List DataElement :=
  group.elements ++ r.schema.objects.flatMap (·.elements)
    ++ r.catalog.origins.flatMap fun origin => origin.objects.flatMap (·.elements)

/-- The element that a key names: the first of its name that has a data type. -/
def keyElement? (r : Resolver) (group : SchemaObject) (key : String) : Option DataElement :=
  (keyElements r group).find? fun e => e.name = key ∧ e.dataType ≠ ""

theorem typeOfElement?_eq (key : String) (objects : List SchemaObject) :
    typeOfElement? key objects =
      ((objects.flatMap (·.elements)).find? fun e => e.name = key ∧ e.dataType ≠ "").map
        (·.dataType) := by
  rw [typeOfElement?, List.find?_flatMap, List.map_findSome?]
  rfl

/-- Searching one list of objects after another is searching all their elements. -/
theorem discriminantType?_eq (r : Resolver) (group : SchemaObject) (key : String) :
    discriminantType? r.catalog r.schema group key =
      (keyElement? r group key).map fun e => bareType e.dataType := by
  have horigins : (r.catalog.origins.map (·.objects)).findSome? (typeOfElement? key) =
      ((r.catalog.origins.flatMap fun origin => origin.objects.flatMap (·.elements)).find?
        fun e => e.name = key ∧ e.dataType ≠ "").map (·.dataType) := by
    rw [List.findSome?_map, List.find?_flatMap, List.map_findSome?]
    congr 1
    funext origin
    exact typeOfElement?_eq key origin.objects
  have hgroup : [group].flatMap (·.elements) = group.elements := List.flatMap_singleton _ _
  rw [discriminantType?, List.findSome?_cons, List.findSome?_cons, horigins, typeOfElement?_eq,
    typeOfElement?_eq, hgroup, keyElement?, keyElements, List.find?_append, List.find?_append]
  cases group.elements.find? (fun e => e.name = key ∧ e.dataType ≠ "") with
  | some e => rfl
  | none =>
    cases (r.schema.objects.flatMap (·.elements)).find?
        (fun e => e.name = key ∧ e.dataType ≠ "") with
    | some e => rfl
    | none => exact Option.map_map _ _ _

/-! ## Expressions that are no arrays -/

/-- A text means this as an expression, and it is no array. -/
def ResolvesPlainly (c : Catalog) (text : String) (d : TypeDescriptor) : Prop :=
  resolveExpression c text.toList = some d ∧ d.kind ≠ .array

/-- There is no slash to be cut at before the first one. -/
theorem beforeSlash?_of_beforeSlash? {first : List Char} :
    ∀ {cs : List Char} {depth : Int}, beforeSlash? depth cs = some first →
      beforeSlash? depth first = none
  | [], _, h => by cases h
  | c :: cs, depth, h => by
    unfold beforeSlash? at h
    split at h
    next hopen =>
      obtain ⟨rest, hrest, rfl⟩ := Option.map_eq_some_iff.1 h
      rw [beforeSlash?, if_pos hopen, beforeSlash?_of_beforeSlash? hrest]
      rfl
    next hopen =>
      split at h
      next hclose =>
        obtain ⟨rest, hrest, rfl⟩ := Option.map_eq_some_iff.1 h
        rw [beforeSlash?, if_neg hopen, if_pos hclose, beforeSlash?_of_beforeSlash? hrest]
        rfl
      next hclose =>
        split at h
        · cases h
          rfl
        next hslash =>
          obtain ⟨rest, hrest, rfl⟩ := Option.map_eq_some_iff.1 h
          rw [beforeSlash?, if_neg hopen, if_neg hclose, if_neg hslash,
            beforeSlash?_of_beforeSlash? hrest]
          rfl

/-- The first alternative has no alternatives. -/
theorem firstAlternative_firstAlternative (cs : List Char) :
    firstAlternative (firstAlternative cs) = firstAlternative cs := by
  cases hcut : beforeSlash? 0 cs with
  | none =>
    have hself : firstAlternative cs = cs := by rw [firstAlternative, hcut]
    rw [hself, hself]
  | some first =>
    have hfirst : firstAlternative cs = trimChars first := by rw [firstAlternative, hcut]
    rw [hfirst, firstAlternative_trimChars, beforeSlash?_of_beforeSlash? hcut]
    rfl

theorem resolveSimple_firstAlternative (c : Catalog) (raw : String) (cs : List Char) :
    resolveSimple c raw (firstAlternative cs) = resolveSimple c raw cs := by
  rw [resolveSimple, firstAlternative_firstAlternative, resolveSimple]

/-- What stands in brackets is no name. -/
theorem resolveSimple_of_bracketed {c : Catalog} {raw : String} {cs inner : List Char}
    (h : enclosed? '[' ']' (firstAlternative cs) = some inner) :
    resolveSimple c raw cs = none := by
  have htext := enclosed?_eq_some_iff.mp h
  have hhead : ∀ c' ∈ (firstAlternative cs).head?, c' = '[' := by
    rw [htext]
    exact forall_head?_cons rfl
  have hbraces : enclosed? '\x7b' '\x7d' (firstAlternative cs) = none :=
    enclosed?_eq_none fun c' hc' => by rw [hhead c' hc']; decide
  have hangles : enclosed? '<' '>' (firstAlternative cs) = none :=
    enclosed?_eq_none fun c' hc' => by rw [hhead c' hc']; decide
  have hname : referenceName (firstAlternative cs) = '[' :: (inner ++ [']']) := by
    simp only [referenceName, hbraces, hangles, Option.filter_none]
    exact htext
  have hreserved : ('[' :: (inner ++ [']'])).any isReserved = true := by
    rw [List.any_cons, show isReserved '[' = true from rfl, Bool.true_or]
  rw [resolveSimple, hname, if_pos hreserved]
  rfl

theorem kind_of_resolveSimple {c : Catalog} {raw : String} {cs : List Char} {d : TypeDescriptor}
    (h : resolveSimple c raw cs = some d) : d.kind = .simple ∨ d.kind = .nested := by
  unfold resolveSimple at h
  dsimp only at h
  split at h
  · obtain ⟨sub, -, h⟩ := Option.bind_eq_some_iff.mp h
    obtain ⟨origin, -, h⟩ := Option.bind_eq_some_iff.mp h
    cases h
    exact Or.inr rfl
  · unfold resolveName at h
    split at h
    · cases h
      exact Or.inl rfl
    · obtain ⟨primitive, -, rfl⟩ := Option.map_eq_some_iff.mp h
      exact Or.inl rfl

/-- **Names are the expressions that are no arrays.** -/
theorem resolveSimple_eq_some_iff_plainly {c : Catalog} {text : String} {d : TypeDescriptor}
    (h : Trimmed text.toList) :
    resolveSimple c text text.toList = some d ↔ ResolvesPlainly c text d := by
  have hraw : String.ofList (trimChars text.toList) = text := by
    rw [h.trimChars_eq, String.ofList_toList]
  cases hinner : enclosed? '[' ']' (firstAlternative text.toList) with
  | some inner =>
    rw [resolveSimple_of_bracketed hinner]
    refine iff_of_false (by simp) ?_
    rintro ⟨hexpression, hkind⟩
    rw [resolveExpression_of_some (by rw [h.trimChars_eq]; exact hinner)] at hexpression
    obtain ⟨elem, -, rfl⟩ := Option.map_eq_some_iff.mp hexpression
    exact hkind rfl
  | none =>
    rw [ResolvesPlainly, resolveExpression_of_none (by rw [h.trimChars_eq]; exact hinner), hraw,
      h.trimChars_eq, resolveSimple_firstAlternative]
    refine ⟨fun hsimple => ⟨hsimple, ?_⟩, And.left⟩
    rcases kind_of_resolveSimple hsimple with hkind | hkind <;>
      (rw [hkind]; exact TypeKind.noConfusion)

/-- The numbers of the characters that are white space. -/
def spaceCodes : List Nat :=
  [0x20, 0x85, 0xa0, 0x1680, 0x2028, 0x2029, 0x202f, 0x205f, 0x3000] ++ List.range' 0x09 5
    ++ List.range' 0x2000 11

theorem mem_spaceCodes_of_isSpace {c : Char} (h : isSpace c = true) : c.toNat ∈ spaceCodes := by
  simp only [isSpace, Bool.or_eq_true, Bool.and_eq_true, beq_iff_eq, decide_eq_true_eq] at h
  simp only [spaceCodes, List.mem_append, List.mem_cons, List.mem_range'_1, List.not_mem_nil]
  omega

theorem inRuns_eq_any (runs : Array CodeRun) (n : Nat) :
    inRuns runs n = runs.toList.any (·.contains n) := by
  rw [inRuns, Array.any_toList]

theorem not_isSpace_of_isLetter_or_isDigit {c : Char} (h : (isLetter c || isDigit c) = true) :
    isSpace c = false := by
  -- the tables are lists here, which are gone through faster
  have hnone : ∀ n ∈ spaceCodes,
      (if n < 0x80 then (Char.ofNat n).isAlpha else letterRuns.toList.any (·.contains n)) = false ∧
      (if n < 0x80 then (Char.ofNat n).isDigit else digitRuns.toList.any (·.contains n)) =
        false := by
    decide +kernel
  by_contra hspace
  obtain ⟨hletter, hdigit⟩ := hnone _ (mem_spaceCodes_of_isSpace (Bool.not_eq_false _ ▸ hspace))
  rw [Char.ofNat_toNat] at hletter hdigit
  rw [isLetter, isDigit, inRuns_eq_any, inRuns_eq_any, hletter, hdigit] at h
  cases h

/-- A bare type has no white space in it. -/
theorem trimmed_bareType (s : String) : Trimmed (bareType s).toList := by
  have hfree : ∀ c ∈ (bareType s).toList, isSpace c = false := by
    intro c hc
    rw [bareType, String.toList_ofList] at hc
    exact not_isSpace_of_isLetter_or_isDigit (List.mem_filter.mp hc).2
  exact ⟨fun c hc => hfree c (List.mem_of_mem_head? hc),
    fun c hc => hfree c (List.mem_of_getLast? hc)⟩

/-! ## The parts of a selector -/

theorem forall₂_iff_of_mem {α β : Type} {R S : α → β → Prop} : ∀ {as : List α} {bs : List β},
    (∀ a ∈ as, ∀ b, R a b ↔ S a b) → (List.Forall₂ R as bs ↔ List.Forall₂ S as bs)
  | [], bs, _ => by rw [List.forall₂_nil_left_iff, List.forall₂_nil_left_iff]
  | a :: as, bs, h => by
    have hrest (bs : List β) : List.Forall₂ R as bs ↔ List.Forall₂ S as bs :=
      forall₂_iff_of_mem fun a ha => h a (List.mem_cons_of_mem _ ha)
    simp only [List.forall₂_cons_left_iff, h a List.mem_cons_self, hrest]

/-- The parts of a selector whose data type has `text` between its parentheses: the first constraint
that is a choice gives the key and the enumerators, the text gives as many choices, the key names an
element whose type, stripped of decoration, has a meaning, and so has each choice. -/
structure Selects (r : Resolver) (group : SchemaObject) (element : DataElement) (text key : String)
    (enumerators choices : List String) (keyType : TypeDescriptor) (types : List TypeDescriptor) :
    Prop where
  constrained : ∃ list, IsFirstChoice element.constraints key list ∧ IsCommaList list enumerators
  listed : IsCommaList text choices
  count : 1 ≤ enumerators.length ∧ choices.length = enumerators.length
  keyed : ∃ e, keyElement? r group key = some e ∧
    ResolvesPlainly r.catalog (bareType e.dataType) keyType
  resolved : List.Forall₂ (ResolvesPlainly r.catalog) choices types

/-- The cases of a selector: enumerators of the type of the key, and types, in order. -/
def selectorCases (keyType : TypeDescriptor) (enumerators : List String)
    (types : List TypeDescriptor) : List SelectorCase :=
  List.zipWith (fun enumerator type => ⟨keyType.cppType ++ "::" ++ enumerator, type.cppType⟩)
    enumerators types

theorem Selects.length_selectorCases {r : Resolver} {group : SchemaObject} {element : DataElement}
    {text key : String} {enumerators choices : List String} {keyType : TypeDescriptor}
    {types : List TypeDescriptor}
    (h : Selects r group element text key enumerators choices keyType types) :
    (selectorCases keyType enumerators types).length = enumerators.length := by
  rw [selectorCases, List.length_zipWith, ← h.resolved.length_eq, h.count.2, Nat.min_self]

/-- The cases are resolved in order, each from its choice. -/
theorem resolveCases_zip {r : Resolver} {group : SchemaObject} {element : DataElement}
    {keyType : TypeDescriptor} : ∀ {enumerators choices : List String} {cases : List SelectorCase},
      choices.length = enumerators.length →
        (r.resolveCases group element keyType.cppType (enumerators.zip choices) = .ok cases ↔
          ∃ types, List.Forall₂ (fun choice type =>
              resolveSimple r.catalog choice choice.toList = some type) choices types ∧
            cases = selectorCases keyType enumerators types)
  | [], [], cases, _ => by
    constructor
    · intro hcases
      cases hcases
      exact ⟨[], .nil, rfl⟩
    · rintro ⟨types, -, rfl⟩
      rfl
  | [], _ :: _, _, h => by cases h
  | _ :: _, [], _, h => by cases h
  | enumerator :: enumerators, choice :: choices, cases, h => by
    have hrest {more : List SelectorCase} := @resolveCases_zip r group element keyType enumerators
      choices more (Nat.succ.inj h)
    rw [List.zip_cons_cons, Resolver.resolveCases]
    constructor
    · intro hcases
      cases htype : resolveSimple r.catalog choice choice.toList with
      | none => simp [htype] at hcases
      | some type =>
        cases hmore : r.resolveCases group element keyType.cppType (enumerators.zip choices) with
        | error fault => simp [htype, hmore] at hcases
        | ok more =>
          simp only [htype, hmore, Except.ok.injEq] at hcases
          obtain ⟨types, htypes, rfl⟩ := hrest.mp hmore
          exact ⟨type :: types, .cons htype htypes, hcases.symm⟩
    · rintro ⟨types, htypes, rfl⟩
      cases htypes with
      | @cons _ type _ types htype htypes =>
        simp only [htype, hrest.mpr ⟨types, htypes, rfl⟩]
        rfl

/-- What the resolver makes of the lists and the key that it finds. -/
theorem resolveSelector_eq_ok_iff {r : Resolver} {group : SchemaObject} {element : DataElement}
    {raw text : String} {d : TypeDescriptor} :
    r.resolveSelector group element raw text = .ok d ↔ ∃ key list keyText keyType types,
      element.constraints.findSome? selectorConstraint? = some (key, list) ∧
      1 ≤ (commaList list).length ∧ (commaList text).length = (commaList list).length ∧
      discriminantType? r.catalog r.schema group key = some keyText ∧
      resolveSimple r.catalog keyText keyText.toList = some keyType ∧
      List.Forall₂ (fun choice type =>
        resolveSimple r.catalog choice choice.toList = some type) (commaList text) types ∧
      d = { kind := .selector, raw, key, cases := selectorCases keyType (commaList list) types
            name := "std::unique_ptr<" ++ selectorBase element.name ++ ">" } := by
  constructor
  · intro h
    unfold Resolver.resolveSelector at h
    dsimp only at h
    -- each test that fails is a fault of its own
    split at h
    · cases h
    rename_i key list hconstraint
    split at h
    · cases h
    rename_i hempty
    split at h
    · cases h
    rename_i hcount
    split at h
    · cases h
    rename_i keyText hkeyText
    split at h
    · cases h
    rename_i keyType hkeyType
    split at h
    · cases h
    rename_i cases hcases
    have hcount' : (commaList text).length = (commaList list).length := (not_not.mp hcount).symm
    obtain ⟨types, htypes, rfl⟩ := (resolveCases_zip hcount').mp hcases
    have hpos : 1 ≤ (commaList list).length := by
      rw [Nat.one_le_iff_ne_zero, Ne, List.length_eq_zero_iff]
      intro hnil
      exact hempty (by simp [hnil])
    exact ⟨key, list, keyText, keyType, types, hconstraint, hpos, hcount', hkeyText, hkeyType,
      htypes, (Except.ok.inj h).symm⟩
  · rintro ⟨key, list, keyText, keyType, types, hconstraint, hpos, hcount, hkeyText, hkeyType,
      htypes, rfl⟩
    have hlist : (commaList list).isEmpty = false := by
      rw [List.isEmpty_eq_false_iff, ← List.length_pos_iff]
      exact hpos
    have hchoices : (commaList text).isEmpty = false := by
      rw [List.isEmpty_eq_false_iff, ← List.length_pos_iff, hcount]
      exact hpos
    have hcases : r.resolveCases group element keyType.cppType
        ((commaList list).zip (commaList text)) =
          .ok (selectorCases keyType (commaList list) types) :=
      (resolveCases_zip hcount).mpr ⟨types, htypes, rfl⟩
    rw [Resolver.resolveSelector, hconstraint]
    simp [hlist, hchoices, hcount, hkeyText, hkeyType, hcases]

section Resolving

variable {r : Resolver} {group : SchemaObject} {element : DataElement}

theorem resolve_of_parentheses {text : String} (h : trim element.dataType = "(" ++ text ++ ")") :
    r.resolve group element = r.resolveSelector group element (trim element.dataType) text := by
  have hchars : ("(" ++ text ++ ")").toList = '(' :: (text.toList ++ [')']) := by
    simp
  have hchoices : selectorChoices? (trim element.dataType) = some text := by
    rw [selectorChoices?, h, hchars, enclosed?_enclosed, Option.map_some, String.ofList_toList]
  have hne : trim element.dataType ≠ "" := by
    intro hempty
    have hnil := congrArg String.toList (h.symm.trans hempty)
    rw [hchars] at hnil
    cases hnil
  rw [Resolver.resolve]
  simp only [hne, hchoices, if_false]

/-- **What a selector means.** -/
theorem resolve_selector_iff {text : String} (h : trim element.dataType = "(" ++ text ++ ")")
    {d : TypeDescriptor} :
    r.resolve group element = .ok d ↔ ∃ key enumerators choices keyType types,
      Selects r group element text key enumerators choices keyType types ∧
      d = { kind := .selector, raw := trim element.dataType, key
            cases := selectorCases keyType enumerators types
            name := "std::unique_ptr<" ++ selectorBase element.name ++ ">" } := by
  have hplainly {types : List TypeDescriptor} :
      List.Forall₂ (fun choice type =>
        resolveSimple r.catalog choice choice.toList = some type) (commaList text) types ↔
      List.Forall₂ (ResolvesPlainly r.catalog) (commaList text) types :=
    forall₂_iff_of_mem fun choice hchoice _ =>
      resolveSimple_eq_some_iff_plainly (trimmed_of_mem_commaList hchoice)
  rw [resolve_of_parentheses h, resolveSelector_eq_ok_iff]
  constructor
  · rintro ⟨key, list, keyText, keyType, types, hconstraint, hpos, hcount, hkeyText, hkeyType,
      htypes, rfl⟩
    rw [discriminantType?_eq] at hkeyText
    obtain ⟨e, he, rfl⟩ := Option.map_eq_some_iff.mp hkeyText
    refine ⟨key, commaList list, commaList text, keyType, types, ⟨?_, ?_, ⟨hpos, hcount⟩, ?_, ?_⟩,
      rfl⟩
    · exact ⟨list, findSome?_selectorConstraint?_iff.mp hconstraint, isCommaList_iff.mpr rfl⟩
    · exact isCommaList_iff.mpr rfl
    · exact ⟨e, he, (resolveSimple_eq_some_iff_plainly (trimmed_bareType _)).mp hkeyType⟩
    · exact hplainly.mp htypes
  · rintro ⟨key, enumerators, choices, keyType, types, hselects, rfl⟩
    obtain ⟨⟨list, hchoice, hlist⟩, hchoices, ⟨hpos, hcount⟩, ⟨e, he, hkeyType⟩, htypes⟩ := hselects
    cases isCommaList_iff.mp hlist
    cases isCommaList_iff.mp hchoices
    refine ⟨key, list, bareType e.dataType, keyType, types,
      findSome?_selectorConstraint?_iff.mpr hchoice, hpos, hcount, ?_,
      (resolveSimple_eq_some_iff_plainly (trimmed_bareType _)).mpr hkeyType,
      hplainly.mpr htypes, rfl⟩
    rw [discriminantType?_eq, he]
    rfl

theorem code_of_resolveCases {keyType : String} {fault : Fault} :
    ∀ {pairs : List (String × String)},
      r.resolveCases group element keyType pairs = .error fault →
        fault.code = some .invalidArgument
  | [], h => by cases h
  | (enumerator, choice) :: rest, h => by
    rw [Resolver.resolveCases] at h
    split at h
    · cases h
      rfl
    split at h
    next hrest =>
      cases h
      exact code_of_resolveCases hrest
    next => cases h

theorem code_of_resolveSelector {raw text : String} {fault : Fault}
    (h : r.resolveSelector group element raw text = .error fault) :
    fault.code = some .invalidArgument := by
  unfold Resolver.resolveSelector at h
  dsimp only at h
  split at h
  · cases h; rfl
  split at h
  · cases h; rfl
  split at h
  · cases h; rfl
  split at h
  · cases h; rfl
  split at h
  · cases h; rfl
  split at h
  next hcases =>
    cases h
    exact code_of_resolveCases hcases
  next => cases h

/-- **A data type that means nothing is an invalid argument.** -/
theorem code_of_resolve {fault : Fault} (h : r.resolve group element = .error fault) :
    fault.code = some .invalidArgument := by
  unfold Resolver.resolve at h
  dsimp only at h
  split at h
  · cases h
    rfl
  split at h
  · exact code_of_resolveSelector h
  · split at h
    · cases h
    · cases h
      rfl

end Resolving

end SchemaGen.TypeExpr
