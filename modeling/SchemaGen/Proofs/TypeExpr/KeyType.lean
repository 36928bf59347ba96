import SchemaGen.Proofs.Catalog.FirstSeen
import SchemaGen.Proofs.TypeExpr.Selector

/-!
# The type that a selector tests its key at

The enumerators of a selector are qualified by the type of the member that its key names. The type
of that member itself is read off its data type by cuts at slashes and brackets, which find a name
(`readName`); the selector takes all letters and digits of the same text for the name. The two are
one name if the text has no letters and digits but those of the name, and the name has nothing else
(`OnlyName`), and since no two names of a catalog have one type (`name_eq_of_cppType`), that is the
only case in which the two routes lead to the same type.
-/

set_option autoImplicit false

namespace SchemaGen.TypeExpr

open SchemaGen.Text

/-! ## Names in data types -/

/-- A character that stripping a type of decoration keeps. -/
def isBare (c : Char) : Bool := isLetter c || isDigit c

theorem toList_bareType (text : String) : (bareType text).toList = text.toList.filter isBare :=
  String.toList_ofList

/-- The name that a data type is read as: that of its first alternative, without decoration. -/
def readName (text : String) : String :=
  String.ofList (referenceName (firstAlternative (trimChars text.toList)))

theorem infix_trimChars (cs : List Char) : trimChars cs <:+: cs := by
  obtain ⟨before, after, -, -, -, hcs⟩ := exists_eq_trimChars cs
  exact ⟨before, after, hcs.symm⟩

theorem prefix_of_beforeSlash? {first : List Char} :
    ∀ {cs : List Char} {depth : Int}, beforeSlash? depth cs = some first → first <+: cs
  | [], _, h => by cases h
  | c :: cs, depth, h => by
    have hcons {depth : Int} (h : (beforeSlash? depth cs).map (c :: ·) = some first) :
        first <+: c :: cs := by
      obtain ⟨rest, hrest, rfl⟩ := Option.map_eq_some_iff.mp h
      exact List.cons_prefix_cons.mpr ⟨rfl, prefix_of_beforeSlash? hrest⟩
    unfold beforeSlash? at h
    split at h
    · exact hcons h
    · split at h
      · exact hcons h
      · split at h
        · cases h
          exact List.nil_prefix
        · exact hcons h

theorem infix_firstAlternative (cs : List Char) : firstAlternative cs <:+: cs := by
  unfold firstAlternative
  split
  next first hfirst => exact (infix_trimChars first).trans (prefix_of_beforeSlash? hfirst).isInfix
  next => exact List.infix_rfl

theorem infix_of_enclosed? {opening closing : Char} {cs inner : List Char}
    (h : enclosed? opening closing cs = some inner) : inner <:+: cs :=
  ⟨[opening], [closing], (enclosed?_eq_some_iff.mp h).symm⟩

theorem infix_referenceName (cs : List Char) : referenceName cs <:+: cs := by
  unfold referenceName
  dsimp only
  split
  next inner hinner =>
    exact (infix_trimChars inner).trans (infix_of_enclosed? (Option.filter_eq_some_iff.mp hinner).1)
  next =>
    split
    next inner hinner =>
      exact (infix_trimChars inner).trans
        (infix_of_enclosed? (Option.filter_eq_some_iff.mp hinner).1)
    next => exact List.infix_rfl

/-- The name is a piece of the text. -/
theorem infix_readName (text : String) : (readName text).toList <:+: text.toList := by
  rw [readName, String.toList_ofList]
  exact ((infix_referenceName _).trans (infix_firstAlternative _)).trans (infix_trimChars _)

/-- A data type has no letters and digits but those of its name, and the name has nothing else. -/
structure OnlyName (text : String) : Prop where
  plain : ∀ c ∈ (readName text).toList, isBare c = true
  alone : ∃ before after, text.toList = before ++ (readName text).toList ++ after ∧
    ∀ c ∈ before ++ after, isBare c = false

/-- **When stripping a data type gives its name.** -/
theorem bareType_eq_readName_iff {text : String} : bareType text = readName text ↔ OnlyName text := by
  rw [← String.toList_inj, toList_bareType]
  constructor
  · intro h
    obtain ⟨before, after, htext⟩ := infix_readName text
    have hplain : ∀ c ∈ (readName text).toList, isBare c = true := by
      rw [← h]
      exact fun c hc => (List.mem_filter.mp hc).2
    refine ⟨hplain, before, after, htext.symm, ?_⟩
    rw [← htext, List.filter_append, List.filter_append, List.filter_eq_self.mpr hplain] at h
    have hlength := congrArg List.length h
    rw [List.length_append, List.length_append] at hlength
    have hbefore : before.filter isBare = [] := List.length_eq_zero_iff.mp (by omega)
    have hafter : after.filter isBare = [] := List.length_eq_zero_iff.mp (by omega)
    intro c hc
    rw [← Bool.not_eq_true]
    rcases List.mem_append.mp hc with hc | hc
    · exact List.filter_eq_nil_iff.mp hbefore c hc
    · exact List.filter_eq_nil_iff.mp hafter c hc
  · rintro ⟨hplain, before, after, htext, hnone⟩
    have hnil {cs : List Char} (h : ∀ c ∈ cs, isBare c = false) : cs.filter isBare = [] :=
      List.filter_eq_nil_iff.mpr fun c hc => by simp [h c hc]
    rw [htext, List.filter_append, List.filter_append, List.filter_eq_self.mpr hplain,
      hnil fun c hc => hnone c (List.mem_append_left _ hc),
      hnil fun c hc => hnone c (List.mem_append_right _ hc), List.nil_append, List.append_nil]

instance (text : String) : Decidable (OnlyName text) :=
  decidable_of_iff _ bareType_eq_readName_iff

/-! ## Two routes to a type -/

variable {c : Catalog}

theorem isReserved_of_isBare {ch : Char} (h : isBare ch = true) : isReserved ch = false :=
  isReserved_eq_false_of (by decide) h

theorem beforeSlash?_eq_none {cs : List Char} (h : ∀ ch ∈ cs, isReserved ch = false) :
    ∀ depth, beforeSlash? depth cs = none := by
  induction cs with
  | nil => exact fun _ => rfl
  | cons ch cs ih =>
    intro depth
    obtain ⟨hopen, hclose, hslash⟩ := isOpening_of_isReserved (h ch List.mem_cons_self)
    rw [beforeSlash?_plain hopen hclose (.inl hslash),
      ih fun ch' hch' => h ch' (List.mem_cons_of_mem _ hch')]
    rfl

/-- A plain name is looked up as it is. -/
theorem resolveSimple_of_plain {raw name : String}
    (h : ∀ ch ∈ name.toList, isReserved ch = false) :
    resolveSimple c raw name.toList = resolveName c raw name := by
  have hself : firstAlternative name.toList = name.toList := by
    rw [firstAlternative, beforeSlash?_eq_none h]
  have hhead {opening closing : Char} (hopening : isReserved opening = true) :
      enclosed? opening closing name.toList = none := by
    refine enclosed?_eq_none fun ch hch heq => ?_
    rw [heq] at hch
    rw [h opening (List.mem_of_mem_head? hch)] at hopening
    cases hopening
  have hname : referenceName name.toList = name.toList := by
    simp only [referenceName, hhead (show isReserved '\x7b' = true from rfl),
      hhead (show isReserved '<' = true from rfl), Option.filter_none]
  have hreserved : ¬ name.toList.any isReserved = true := by
    rw [List.any_eq_true]
    rintro ⟨ch, hch, hch'⟩
    rw [h ch hch] at hch'
    cases hch'
  rw [resolveSimple, hself, hname, if_neg hreserved, String.ofList_toList]

theorem kind_of_resolveSubSelection {raw : String} {cs : List Char} {d : TypeDescriptor}
    (h : resolveSubSelection c raw cs = some d) : d.kind = .nested := by
  obtain ⟨sub, -, h⟩ := Option.bind_eq_some_iff.mp h
  obtain ⟨origin, -, h⟩ := Option.bind_eq_some_iff.mp h
  cases h
  rfl

theorem resolveName_of_resolveExpression {text : String} {d : TypeDescriptor}
    (h : resolveExpression c (trim text).toList = some d) (hkind : d.kind = .simple) :
    resolveName c (trim text) (readName text) = some d := by
  have htrim : trimChars (trim text).toList = (trim text).toList := by
    rw [trim, String.toList_ofList, (trimmed_trimChars _).trimChars_eq]
  cases hinner : enclosed? '[' ']' (firstAlternative (trimChars (trim text).toList)) with
  | some inner =>
    rw [resolveExpression_of_some hinner] at h
    obtain ⟨elem, -, rfl⟩ := Option.map_eq_some_iff.mp h
    cases hkind
  | none =>
    rw [resolveExpression_of_none hinner, resolveSimple_firstAlternative, htrim,
      String.ofList_toList, resolveSimple] at h
    split at h
    · rw [kind_of_resolveSubSelection h] at hkind
      cases hkind
    · rwa [trim, String.toList_ofList] at h

/-- An element with a simple type has the type of the name that its data type is read as. -/
theorem resolveName_of_resolve {r : Resolver} {group : SchemaObject} {e : DataElement}
    {d : TypeDescriptor} (h : r.resolve group e = .ok d) (hkind : d.kind = .simple) :
    resolveName r.catalog (trim e.dataType) (readName e.dataType) = some d := by
  unfold Resolver.resolve at h
  dsimp only at h
  split at h
  · cases h
  split at h
  next =>
    obtain ⟨key, list, keyText, keyType, types, -, -, -, -, -, -, rfl⟩ :=
      resolveSelector_eq_ok_iff.mp h
    cases hkind
  next =>
    split at h
    next hexpression =>
      cases h
      exact resolveName_of_resolveExpression hexpression hkind
    next => cases h

/-! ## Types tell names apart -/

/-- The C++ type of a name. -/
def nameType? (c : Catalog) (name : String) : Option String :=
  match c.originOf? name with
  | some origin => some (namespaceName origin ++ "::" ++ name)
  | none => c.primitive? name

theorem map_cppType_resolveName (raw name : String) :
    (resolveName c raw name).map (·.cppType) = nameType? c name := by
  unfold resolveName nameType?
  cases c.originOf? name with
  | some origin => rfl
  | none => cases c.primitive? name <;> rfl

/-- The end of a qualification, before the name that it qualifies. -/
def qualifierEnd : List Char := ['_', 'n', 's', ':', ':']

/-- If one qualification continues another, there are letters in what is added, or nothing is. -/
theorem eq_nil_of_qualifier {outer outer' added : List Char}
    (h : outer' ++ qualifierEnd = outer ++ qualifierEnd ++ added)
    (hnone : added.filter isBare = []) : added = [] := by
  have hs : isBare 's' = true := by decide
  have hrev := congrArg List.reverse h
  simp only [qualifierEnd, List.reverse_append, List.reverse_cons, List.reverse_nil,
    List.nil_append, List.cons_append] at hrev
  rw [← List.reverse_eq_nil_iff]
  -- the last three characters of a qualification are an `s` and two colons
  match hadded : added.reverse with
  | [] => rfl
  | [x] =>
    rw [hadded] at hrev
    simp at hrev
  | [x, y] =>
    rw [hadded] at hrev
    simp at hrev
  | x :: y :: z :: more =>
    rw [hadded] at hrev
    simp only [List.cons_append, List.cons.injEq] at hrev
    have hz : z ∈ added := List.mem_reverse.mp (by rw [hadded]; simp)
    have hbare : z ∈ added.filter isBare := List.mem_filter.mpr ⟨hz, hrev.2.2.1 ▸ hs⟩
    rw [hnone] at hbare
    cases hbare

/-- **A qualified name gives the name away**, if it is plain and no longer than the plain part of
what it is compared with. -/
theorem eq_of_qualified {outer outer' name bare : List Char}
    (h : outer ++ qualifierEnd ++ name = outer' ++ qualifierEnd ++ bare)
    (hbare : ∀ ch ∈ bare, isBare ch = true) (hname : (name.filter isBare).length ≤ bare.length) :
    name = bare := by
  rcases List.append_eq_append_iff.mp h with ⟨added, hadded, hsplit⟩ | ⟨added, hadded, hsplit⟩
  · rw [hsplit, List.filter_append, List.length_append, List.filter_eq_self.mpr hbare] at hname
    have hnone : added.filter isBare = [] := List.length_eq_zero_iff.mp (by omega)
    rw [hsplit, eq_nil_of_qualifier hadded hnone, List.nil_append]
  · cases hlast : added.getLast? with
    | none => rw [hsplit, List.getLast?_eq_none_iff.mp hlast, List.nil_append]
    | some ch =>
      -- a qualification ends with a colon
      have hcolon := congrArg List.getLast? hadded
      rw [List.getLast?_append, List.getLast?_append, hlast] at hcolon
      have hch := hbare ch (hsplit ▸ List.mem_append_left _ (List.mem_of_getLast? hlast))
      rw [← Option.some.inj hcolon] at hch
      exact absurd hch (by decide)

theorem toList_qualified (origin name : String) :
    (namespaceName origin ++ "::" ++ name).toList =
      (snake origin).toList ++ qualifierEnd ++ name.toList := by
  simp [namespaceName, qualifierEnd]

/-- No fundamental type is qualified by a schema. -/
theorem qualified_ne_fundamental {origin name fundamental primitive : String}
    (h : (fundamental, primitive) ∈ fundamentalTypes) :
    namespaceName origin ++ "::" ++ name ≠ primitive := by
  intro heq
  have hmem : '_' ∈ primitive.toList := by
    rw [← heq, toList_qualified]
    simp [qualifierEnd]
  have hnone : ∀ p ∈ fundamentalTypes, '_' ∉ p.2.toList := by decide
  exact hnone _ h hmem

/-- **Two names of one type are one name**, under the same provisos. -/
theorem name_eq_of_nameType? (hc : c.Coherent) {name bare type : String}
    (h : nameType? c name = some type) (h' : nameType? c bare = some type)
    (hbare : ∀ ch ∈ bare.toList, isBare ch = true)
    (hname : (name.toList.filter isBare).length ≤ bare.toList.length) : name = bare := by
  have hfundamental : ∀ p ∈ fundamentalTypes, ∀ q ∈ fundamentalTypes, p.2 = q.2 → p.1 = q.1 := by
    decide
  unfold nameType? at h h'
  cases horigin : c.originOf? name with
  | some origin =>
    rw [horigin] at h
    cases Option.some.inj h
    cases horigin' : c.originOf? bare with
    | some origin' =>
      rw [horigin'] at h'
      have hlists := congrArg String.toList (Option.some.inj h')
      rw [toList_qualified, toList_qualified] at hlists
      exact String.toList_inj.mp (eq_of_qualified hlists.symm hbare hname)
    | none =>
      rw [horigin'] at h'
      exact absurd rfl (qualified_ne_fundamental (hc.primitive?_eq_some_iff.mp h').1)
  | none =>
    rw [horigin] at h
    have hmem := (hc.primitive?_eq_some_iff.mp h).1
    cases horigin' : c.originOf? bare with
    | some origin' =>
      rw [horigin'] at h'
      exact absurd (Option.some.inj h') (qualified_ne_fundamental hmem)
    | none =>
      rw [horigin'] at h'
      exact hfundamental _ hmem _ (hc.primitive?_eq_some_iff.mp h').1 rfl

/-! ## Selectors -/

section Selectors

variable {r : Resolver} {group : SchemaObject} {d e : DataElement}

theorem fault_of_resolveCases {keyType : String} {fault : Fault} :
    ∀ {pairs : List (String × String)}, r.resolveCases group e keyType pairs = .error fault →
      ∃ choice, fault = r.typeFault group e (.unknownChoice choice)
  | [], h => by cases h
  | (enumerator, choice) :: rest, h => by
    rw [Resolver.resolveCases] at h
    split at h
    · cases h
      exact ⟨choice, rfl⟩
    · split at h
      next hrest =>
        cases h
        exact fault_of_resolveCases hrest
      next => cases h

/-- The type of a key is unknown only if it is that of an element and has no meaning. -/
theorem of_unknownKey {raw text name : String}
    (h : r.resolveSelector group e raw text =
      .error (r.typeFault group e (.unknownKey name))) :
    ∃ key list, e.constraints.findSome? selectorConstraint? = some (key, list) ∧
      discriminantType? r.catalog r.schema group key = some name ∧
      resolveSimple r.catalog name name.toList = none := by
  unfold Resolver.resolveSelector at h
  dsimp only at h
  split at h
  · cases h
  rename_i key list hconstraint
  split at h
  · cases h
  split at h
  · cases h
  split at h
  · cases h
  rename_i keyText hkeyText
  split at h
  next hnone =>
    cases h
    exact ⟨key, list, hconstraint, hkeyText, hnone⟩
  next =>
    split at h
    next hcases =>
      obtain ⟨choice, rfl⟩ := fault_of_resolveCases hcases
      cases h
    next => cases h

/-- A selector tests its key at a type: it is not refused because the type of the key is unknown,
and the enumerators of its cases are those of that type. -/
structure TestsAt (r : Resolver) (group : SchemaObject) (e : DataElement) (keyType : String)
    (enumerators : List String) : Prop where
  known : ∀ name, r.resolve group e ≠ .error (r.typeFault group e (.unknownKey name))
  qualified : ∀ type, r.resolve group e = .ok type →
    type.cases.map (·.enumerator) = enumerators.map (keyType ++ "::" ++ ·)

/-- The first element of a group under its name that has a data type. -/
def IsFirstNamed (group : SchemaObject) (d : DataElement) : Prop :=
  group.elements.find? (fun x => x.name = d.name ∧ x.dataType ≠ "") = some d

instance (group : SchemaObject) (d : DataElement) : Decidable (IsFirstNamed group d) :=
  inferInstanceAs (Decidable (_ = some d))

theorem discriminantType?_of_first (h : IsFirstNamed group d) :
    discriminantType? r.catalog r.schema group d.name = some (bareType d.dataType) := by
  rw [discriminantType?_eq, keyElement?, keyElements, List.append_assoc, List.find?_append, h]
  rfl

theorem map_enumerator_selectorCases (keyType : TypeDescriptor) :
    ∀ {enumerators : List String} {types : List TypeDescriptor},
      types.length = enumerators.length →
        (selectorCases keyType enumerators types).map (·.enumerator) =
          enumerators.map (keyType.cppType ++ "::" ++ ·)
  | [], _, _ => by simp [selectorCases]
  | enumerator :: enumerators, type :: types, h => by
    rw [List.map_cons, ← map_enumerator_selectorCases keyType (Nat.succ.inj h)]
    rfl

/-- Where the two routes find one name, they find one type. -/
theorem exists_keyType_of_onlyName {dtype : TypeDescriptor} (htype : r.resolve group d = .ok dtype)
    (hsimple : dtype.kind = .simple) (honly : OnlyName d.dataType) :
    ∃ keyType, resolveSimple r.catalog (bareType d.dataType) (bareType d.dataType).toList =
      some keyType ∧ keyType.cppType = dtype.cppType := by
  have hname := congrArg (Option.map (·.cppType)) (resolveName_of_resolve htype hsimple)
  rw [map_cppType_resolveName, ← map_cppType_resolveName (readName d.dataType)] at hname
  rw [bareType_eq_readName_iff.mpr honly,
    resolveSimple_of_plain fun ch hch => isReserved_of_isBare (honly.plain ch hch)]
  obtain ⟨keyType, hkeyType, hcpp⟩ := Option.map_eq_some_iff.mp hname
  exact ⟨keyType, hkeyType, hcpp⟩

theorem testsAt_of_onlyName {dtype : TypeDescriptor} {text list : String}
    (hfirst : IsFirstNamed group d) (htype : r.resolve group d = .ok dtype)
    (hsimple : dtype.kind = .simple) (hselector : trim e.dataType = "(" ++ text ++ ")")
    (hkey : IsFirstChoice e.constraints d.name list) (honly : OnlyName d.dataType) :
    TestsAt r group e dtype.cppType (commaList list) := by
  have hconstraint := findSome?_selectorConstraint?_iff.mpr hkey
  obtain ⟨keyType, hkeyType, hcpp⟩ := exists_keyType_of_onlyName htype hsimple honly
  constructor
  · intro name hfault
    rw [resolve_of_parentheses hselector] at hfault
    obtain ⟨key, list', hconstraint', hname, hnone⟩ := of_unknownKey hfault
    cases hconstraint.symm.trans hconstraint'
    cases (discriminantType?_of_first hfirst).symm.trans hname
    rw [hkeyType] at hnone
    cases hnone
  · intro type hok
    rw [resolve_of_parentheses hselector] at hok
    obtain ⟨key, list', keyText, keyType', types, hconstraint', -, hcount, hkeyText, hkeyType',
      htypes, rfl⟩ := resolveSelector_eq_ok_iff.mp hok
    cases hconstraint.symm.trans hconstraint'
    cases (discriminantType?_of_first hfirst).symm.trans hkeyText
    cases hkeyType.symm.trans hkeyType'
    rw [← hcpp]
    exact map_enumerator_selectorCases keyType (htypes.length_eq.symm.trans hcount)

/-- A selector whose lists match is refused if the type of its key has no meaning. -/
theorem resolveSelector_of_unknown {raw text key list name : String}
    (hconstraint : e.constraints.findSome? selectorConstraint? = some (key, list))
    (hpos : 1 ≤ (commaList list).length)
    (hcount : (commaList text).length = (commaList list).length)
    (hname : discriminantType? r.catalog r.schema group key = some name)
    (hnone : resolveSimple r.catalog name name.toList = none) :
    r.resolveSelector group e raw text = .error (r.typeFault group e (.unknownKey name)) := by
  have hsome {row : String} (h : 1 ≤ (commaList row).length) : (commaList row).isEmpty = false := by
    rw [List.isEmpty_eq_false_iff, ← List.length_pos_iff]
    exact h
  rw [Resolver.resolveSelector, hconstraint]
  simp [hsome hpos, hsome (hcount ▸ hpos), hcount, hname, hnone]

theorem nameType?_of_resolveName {raw name : String} {type : TypeDescriptor}
    (h : resolveName c raw name = some type) : nameType? c name = some type.cppType := by
  rw [← map_cppType_resolveName raw, h]
  rfl

/-- The name has no more letters and digits than the text. -/
theorem length_filter_readName_le (text : String) :
    ((readName text).toList.filter isBare).length ≤ (bareType text).toList.length := by
  rw [toList_bareType]
  exact ((infix_readName text).sublist.filter isBare).length_le

/-- Where they find one type, they find one name. -/
theorem onlyName_of_cppType (hc : r.catalog.Coherent) {dtype keyType : TypeDescriptor}
    (htype : r.resolve group d = .ok dtype) (hsimple : dtype.kind = .simple)
    (hkeyType : resolveSimple r.catalog (bareType d.dataType) (bareType d.dataType).toList =
      some keyType) (hcpp : keyType.cppType = dtype.cppType) : OnlyName d.dataType := by
  have hbare : ∀ ch ∈ (bareType d.dataType).toList, isBare ch = true := by
    rw [toList_bareType]
    exact fun ch hch => (List.mem_filter.mp hch).2
  rw [resolveSimple_of_plain fun ch hch => isReserved_of_isBare (hbare ch hch)] at hkeyType
  have hread := nameType?_of_resolveName (resolveName_of_resolve htype hsimple)
  have hstripped := nameType?_of_resolveName hkeyType
  rw [hcpp] at hstripped
  exact bareType_eq_readName_iff.mp (name_eq_of_nameType? hc hread hstripped hbare
    (length_filter_readName_le d.dataType)).symm

/-- Where they find two, the selector is refused, or it tests its key at another type. -/
theorem onlyName_of_testsAt (hc : r.catalog.Coherent) {dtype : TypeDescriptor}
    {text list : String} {types : List TypeDescriptor}
    (hfirst : IsFirstNamed group d) (htype : r.resolve group d = .ok dtype)
    (hsimple : dtype.kind = .simple) (hselector : trim e.dataType = "(" ++ text ++ ")")
    (hkey : IsFirstChoice e.constraints d.name list) (hpos : 1 ≤ (commaList list).length)
    (hcount : (commaList text).length = (commaList list).length)
    (htypes : List.Forall₂ (ResolvesPlainly r.catalog) (commaList text) types)
    (htests : TestsAt r group e dtype.cppType (commaList list)) : OnlyName d.dataType := by
  have hconstraint := findSome?_selectorConstraint?_iff.mpr hkey
  have hkeyText := discriminantType?_of_first (r := r) hfirst
  cases hkeyType : resolveSimple r.catalog (bareType d.dataType)
      (bareType d.dataType).toList with
  | none =>
    refine absurd ?_ (htests.known (bareType d.dataType))
    rw [resolve_of_parentheses hselector]
    exact resolveSelector_of_unknown hconstraint hpos hcount hkeyText hkeyType
  | some keyType =>
    have htypes' : List.Forall₂ (fun choice type =>
        resolveSimple r.catalog choice choice.toList = some type) (commaList text) types :=
      (forall₂_iff_of_mem fun choice hchoice _ =>
        resolveSimple_eq_some_iff_plainly (trimmed_of_mem_commaList hchoice)).mpr htypes
    have hresolved : ∃ type, r.resolve group e = .ok type ∧
        type.cases = selectorCases keyType (commaList list) types := by
      rw [resolve_of_parentheses hselector]
      exact ⟨_, resolveSelector_eq_ok_iff.mpr ⟨d.name, list, _, keyType, types, hconstraint, hpos,
        hcount, hkeyText, hkeyType, htypes', rfl⟩, rfl⟩
    obtain ⟨type, hok, htypeCases⟩ := hresolved
    have hcases := htests.qualified type hok
    rw [htypeCases, map_enumerator_selectorCases keyType (htypes.length_eq.symm.trans hcount)] at hcases
    -- the first enumerator gives the type away
    have hcpp : keyType.cppType = dtype.cppType := by
      obtain ⟨first, more, hfirst⟩ := List.exists_cons_of_length_pos hpos
      rw [hfirst, List.map_cons, List.map_cons] at hcases
      simpa using (List.cons.inj hcases).1
    exact onlyName_of_cppType hc htype hsimple hkeyType hcpp

/-- **When a selector tests its key at the key's own type.** It does if the data type of the key has
no letters and digits but those of its name and the name has nothing else. If its lists match and
its choices have a meaning, it does in no other case. -/
theorem tests_key_type_iff {loader : Loader} {strict : Bool} {s schema : Schema} {c : Catalog}
    (hc : (Catalog.build loader strict s).result = .ok c) {group : SchemaObject}
    {d e : DataElement} {dtype : TypeDescriptor} {text list : String}
    {enumerators choices : List String} (hfirst : IsFirstNamed group d)
    (htype : Resolver.resolve ⟨c, schema⟩ group d = .ok dtype) (hsimple : dtype.kind = .simple)
    (hselector : trim e.dataType = "(" ++ text ++ ")")
    (hkey : IsFirstChoice e.constraints d.name list) (hlist : IsCommaList list enumerators)
    (hchoices : IsCommaList text choices) :
    (OnlyName d.dataType → TestsAt ⟨c, schema⟩ group e dtype.cppType enumerators) ∧
      (1 ≤ enumerators.length → choices.length = enumerators.length →
        (∃ types, List.Forall₂ (ResolvesPlainly c) choices types) →
          (TestsAt ⟨c, schema⟩ group e dtype.cppType enumerators ↔ OnlyName d.dataType)) := by
  cases isCommaList_iff.mp hlist
  cases isCommaList_iff.mp hchoices
  have htests := testsAt_of_onlyName hfirst htype hsimple hselector hkey
  refine ⟨htests, fun hpos hcount hchosen => ⟨?_, htests⟩⟩
  obtain ⟨types, htypes⟩ := hchosen
  exact onlyName_of_testsAt (Catalog.coherent_of_build hc) hfirst htype hsimple hselector hkey
    hpos hcount htypes

end Selectors

/-! ### An enumeration under two names -/

/-- An element of this data type. -/
def modeElement (dataType : String) : DataElement := { name := "mode", dataType }

/-- An element that is chosen by the mode. -/
def chosenElement : DataElement :=
  { name := "part", dataType := "(Fan, Coil)", constraints := ["mode(ON, OFF)"] }

/-- A group of these two. -/
def modeGroup (dataType : String) : SchemaObject :=
  { name := "Unit", type := .dataGroup, elements := [modeElement dataType, chosenElement] }

/-- An enumeration of this name, and the group, whose mode has this data type. -/
def modeSchema (enumeration dataType : String) : Schema where
  name := "S"
  objects :=
    [{ name := enumeration, type := .enumeration
       enumerators := [{ value := "ON" }, { value := "OFF" }] },
      { name := "Fan", type := .dataGroup }, { name := "Coil", type := .dataGroup },
      modeGroup dataType]

theorem trim_chosenElement : trim chosenElement.dataType = "(" ++ "Fan, Coil" ++ ")" := by
  decide

theorem isFirstChoice_chosenElement :
    IsFirstChoice chosenElement.constraints "mode" "ON, OFF" :=
  findSome?_selectorConstraint?_iff.mp (by decide)

theorem tests_key_type_mode :
    let s := modeSchema "Mode" "<Mode>"
    ∃ c dtype, (Catalog.build (SchemaSet.loader {}) false s).result = .ok c ∧
      Resolver.resolve ⟨c, s⟩ (modeGroup "<Mode>") (modeElement "<Mode>") = .ok dtype ∧
      dtype.cppType = "s_ns::Mode" ∧
      TestsAt ⟨c, s⟩ (modeGroup "<Mode>") chosenElement dtype.cppType ["ON", "OFF"] := by
  intro s
  have hview : ((Catalog.build (SchemaSet.loader {}) false s).result.toOption.bind fun c =>
      (Resolver.resolve ⟨c, s⟩ (modeGroup "<Mode>") (modeElement "<Mode>")).toOption.map
        fun dtype => (dtype.kind, dtype.cppType)) = some (.simple, "s_ns::Mode") := by
    decide +kernel
  obtain ⟨c, hc, hview⟩ := Option.bind_eq_some_iff.mp hview
  obtain ⟨dtype, hdtype, hview⟩ := Option.map_eq_some_iff.mp hview
  obtain ⟨hsimple, hcpp⟩ := Prod.mk.inj hview
  have hc := eq_ok_of_toOption hc
  have hdtype := eq_ok_of_toOption hdtype
  have hlist : IsCommaList "ON, OFF" ["ON", "OFF"] := isCommaList_iff.mpr (by decide)
  have hchoices : IsCommaList "Fan, Coil" ["Fan", "Coil"] := isCommaList_iff.mpr (by decide)
  have honly : OnlyName (modeElement "<Mode>").dataType := by decide
  have htests := (tests_key_type_iff hc (by decide) hdtype hsimple trim_chosenElement
    isFirstChoice_chosenElement hlist hchoices).1 honly
  exact ⟨c, dtype, hc, hdtype, hcpp, htests⟩

/-- With an underscore in the name of the enumeration, the mode has a type and the selector has
none. -/
theorem unknown_key_type_mode :
    let s := modeSchema "Heat_Mode" "<Heat_Mode>"
    ∃ c dtype, (Catalog.build (SchemaSet.loader {}) false s).result = .ok c ∧
      IsFirstNamed (modeGroup "<Heat_Mode>") (modeElement "<Heat_Mode>") ∧
      Resolver.resolve ⟨c, s⟩ (modeGroup "<Heat_Mode>") (modeElement "<Heat_Mode>") = .ok dtype ∧
      dtype.kind = .simple ∧ dtype.cppType = "s_ns::Heat_Mode" ∧
      Resolver.resolve ⟨c, s⟩ (modeGroup "<Heat_Mode>") chosenElement =
        .error (Resolver.typeFault ⟨c, s⟩ (modeGroup "<Heat_Mode>") chosenElement
          (.unknownKey "HeatMode")) := by
  intro s
  have hview : ((Catalog.build (SchemaSet.loader {}) false s).result.toOption.bind fun c =>
      (Resolver.resolve ⟨c, s⟩ (modeGroup "<Heat_Mode>")
        (modeElement "<Heat_Mode>")).toOption.map fun dtype =>
          (dtype.kind, dtype.cppType, bareType "<Heat_Mode>",
            (resolveSimple c "HeatMode" "HeatMode".toList).isNone)) =
      some (.simple, "s_ns::Heat_Mode", "HeatMode", true) := by
    decide +kernel
  obtain ⟨c, hc, hview⟩ := Option.bind_eq_some_iff.mp hview
  obtain ⟨dtype, hdtype, hview⟩ := Option.map_eq_some_iff.mp hview
  simp only [Prod.mk.injEq] at hview
  obtain ⟨hsimple, hcpp, hbare, hnone⟩ := hview
  have hfirst : IsFirstNamed (modeGroup "<Heat_Mode>") (modeElement "<Heat_Mode>") := by decide
  have hname := discriminantType?_of_first (r := ⟨c, s⟩) hfirst
  rw [show (modeElement "<Heat_Mode>").dataType = "<Heat_Mode>" from rfl, hbare] at hname
  refine ⟨c, dtype, eq_ok_of_toOption hc, hfirst, eq_ok_of_toOption hdtype, hsimple, hcpp, ?_⟩
  rw [resolve_of_parentheses trim_chosenElement]
  exact resolveSelector_of_unknown (findSome?_selectorConstraint?_iff.mpr
    isFirstChoice_chosenElement) (by decide) (by decide) hname (Option.isNone_iff_eq_none.mp hnone)

end SchemaGen.TypeExpr
