import SchemaGen.Proofs.Catalog.Index
import SchemaGen.Proofs.Declaration.Shape
import SchemaGen.Proofs.Text.Trim

/-!
# Types are declared before they are used

A class can have a member of a type that its own schema exports. Three lists have to agree for the
generated code to be right: the objects that a catalog exports, so that the name means something;
the objects that are declared; and the siblings that the text of a member makes its class wait for.

The last one is right. The name of a type stands in the signature of a member as a whole word,
however deep in arrays (`wholeWord_signature`), so whatever declares it stands before the class.
The first two differ in one kind. `Schema.declaresType` is the list of what is declared, and next to
it there are map variables: they are exported and never declared.
-/

set_option autoImplicit false

namespace SchemaGen

open SchemaGen.Text (namespaceName isIdentChar IsWord WholeWord wholeWord_of_append
  forall_head?_cons)

/-! ## Names in the types of members -/

/-- No identifier goes on into a text made of two if none goes on into either. -/
theorem head?_append_outside {a b : String} (ha : ∀ c ∈ a.toList.head?, isIdentChar c = false)
    (hb : ∀ c ∈ b.toList.head?, isIdentChar c = false) :
    ∀ c ∈ (a ++ b).toList.head?, isIdentChar c = false := by
  intro c hc
  rw [String.toList_append, List.head?_append] at hc
  cases hhead : a.toList.head? with
  | none =>
    rw [hhead, Option.none_or] at hc
    exact hb c hc
  | some c' =>
    rw [hhead, Option.some_or] at hc
    exact ha c (hhead ▸ hc)

namespace TypeDescriptor

/-- What a type is made of, through any depth of arrays. -/
def core : TypeDescriptor → TypeDescriptor
  | ⟨.array, _, _, _, some elem, _, _, _, _⟩ => elem.core
  | d => d

/-- Whether a type is, through any depth of arrays, the type `name` of some schema. -/
def isNamed (name : String) (d : TypeDescriptor) : Bool :=
  d.core.kind = .simple && d.core.name = namespaceName d.core.origin ++ "::" ++ name

/-- The text of a type has that of its core in it, and no identifier goes on behind. -/
theorem exists_cppType_eq : ∀ d : TypeDescriptor, ∃ before after : String,
    d.cppType = before ++ d.core.cppType ++ after ∧
      ∀ c ∈ after.toList.head?, isIdentChar c = false
  | ⟨.array, _, _, _, some elem, _, _, _, _⟩ => by
    obtain ⟨before, after, htype, hafter⟩ := exists_cppType_eq elem
    refine ⟨"std::vector<" ++ before, after ++ ">", ?_, ?_⟩
    · rw [cppType, core, htype]
      simp only [String.append_assoc]
    · exact head?_append_outside hafter (forall_head?_cons rfl)
  | ⟨.array, _, _, _, none, _, _, _, _⟩ | ⟨.simple, _, _, _, _, _, _, _, _⟩
  | ⟨.selector, _, _, _, _, _, _, _, _⟩ | ⟨.nested, _, _, _, _, _, _, _, _⟩
  | ⟨.unknown, _, _, _, _, _, _, _, _⟩ => ⟨"", "", by simp [core], by simp⟩

theorem cppType_of_simple {d : TypeDescriptor} (h : d.kind = .simple) : d.cppType = d.name := by
  obtain ⟨kind, raw, name, origin, elem, key, cases, subKey, subValue⟩ := d
  cases h
  rfl

end TypeDescriptor

/-- **A member mentions the type that it is made of.** -/
theorem wholeWord_signature {m : MemberDecl} {name : String} (hword : IsWord name)
    (h : m.type.isNamed name = true) : WholeWord name (Decl.member m).signature := by
  obtain ⟨hkind, hname⟩ := Bool.and_eq_true_iff.mp h
  obtain ⟨before, after, htype, hafter⟩ := m.type.exists_cppType_eq
  rw [TypeDescriptor.cppType_of_simple (of_decide_eq_true hkind),
    of_decide_eq_true hname] at htype
  have hsignature : (Decl.member m).signature =
      (before ++ namespaceName m.type.core.origin ++ "::") ++ name ++ (after ++ " " ++ m.name) := by
    show m.type.cppType ++ " " ++ m.name = _
    rw [htype]
    apply String.toList_injective
    simp only [String.toList_append, List.append_assoc]
  rw [hsignature]
  refine wholeWord_of_append hword ?_ ?_
  · intro c hc
    rw [String.toList_append, show "::".toList = [':', ':'] from rfl, List.getLast?_append] at hc
    cases Option.mem_some_iff.mp hc
    rfl
  · rw [String.append_assoc]
    refine head?_append_outside hafter ?_
    rw [String.toList_append]
    exact forall_head?_cons rfl

/-! ## What is declared -/

/-- Whether objects of a type become declarations of types. -/
def ObjectType.isDeclared : ObjectType → Bool
  | .stringType | .enumeration | .metadata => true
  | t => t.isGroup

/-- Map variables are the only objects that can be referred to and are not declared. -/
theorem ObjectType.eq_mapVariables_of_not_isDeclared {t : ObjectType} (h : t.isExported = true)
    (h' : t.isDeclared = false) : t = .mapVariables := by
  cases t with
  | mapVariables => rfl
  | dataType | metadata | other => cases h
  | _ => cases h'

/-- Whether a schema declares a type of this name. The root group, or else the class that holds the
logger, always is one. -/
def Schema.declaresType (s : Schema) (name : String) : Bool :=
  name = s.rootGroup || s.objects.any fun o => o.name = name && o.type.isDeclared

/-- Whether a declaration introduces a type that members can have. -/
def Decl.introducesType : Decl → Bool
  | .typedef .. | .enumeration .. | .struct _ => true
  | _ => false

/-- Whether a tree is the declaration of the type `name`. -/
def introduces (name : String) (t : Tree (Tree.Numbered Decl)) : Bool :=
  t.label.value.introducesType && t.label.value.name = name

theorem declaresType_of_mem_objects {s : Schema} {o : SchemaObject} (ho : o ∈ s.objects)
    (h : o.type.isDeclared = true) : s.declaresType o.name = true := by
  refine Bool.or_eq_true_iff.mpr (Or.inr (List.any_eq_true.mpr ⟨o, ho, ?_⟩))
  rw [h, Bool.and_true]
  exact decide_eq_true rfl

theorem isDeclared_of_isGroup {t : ObjectType} (h : t.isGroup = true) : t.isDeclared = true := by
  cases t <;> first | rfl | cases h

theorem mem_objectsOfType {s : Schema} {type : ObjectType} {o : SchemaObject} :
    o ∈ s.objectsOfType [type] ↔ o ∈ s.objects ∧ o.type = type := by
  rw [Schema.objectsOfType, List.mem_filter, List.contains_iff_mem, List.mem_singleton]

/-- All that is put in order introduces a type that the schema declares. -/
theorem introducesType_of_mem_unordered {o : DeclOptions} {r : TypeExpr.Resolver} {s : Schema}
    {groups : List (Tree Decl)} {headers : List String}
    (h : buildGroups o r s.rootGroup s.groups = .ok (groups, headers)) {t : Tree Decl}
    (ht : t ∈ leadingTrees s ++ groups) :
    t.label.introducesType = true ∧ s.declaresType t.label.name = true := by
  unfold leadingTrees at ht
  simp only [List.mem_append] at ht
  rcases ht with (((htypedef | henum) | hmeta) | hholder) | hgroup
  · obtain ⟨o, ho, rfl⟩ := List.mem_map.mp htypedef
    obtain ⟨ho, htype⟩ := mem_objectsOfType.mp ho
    exact ⟨rfl, declaresType_of_mem_objects ho (by rw [htype]; rfl)⟩
  · obtain ⟨o, ho, rfl⟩ := List.mem_map.mp henum
    obtain ⟨ho, htype⟩ := mem_objectsOfType.mp ho
    exact ⟨rfl, declaresType_of_mem_objects ho (by rw [htype]; rfl)⟩
  · obtain ⟨o, ho, rfl⟩ := List.mem_map.mp hmeta
    obtain ⟨ho, htype⟩ := mem_objectsOfType.mp ho
    exact ⟨rfl, declaresType_of_mem_objects ho (by rw [htype]; rfl)⟩
  · unfold loggerHolder at hholder
    split at hholder
    · cases hholder
    · rw [List.mem_singleton.mp hholder]
      exact ⟨rfl, Bool.or_eq_true_iff.mpr (Or.inl (decide_eq_true rfl))⟩
  · obtain ⟨group, hmem, members, -, rfl⟩ :=
      exists_mem_right_of_forall₂ (forall₂_of_buildGroups h) hgroup
    obtain ⟨hmem, htype⟩ := List.mem_filter.mp hmem
    exact ⟨rfl, declaresType_of_mem_objects hmem (isDeclared_of_isGroup htype)⟩

theorem exists_unordered_of_group {o : DeclOptions} {r : TypeExpr.Resolver} {s : Schema}
    {groups : List (Tree Decl)} {headers : List String}
    (h : buildGroups o r s.rootGroup s.groups = .ok (groups, headers)) {g : SchemaObject}
    (hg : g ∈ s.objects) (htype : g.type.isGroup = true) :
    ∃ t ∈ leadingTrees s ++ groups, t.label.name = g.name := by
  obtain ⟨t, ht, members, -, rfl⟩ :=
    exists_mem_left_of_forall₂ (forall₂_of_buildGroups h) (List.mem_filter.mpr ⟨hg, htype⟩)
  exact ⟨_, List.mem_append_right _ ht, rfl⟩

/-- All that a schema declares is put in order. -/
theorem exists_unordered_of_declaresType {o : DeclOptions} {r : TypeExpr.Resolver} {s : Schema}
    {groups : List (Tree Decl)} {headers : List String}
    (h : buildGroups o r s.rootGroup s.groups = .ok (groups, headers)) {name : String}
    (hname : s.declaresType name = true) :
    ∃ t ∈ leadingTrees s ++ groups, t.label.name = name := by
  rcases Bool.or_eq_true_iff.mp hname with hroot | hobject
  · rw [of_decide_eq_true hroot]
    -- without a root group the holder of the logger has its name
    cases hgroup : s.groupNamed? s.rootGroup with
    | some g =>
      obtain ⟨hlookup, htype⟩ := Option.filter_eq_some_iff.mp hgroup
      unfold Schema.lookup? at hlookup
      obtain ⟨t, ht, hlabel⟩ :=
        exists_unordered_of_group h (List.mem_of_find?_eq_some hlookup) htype
      exact ⟨t, ht, hlabel.trans (by simpa using List.find?_some hlookup)⟩
    | none =>
      refine ⟨.node (.struct { name := s.rootGroup }) [.leaf loggerDecl], ?_, rfl⟩
      refine List.mem_append_left _ (List.mem_append_right _ ?_)
      rw [loggerHolder, hgroup]
      exact List.mem_singleton.mpr rfl
  · obtain ⟨o, ho, hboth⟩ := List.any_eq_true.mp hobject
    obtain ⟨heq, hdeclared⟩ := Bool.and_eq_true_iff.mp hboth
    rw [← of_decide_eq_true heq]
    by_cases hgroup : o.type.isGroup = true
    · exact exists_unordered_of_group h ho hgroup
    · -- the three other kinds have a pass of their own each
      suffices hlead : ∃ t ∈ leadingTrees s, t.label.name = o.name by
        obtain ⟨t, ht, hlabel⟩ := hlead
        exact ⟨t, List.mem_append_left _ ht, hlabel⟩
      simp only [leadingTrees, List.mem_append]
      cases htype : o.type with
      | stringType =>
        have hpass := List.mem_map_of_mem (f := fun o : SchemaObject =>
          Tree.leaf (Decl.typedef o.name "std::string")) (mem_objectsOfType.mpr ⟨ho, htype⟩)
        exact ⟨_, Or.inl (Or.inl (Or.inl hpass)), rfl⟩
      | enumeration =>
        have hpass := List.mem_map_of_mem (f := fun o : SchemaObject =>
          Tree.leaf (Decl.ofEnumerators o.name o.enumerators)) (mem_objectsOfType.mpr ⟨ho, htype⟩)
        exact ⟨_, Or.inl (Or.inl (Or.inr hpass)), rfl⟩
      | metadata =>
        have hpass := List.mem_map_of_mem (f := metadataTree) (mem_objectsOfType.mpr ⟨ho, htype⟩)
        exact ⟨_, Or.inl (Or.inr hpass), rfl⟩
      | _ =>
        rw [htype] at hdeclared hgroup
        exact absurd hdeclared hgroup

/-! ## Uses -/

/-- Whether a declaration has a data member that is, through any depth of arrays, of the type `name`
of some schema. -/
def hasMemberOf (name : String) (t : Tree (Tree.Numbered Decl)) : Bool :=
  t.children.any fun c => c.label.value.member?.any (·.type.isNamed name)

/-- A class mentions the types of its members, and did so before it got its overload. -/
theorem mentionsName_of_hasMemberOf {t : Tree (Tree.Numbered Decl)} {classes : List ClassView}
    {id : NodeId} {name : String} (hword : IsWord name)
    (h : hasMemberOf name (t.extend (overloadLeaves classes id t)) = true) :
    MentionsName (t.map (·.value)) name := by
  obtain ⟨c, hc, hany⟩ := List.any_eq_true.mp h
  obtain ⟨m, hm, hnamed⟩ := (Option.any_eq_true _ _).mp hany
  have hvalue : c.label.value = .member m := by
    cases hv : c.label.value with
    | member m' =>
      rw [hv] at hm
      rw [Option.some.inj hm]
    | _ =>
      rw [hv] at hm
      cases hm
  refine ⟨.member m, ?_, wholeWord_signature hword hnamed⟩
  rw [Tree.labels_map, ← hvalue]
  refine List.mem_map_of_mem ?_
  rcases List.mem_append.mp hc with hc | hc
  · exact Tree.mem_labels_of_mem_children hc (Tree.mem_labels_self c)
  · -- an overload is a function
    obtain ⟨overload, hdue, rfl⟩ := List.mem_map.mp hc
    obtain ⟨-, grid, lookup, hoverload⟩ := eq_of_dueOverload (Option.mem_toList.mp hdue)
    rw [Tree.leaf, Tree.label_node, hoverload] at hvalue
    cases hvalue

/-- Where a class of the scope stands, an ordered declaration stands that mentions the types of its
members. -/
theorem exists_ordered_of_hasMemberOf {s : Schema} {ordered : List (Tree Decl)} {k : Nat}
    {t : Tree (Tree.Numbered Decl)} (ht : (scopeTree s ordered).children[k]? = some t)
    (hstruct : t.label.value.struct?.isSome = true) {name : String} (hword : IsWord name)
    (huse : hasMemberOf name t = true) :
    ∃ t', ordered[k]? = some t' ∧ t'.label = t.label.value ∧ MentionsName t' name := by
  obtain ⟨decl, hdecl⟩ : ∃ decl, t.label.value = .struct decl := by
    cases hv : t.label.value with
    | struct decl => exact ⟨decl, rfl⟩
    | _ =>
      rw [hv] at hstruct
      cases hstruct
  obtain ⟨t', ht'⟩ := exists_ordered_of_struct ht hdecl
  obtain ⟨t'', classes, id, rfl, hchild⟩ := getElem?_scopeTree (s := s) ht'
  cases ht.symm.trans hchild
  exact ⟨_, ht', by rw [Tree.label_map]; rfl, mentionsName_of_hasMemberOf hword huse⟩

/-- What follows the ordered declarations introduces no type. -/
theorem not_introducesType_of_mem_trailingDecls {s : Schema} {d : Decl}
    (h : d ∈ trailingDecls s) : d.introducesType = false := by
  rcases List.mem_append.mp h with h | h
  · obtain ⟨o, -, rfl⟩ := List.mem_map.mp h
    rfl
  · obtain ⟨g, -, rfl⟩ := List.mem_map.mp h
    rfl

/-- A scope introduces no other types than those that its schema declares. -/
theorem declaresType_of_introduces {o : DeclOptions} {r : TypeExpr.Resolver} {s : Schema}
    {groups ordered : List (Tree Decl)} {headers : List String}
    (hgroups : buildGroups o r s.rootGroup s.groups = .ok (groups, headers))
    (hordered : (orderTrees (namespaceName s.name) (leadingTrees s ++ groups)).result = .ok ordered)
    {t : Tree (Tree.Numbered Decl)} (ht : t ∈ (scopeTree s ordered).children) {name : String}
    (h : introduces name t = true) : s.declaresType name = true := by
  obtain ⟨htype, hname⟩ := Bool.and_eq_true_iff.mp h
  rcases List.mem_append.mp ht with ht | ht
  · obtain ⟨t', ht', id, rfl⟩ := exists_of_mem_withOverloads ht
    have hmem : t'.map (·.value) ∈ ordered := by
      rw [← map_value_numbered ordered 1]
      exact List.mem_map_of_mem ht'
    have hdeclares :=
      (introducesType_of_mem_unordered hgroups ((mem_ordered_iff hordered).mp hmem)).2
    rwa [Tree.label_map, show t'.label.value.name = name from of_decide_eq_true hname] at hdeclares
  · obtain ⟨id, d, hd, rfl⟩ := exists_of_mem_numberLeaves ht
    exact absurd htype (by simp [Tree.leaf, not_introducesType_of_mem_trailingDecls hd])

/-- **A type is declared before the classes that use it, if it is declared.** -/
theorem introduced_before_iff {c : Catalog} {s : Schema} {o : DeclOptions} {d : Declarations}
    (hd : (buildDeclarations c s o).result = .ok d) {k : Nat} {t : Tree (Tree.Numbered Decl)}
    (ht : d.scope.children[k]? = some t) (hstruct : t.label.value.struct?.isSome = true)
    {name : String} (hword : IsWord name) (huse : hasMemberOf name t = true)
    (hne : name ≠ t.label.value.name) :
    (d.scope.children.take k).any (introduces name) = true ↔ s.declaresType name = true := by
  obtain ⟨groups, headers, ordered, hgroups, hordered, rfl⟩ := exists_of_buildDeclarations hd
  -- both directions go through the list before numbers and overloads, where `k` is `k` as well
  obtain ⟨t', ht', hlabel, hmentions⟩ := exists_ordered_of_hasMemberOf ht hstruct hword huse
  constructor
  · intro hany
    obtain ⟨u, hu, hintroduces⟩ := List.any_eq_true.mp hany
    exact declaresType_of_introduces hgroups hordered (List.mem_of_mem_take hu) hintroduces
  · intro hdeclares
    obtain ⟨u, hu, hname⟩ := exists_unordered_of_declaresType hgroups hdeclares
    obtain ⟨j, hj⟩ := List.getElem?_of_mem ((mem_ordered_iff hordered).mpr hu)
    have hjk : j < k := by
      refine lt_of_mustPrecede_ordered hordered
        ⟨?_, u, t', hj, ht', hname ▸ hword.1, hname ▸ hmentions⟩
      -- at the place of the class itself stands its own name
      rintro rfl
      cases hj.symm.trans ht'
      exact hne (by rw [← hname, hlabel])
    obtain ⟨u', classes, id, rfl, hchild⟩ := getElem?_scopeTree (s := s) hj
    have htake := (List.getElem?_take_of_lt hjk).trans hchild
    have htype := (introducesType_of_mem_unordered hgroups hu).1
    rw [Tree.label_map] at hname htype
    exact List.any_eq_true.mpr ⟨_, List.mem_of_getElem? htake,
      Bool.and_eq_true_iff.mpr ⟨htype, decide_eq_true hname⟩⟩

/-- **When the types of members are declared before use.** Take any class of a schema, and the name
of a local type, another one, that one of its members has through any depth of arrays. The type is
introduced before the class exactly if the schema declares it, and the local types that a schema
does not declare are map variables. -/
theorem declared_before_use_iff {loader : Loader} {strict : Bool} {c : Catalog} {s : Schema}
    {o : DeclOptions} {d : Declarations} (hc : (Catalog.build loader strict s).result = .ok c)
    (hd : (buildDeclarations c s o).result = .ok d) {k : Nat} {t : Tree (Tree.Numbered Decl)}
    (ht : d.scope.children[k]? = some t) (hstruct : t.label.value.struct?.isSome = true)
    {name : String} (hlocal : c.isLocal name = true) (hword : IsWord name)
    (huse : hasMemberOf name t = true) (hne : name ≠ t.label.value.name) :
    ((d.scope.children.take k).any (introduces name) = true ↔ s.declaresType name = true) ∧
      (s.declaresType name = false →
        ∃ m ∈ s.objects, m.name = name ∧ m.type = .mapVariables) := by
  refine ⟨introduced_before_iff hd ht hstruct hword huse hne, fun hnot => ?_⟩
  obtain ⟨m, hm, rfl, hexported⟩ := (Catalog.isLocal_iff hc).mp hlocal
  refine ⟨m, hm, rfl, ObjectType.eq_mapVariables_of_not_isDeclared hexported ?_⟩
  by_contra hdeclared
  rw [Bool.not_eq_false] at hdeclared
  rw [declaresType_of_mem_objects hm hdeclared] at hnot
  cases hnot

/-! ## Map variables -/

/-- A group with members of two local types: a group that stands behind it, and map variables. -/
def mapUserSchema : Schema where
  name := "S"
  objects :=
    [{ name := "G", type := .dataGroup
       elements :=
        [{ name := "a", dataType := "[\x7bH\x7d]" }, { name := "b", dataType := "\x7bM\x7d" }] },
      { name := "H", type := .dataGroup },
      { name := "M", type := .mapVariables }]

/-- Whether the class `G` of that schema, third of its declarations, has a member of the local type
`name`, and whether that type is introduced at all. -/
def mapUserView (name : String) : Option (Bool × Bool) :=
  (Catalog.build (SchemaSet.loader {}) false mapUserSchema).result.toOption.bind fun c =>
    (buildDeclarations c mapUserSchema {}).result.toOption.bind fun d =>
      d.scope.children[2]?.map fun t =>
        (t.label.value.struct?.isSome && t.label.value.name = "G" && c.isLocal name &&
          hasMemberOf name t, d.scope.children.any (introduces name))

theorem exists_of_mapUserView {name : String} {introduced : Bool}
    (h : mapUserView name = some (true, introduced)) :
    ∃ c d t, (Catalog.build (SchemaSet.loader {}) false mapUserSchema).result = .ok c ∧
      (buildDeclarations c mapUserSchema {}).result = .ok d ∧ d.scope.children[2]? = some t ∧
      t.label.value.struct?.isSome = true ∧ t.label.value.name = "G" ∧ c.isLocal name = true ∧
      hasMemberOf name t = true ∧ d.scope.children.any (introduces name) = introduced := by
  obtain ⟨c, hc, h⟩ := Option.bind_eq_some_iff.mp h
  obtain ⟨d, hd, h⟩ := Option.bind_eq_some_iff.mp h
  obtain ⟨t, ht, h⟩ := Option.map_eq_some_iff.mp h
  simp only [Prod.mk.injEq, Bool.and_eq_true, decide_eq_true_eq] at h
  obtain ⟨⟨⟨⟨hstruct, hname⟩, hlocal⟩, huse⟩, hintroduced⟩ := h
  exact ⟨c, d, t, eq_ok_of_toOption hc, eq_ok_of_toOption hd, ht, hstruct, hname, hlocal, huse,
    hintroduced⟩

/-- The group `H` comes before the class `G` that has a list of it. -/
theorem declared_before_use_group :
    ∃ c d, (Catalog.build (SchemaSet.loader {}) false mapUserSchema).result = .ok c ∧
      (buildDeclarations c mapUserSchema {}).result = .ok d ∧ c.isLocal "H" = true ∧
      (d.scope.children.take 2).any (introduces "H") = true := by
  obtain ⟨c, d, t, hc, hd, ht, hstruct, hname, hlocal, huse, -⟩ :=
    exists_of_mapUserView (show mapUserView "H" = some (true, true) by decide +kernel)
  have hiff := declared_before_use_iff hc hd ht hstruct hlocal
    ⟨by decide, List.all_eq_true.mp rfl⟩ huse
    (by rw [hname]; decide)
  exact ⟨c, d, hc, hd, hlocal, hiff.1.mpr (by decide)⟩

/-- **Map variables are not declared before use.** The class `G` has a member of the local type `M`,
and no declaration introduces `M`, before it or after it. -/
theorem map_variables_not_declared :
    ∃ c d t, (Catalog.build (SchemaSet.loader {}) false mapUserSchema).result = .ok c ∧
      (buildDeclarations c mapUserSchema {}).result = .ok d ∧ d.scope.children[2]? = some t ∧
      t.label.value.struct?.isSome = true ∧ t.label.value.name = "G" ∧ c.isLocal "M" = true ∧
      hasMemberOf "M" t = true ∧ d.scope.children.any (introduces "M") = false :=
  exists_of_mapUserView (by decide +kernel)

end SchemaGen
