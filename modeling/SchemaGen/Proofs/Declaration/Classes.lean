import SchemaGen.Definition.Build
import SchemaGen.Proofs.Declaration.Shape

/-!
# The classes of a schema

`Shape` says what may stand in a namespace. This module says what does: where each class comes from
(`DeclaredAs`), what it declares in which order (`class_cases`), and that every group has its class
(`exists_groupClass`). The overload that a performance map gets later is said in terms of the
finished siblings, since overloads change nothing that siblings are found by
(`filterMap_classView?_scopeTree`).

From the values that a class declares, its data members, its functions and its counters are read
off (`members_groupMembers` and the like). If no two objects of a schema share a name, no two of its
classes do, and looking for a class by name finds the one (`classNamed?_eq`).
-/

set_option autoImplicit false

namespace SchemaGen

open SchemaGen.Text (namespaceName)

/-! ## Values -/

/-- What a declaration has directly below it, without numbers. -/
def childValues (t : Tree (Tree.Numbered Decl)) : List Decl :=
  t.children.map (·.label.value)

/-- The enumerants of a counter, if it is one. -/
def Decl.counter? : Decl → Option (List String)
  | .counter enumerants => some enumerants
  | _ => none

theorem Decl.struct?_eq_some {d : Decl} {s : StructDecl} : d.struct? = some s ↔ d = .struct s := by
  cases d <;> simp [Decl.struct?]

theorem Decl.member?_eq_some {d : Decl} {m : MemberDecl} : d.member? = some m ↔ d = .member m := by
  cases d <;> simp [Decl.member?]

theorem Decl.function?_eq_some {d : Decl} {f : FunctionDecl} :
    d.function? = some f ↔ d = .function f := by
  cases d <;> simp [Decl.function?]

theorem map_snd_numberedMembers (t : Tree (Tree.Numbered Decl)) :
    (numberedMembers t).map (·.2) = Decl.members (childValues t) := by
  rw [numberedMembers, List.map_filterMap, Decl.members, childValues, List.filterMap_map]
  refine List.filterMap_congr fun c _ => ?_
  cases h : c.label.value.member? <;> simp [h]

theorem map_snd_numberedFunctions (t : Tree (Tree.Numbered Decl)) :
    (numberedFunctions t).map (·.2) = (childValues t).filterMap Decl.function? := by
  rw [numberedFunctions, List.map_filterMap, childValues, List.filterMap_map]
  refine List.filterMap_congr fun c _ => ?_
  cases h : c.label.value.function? <;> simp [h]

section GroupMembers

variable (isRoot : Bool) (group : SchemaObject) (members : List MemberDecl)

/-- A view of declarations that sees none of the data that every class has. -/
def SeesNoData {β : Type} (view : Decl → Option β) : Prop :=
  (∀ e, view (.isSet e) = none) ∧ (∀ n v, view (.metaInfo n v) = none) ∧
    ∀ n type, view (.stored n type) = none

theorem filterMap_groupMembers {β : Type} {view : Decl → Option β} (h : SeesNoData view) :
    (groupMembers isRoot group members).filterMap view =
      (overrides (groupRole isRoot group)).filterMap view
        ++ (if groupRole isRoot group = .gridVariables
            then [Decl.ofMembers (group.elements.map (·.name))] else []).filterMap view
        ++ (members.map Decl.member).filterMap view := by
  have hlogger : (if isRoot then [loggerDecl] else []).filterMap view = [] := by
    cases isRoot with
    | false => rfl
    | true => simp [loggerDecl, h.2.2]
  simp only [groupMembers, List.filterMap_append, hlogger, List.append_nil, List.filterMap_map]
  simp only [Function.comp_def, h.1, h.2.1, List.filterMap_none, List.append_nil]

theorem members_groupMembers : Decl.members (groupMembers isRoot group members) = members := by
  have hview : SeesNoData Decl.member? := ⟨fun _ => rfl, fun _ _ => rfl, fun _ _ => rfl⟩
  have hoverrides : (overrides (groupRole isRoot group)).filterMap Decl.member? = [] := by
    cases groupRole isRoot group <;> rfl
  have hmembers : (members.map Decl.member).filterMap Decl.member? = members := by
    rw [List.filterMap_map]
    exact List.filterMap_some
  rw [Decl.members, filterMap_groupMembers isRoot group members hview, hoverrides, hmembers]
  split <;> rfl

theorem functions_groupMembers :
    (groupMembers isRoot group members).filterMap Decl.function? =
      (overrides (groupRole isRoot group)).filterMap Decl.function? := by
  have hview : SeesNoData Decl.function? := ⟨fun _ => rfl, fun _ _ => rfl, fun _ _ => rfl⟩
  have hmembers : (members.map Decl.member).filterMap Decl.function? = [] := by
    rw [List.filterMap_map]
    exact List.filterMap_none _
  rw [filterMap_groupMembers isRoot group members hview, hmembers, List.append_nil]
  split
  · rw [show [Decl.ofMembers _].filterMap Decl.function? = [] from rfl, List.append_nil]
  · rw [List.filterMap_nil, List.append_nil]

theorem counters_groupMembers :
    (groupMembers isRoot group members).filterMap Decl.counter? =
      if groupRole isRoot group = .gridVariables
      then [group.elements.map (·.name ++ "_index") ++ ["index_count"]] else [] := by
  have hview : SeesNoData Decl.counter? := ⟨fun _ => rfl, fun _ _ => rfl, fun _ _ => rfl⟩
  have hoverrides : (overrides (groupRole isRoot group)).filterMap Decl.counter? = [] := by
    cases groupRole isRoot group <;> rfl
  have hmembers : (members.map Decl.member).filterMap Decl.counter? = [] := by
    rw [List.filterMap_map]
    exact List.filterMap_none _
  rw [filterMap_groupMembers isRoot group members hview, hoverrides, hmembers, List.append_nil,
    List.nil_append]
  split
  · simp [Decl.ofMembers, Decl.counter?, Function.comp_def]
  · rfl

end GroupMembers

/-- A member declares an element of a group: it has its name, and the type that it resolves to. -/
def IsMemberFor (r : TypeExpr.Resolver) (group : SchemaObject) (e : DataElement) (m : MemberDecl) :
    Prop :=
  m.name = e.name ∧ m.required = e.required ∧ r.resolve group e = .ok m.type

/-- Each member declares the element at its place. -/
theorem forall₂_resolveMembers {r : TypeExpr.Resolver} {group : SchemaObject} :
    ∀ {es : List DataElement} {members : List MemberDecl},
      resolveMembers r group es = .ok members → List.Forall₂ (IsMemberFor r group) es members
  | [], members, h => by
    cases h
    exact .nil
  | e :: es, members, h => by
    unfold resolveMembers at h
    cases htype : r.resolve group e with
    | error fault => simp [htype] at h
    | ok type =>
      cases hrest : resolveMembers r group es with
      | error fault => simp [htype, hrest] at h
      | ok rest =>
        simp only [htype, hrest, Except.ok.injEq] at h
        rw [← h]
        exact .cons ⟨rfl, rfl, htype⟩ (forall₂_resolveMembers hrest)

theorem map_name_of_resolveMembers {r : TypeExpr.Resolver} {group : SchemaObject}
    {es : List DataElement} {members : List MemberDecl}
    (h : resolveMembers r group es = .ok members) : members.map (·.name) = es.map (·.name) := by
  have hnames := (forall₂_resolveMembers h).imp fun e m hem => hem.1.symm
  have heq : List.Forall₂ (· = ·) (es.map (·.name)) (members.map (·.name)) :=
    List.forall₂_map_left_iff.mpr (List.forall₂_map_right_iff.mpr hnames)
  rw [List.forall₂_eq_eq_eq] at heq
  exact heq.symm

/-! ## Overloads among finished siblings -/

/-- An overload is no data member. -/
theorem member?_of_mem_overloadLeaves {classes : List ClassView} {id : NodeId}
    {t u : Tree (Tree.Numbered Decl)} (h : u ∈ overloadLeaves classes id t) :
    u.label.value.member? = none := by
  obtain ⟨overload, hdue, rfl⟩ := List.mem_map.mp h
  obtain ⟨-, grid, lookup, rfl⟩ := eq_of_dueOverload (Option.mem_toList.mp hdue)
  rfl

theorem classView?_extend (classes : List ClassView) (id : NodeId)
    (t : Tree (Tree.Numbered Decl)) :
    classView? (t.extend (overloadLeaves classes id t)) = classView? t := by
  have hnone : Decl.members ((overloadLeaves classes id t).map (·.label.value)) = [] := by
    rw [Decl.members, List.filterMap_map, List.filterMap_eq_nil_iff]
    exact fun u hu => member?_of_mem_overloadLeaves hu
  rw [Decl.members] at hnone
  unfold classView?
  rw [Tree.label_extend, Tree.children_extend, List.map_append, Decl.members, Decl.members,
    List.filterMap_append, hnone, List.append_nil]

theorem filterMap_classView?_withOverloads (classes : List ClassView) :
    ∀ (ts : List (Tree (Tree.Numbered Decl))) (next : NodeId),
      (withOverloads classes next ts).filterMap classView? = ts.filterMap classView?
  | [], _ => rfl
  | t :: ts, next => by
    rw [withOverloads, List.filterMap_cons, List.filterMap_cons, classView?_extend,
      filterMap_classView?_withOverloads classes ts]

theorem classView?_of_mem_numberLeaves {s : Schema} {next : NodeId}
    {t : Tree (Tree.Numbered Decl)} (h : t ∈ numberLeaves next (trailingDecls s)) :
    t.label.value.struct? = none := by
  obtain ⟨id, d, hd, rfl⟩ := exists_of_mem_numberLeaves h
  rcases exists_of_mem_trailingDecls hd with htype | ⟨g, -, rfl⟩
  · cases d with
    | typedef | enumeration | enumSerialization => rfl
    | _ => cases htype
  · rfl

/-- **Overloads are due by what the finished scope shows.** -/
theorem filterMap_classView?_scopeTree (s : Schema) (ordered : List (Tree Decl)) :
    (scopeTree s ordered).children.filterMap classView? =
      (Tree.numberAll 1 ordered).1.filterMap classView? := by
  have hnone : (numberLeaves (trailingStart ordered) (trailingDecls s)).filterMap classView? =
      [] := by
    rw [List.filterMap_eq_nil_iff]
    intro t ht
    rw [classView?, classView?_of_mem_numberLeaves ht]
    rfl
  rw [scopeTree, Tree.children_node, List.filterMap_append, hnone, List.append_nil, numberedDecls,
    filterMap_classView?_withOverloads]

/-! ## Where classes come from -/

/-- A class of a schema, and what it declares before it gets an overload. -/
inductive DeclaredAs (c : Catalog) (s : Schema) (o : DeclOptions) :
    StructDecl → List Decl → Prop where
  | group {g : SchemaObject} {members : List MemberDecl} (hg : g ∈ s.groups)
      (hmembers : resolveMembers ⟨c, s⟩ g g.elements = .ok members) :
      DeclaredAs c s o (groupStruct o (g.name = s.rootGroup) g)
        (groupMembers (g.name = s.rootGroup) g members)
  | metadata {m : SchemaObject} (hm : m ∈ s.objectsOfType [.metadata]) :
      DeclaredAs c s o { name := m.name } ((metadataTree m).children.map (·.label))
  | holder (hroot : (s.groupNamed? s.rootGroup).isSome = false) :
      DeclaredAs c s o { name := s.rootGroup } [loggerDecl]

theorem declaredAs_of_mem_unordered {c : Catalog} {s : Schema} {o : DeclOptions}
    {groups : List (Tree Decl)} {headers : List String}
    (h : buildGroups o ⟨c, s⟩ s.rootGroup s.groups = .ok (groups, headers)) {u : Tree Decl}
    (hu : u ∈ leadingTrees s ++ groups) {decl : StructDecl} (hdecl : u.label = .struct decl) :
    DeclaredAs c s o decl (u.children.map (·.label)) := by
  unfold leadingTrees at hu
  simp only [List.mem_append] at hu
  rcases hu with (((htypedef | henum) | hmeta) | hholder) | hgroup
  · obtain ⟨o, -, rfl⟩ := List.mem_map.mp htypedef
    cases hdecl
  · obtain ⟨o, -, rfl⟩ := List.mem_map.mp henum
    cases hdecl
  · obtain ⟨m, hm, rfl⟩ := List.mem_map.mp hmeta
    cases hdecl
    exact .metadata hm
  · unfold loggerHolder at hholder
    split at hholder
    · cases hholder
    next hroot =>
      cases List.mem_singleton.mp hholder
      cases hdecl
      exact .holder (by simpa using hroot)
  · obtain ⟨g, hg, members, hmembers, rfl⟩ :=
      exists_mem_right_of_forall₂ (forall₂_of_buildGroups h) hgroup
    cases hdecl
    have hvalues : (classTree o s.rootGroup g members).children.map (·.label) =
        groupMembers (g.name = s.rootGroup) g members := by
      rw [classTree, Tree.children_node, List.map_map]
      exact List.map_id _
    rw [hvalues]
    exact .group hg hmembers

/-- The overload that finished siblings make due to a class. -/
def overloadsOf (d : Declarations) (decl : StructDecl) : List Decl :=
  (dueOverload? (d.scope.children.filterMap classView?) (.struct decl)).toList

theorem exists_of_mem_overloadsOf {d : Declarations} {decl : StructDecl} {overload : Decl}
    (h : overload ∈ overloadsOf d decl) :
    ∃ grid lookup, overload = performanceOverload grid lookup :=
  (eq_of_dueOverload (Option.mem_toList.mp h)).2

theorem members_append_overloadsOf (d : Declarations) (decl : StructDecl) (values : List Decl) :
    Decl.members (values ++ overloadsOf d decl) = Decl.members values := by
  have hnone : (overloadsOf d decl).filterMap Decl.member? = [] := by
    rw [List.filterMap_eq_nil_iff]
    intro overload hmem
    obtain ⟨grid, lookup, rfl⟩ := exists_of_mem_overloadsOf hmem
    rfl
  rw [Decl.members, List.filterMap_append, hnone, List.append_nil, Decl.members]

theorem forall₂_numberedMembers {r : TypeExpr.Resolver} {d : Declarations} {decl : StructDecl}
    {isRoot : Bool} {group : SchemaObject} {members : List MemberDecl}
    {t : Tree (Tree.Numbered Decl)} (hmembers : resolveMembers r group group.elements = .ok members)
    (hvalues : childValues t = groupMembers isRoot group members ++ overloadsOf d decl) :
    List.Forall₂ (fun e m => IsMemberFor r group e m.2) group.elements (numberedMembers t) := by
  have hsnd : (numberedMembers t).map (·.2) = members := by
    rw [map_snd_numberedMembers, hvalues, members_append_overloadsOf, members_groupMembers]
  have hforall := forall₂_resolveMembers hmembers
  rw [← hsnd] at hforall
  exact List.forall₂_map_right_iff.mp hforall

theorem kind_of_mem_overloadsOf {d : Declarations} {decl : StructDecl} {f : FunctionDecl}
    (h : f ∈ (overloadsOf d decl).filterMap Decl.function?) : f.kind = .performanceOverload := by
  obtain ⟨overload, hmem, hfunction⟩ := List.mem_filterMap.mp h
  obtain ⟨grid, lookup, rfl⟩ := exists_of_mem_overloadsOf hmem
  cases hfunction
  rfl

theorem roleOf_group {o : DeclOptions} {isRoot : Bool} {group : SchemaObject}
    {t : Tree (Tree.Numbered Decl)}
    (hlabel : t.label.value = .struct (groupStruct o isRoot group)) :
    roleOf t = groupRole isRoot group := by
  rw [roleOf, hlabel]
  rfl

/-- A class declares the functions that its role asks for, and the overload due to it. -/
theorem functions_group {o : DeclOptions} {d : Declarations} {isRoot : Bool} {group : SchemaObject}
    {members : List MemberDecl} {t : Tree (Tree.Numbered Decl)}
    (hlabel : t.label.value = .struct (groupStruct o isRoot group))
    (hvalues : childValues t = groupMembers isRoot group members ++
      overloadsOf d (groupStruct o isRoot group)) :
    (numberedFunctions t).map (·.2) = (overrides (roleOf t)).filterMap Decl.function? ++
      (overloadsOf d (groupStruct o isRoot group)).filterMap Decl.function? := by
  rw [map_snd_numberedFunctions, hvalues, List.filterMap_append, functions_groupMembers,
    roleOf_group hlabel]

theorem childValues_extend (classes : List ClassView) (id : NodeId)
    {t : Tree (Tree.Numbered Decl)} {u : Tree Decl} (hmap : t.map (·.value) = u) :
    (t.extend (overloadLeaves classes id t)).label.value = u.label ∧
      childValues (t.extend (overloadLeaves classes id t)) =
        u.children.map (·.label) ++ (dueOverload? classes u.label).toList := by
  have hlabel : t.label.value = u.label := by rw [← hmap, Tree.label_map]
  refine ⟨hlabel, ?_⟩
  rw [childValues, Tree.children_extend, List.map_append, overloadLeaves, hlabel, List.map_map,
    ← hmap, Tree.children_map, List.map_map]
  congr 1
  · exact List.map_congr_left fun c _ => (Tree.label_map _ c).symm
  · exact List.map_id _

/-- **What the classes of a scope are.** -/
theorem class_cases {c : Catalog} {s : Schema} {o : DeclOptions} {d : Declarations}
    (h : (buildDeclarations c s o).result = .ok d) {t : Tree (Tree.Numbered Decl)}
    (ht : t ∈ d.scope.children) {decl : StructDecl} (hdecl : t.label.value = .struct decl) :
    ∃ values, DeclaredAs c s o decl values ∧ childValues t = values ++ overloadsOf d decl := by
  obtain ⟨groups, headers, ordered, hgroups, hordered, rfl⟩ := exists_of_buildDeclarations h
  rcases List.mem_append.mp ht with ht | ht
  · obtain ⟨t', ht', id, rfl⟩ := exists_of_mem_withOverloads ht
    have hmem : t'.map (·.value) ∈ ordered := by
      rw [← map_value_numbered ordered 1]
      exact List.mem_map_of_mem ht'
    obtain ⟨hlabel, hvalues⟩ := childValues_extend
      ((Tree.numberAll 1 ordered).1.filterMap classView?) id (t := t') rfl
    refine ⟨_, declaredAs_of_mem_unordered hgroups ((mem_ordered_iff hordered).mp hmem)
      (hlabel.symm.trans hdecl), hvalues.trans ?_⟩
    rw [overloadsOf, filterMap_classView?_scopeTree, ← hlabel, hdecl]
  · have hnone := classView?_of_mem_numberLeaves ht
    rw [hdecl] at hnone
    cases hnone

/-- Only the classes of groups have data members. -/
theorem exists_group_of_member {c : Catalog} {s : Schema} {o : DeclOptions} {d : Declarations}
    (h : (buildDeclarations c s o).result = .ok d) {t : Tree (Tree.Numbered Decl)}
    (ht : t ∈ d.scope.children) {decl : StructDecl} (hdecl : t.label.value = .struct decl)
    {m : NodeId × MemberDecl} (hm : m ∈ numberedMembers t) :
    ∃ g ∈ s.groups, decl = groupStruct o (g.name = s.rootGroup) g ∧
      List.Forall₂ (fun e m => IsMemberFor ⟨c, s⟩ g e m.2) g.elements (numberedMembers t) := by
  obtain ⟨values, hdeclared, hvalues⟩ := class_cases h ht hdecl
  have hmem : m.2 ∈ Decl.members values := by
    rw [← members_append_overloadsOf d decl values, ← hvalues, ← map_snd_numberedMembers]
    exact List.mem_map_of_mem hm
  cases hdeclared with
  | group hg hmembers => exact ⟨_, hg, rfl, forall₂_numberedMembers hmembers hvalues⟩
  | metadata => cases hmem
  | holder => cases hmem

theorem exists_extended_of_mem_ordered (s : Schema) {ordered : List (Tree Decl)} {u : Tree Decl}
    (hu : u ∈ ordered) :
    ∃ (t : Tree (Tree.Numbered Decl)) (id : NodeId), t.map (·.value) = u ∧
      t.extend (overloadLeaves ((Tree.numberAll 1 ordered).1.filterMap classView?) id t) ∈
        (scopeTree s ordered).children := by
  rw [← map_value_numbered ordered 1] at hu
  obtain ⟨t, ht, rfl⟩ := List.mem_map.mp hu
  obtain ⟨k, hk⟩ := List.getElem?_of_mem ht
  refine ⟨t, (Tree.numberAll 1 ordered).2 + k, rfl, List.mem_append_left _ ?_⟩
  refine List.mem_of_getElem? (i := k) ?_
  rw [numberedDecls, getElem?_withOverloads, hk]
  rfl

/-- **Every group has its class.** -/
theorem exists_groupClass {c : Catalog} {s : Schema} {o : DeclOptions} {d : Declarations}
    (h : (buildDeclarations c s o).result = .ok d) {g : SchemaObject} (hg : g ∈ s.groups) :
    ∃ t ∈ d.scope.children, ∃ members,
      t.label.value = .struct (groupStruct o (g.name = s.rootGroup) g) ∧
      resolveMembers ⟨c, s⟩ g g.elements = .ok members ∧
      childValues t = groupMembers (g.name = s.rootGroup) g members ++
        overloadsOf d (groupStruct o (g.name = s.rootGroup) g) := by
  obtain ⟨groups, headers, ordered, hgroups, hordered, rfl⟩ := exists_of_buildDeclarations h
  obtain ⟨u, hu, members, hmembers, rfl⟩ :=
    exists_mem_left_of_forall₂ (forall₂_of_buildGroups hgroups) hg
  obtain ⟨t, id, hmap, ht⟩ := exists_extended_of_mem_ordered s
    ((mem_ordered_iff hordered).mpr (List.mem_append_right _ hu))
  obtain ⟨hlabel, hvalues⟩ := childValues_extend
    ((Tree.numberAll 1 ordered).1.filterMap classView?) id hmap
  refine ⟨_, ht, members, hlabel, hmembers, hvalues.trans ?_⟩
  rw [overloadsOf, filterMap_classView?_scopeTree, classTree, Tree.children_node, List.map_map,
    Tree.label_node]
  congr 1
  exact List.map_id _

/-! ## Names -/

/-- The name of a class; none for all else. -/
def className? (d : Decl) : Option String :=
  d.struct?.map (·.name)

/-- The names of classes, in the order of their declarations. -/
theorem classNames_scopeTree (s : Schema) (ordered : List (Tree Decl)) :
    (scopeTree s ordered).children.filterMap (className? ·.label.value) =
      ordered.filterMap (className? ·.label) := by
  have hview (ts : List (Tree (Tree.Numbered Decl))) :
      ts.filterMap (className? ·.label.value) = (ts.filterMap classView?).map (·.decl.name) := by
    rw [List.map_filterMap]
    refine List.filterMap_congr fun t _ => ?_
    rw [className?, classView?, Option.map_map]
    rfl
  have hordered := congrArg (List.filterMap (className? ·.label)) (map_value_numbered ordered 1)
  rw [hview, filterMap_classView?_scopeTree, ← hview, ← hordered, List.filterMap_map]
  refine List.filterMap_congr fun t _ => ?_
  rw [Function.comp_apply, Tree.label_map]

theorem classNames_of_forall₂ {o : DeclOptions} {r : TypeExpr.Resolver} {rootGroup : String}
    {gs : List SchemaObject} {ts : List (Tree Decl)}
    (h : List.Forall₂ (IsClassOf o r rootGroup) gs ts) :
    ts.filterMap (className? ·.label) = gs.map (·.name) := by
  induction h with
  | nil => rfl
  | @cons g t gs ts hgt _ ih =>
    obtain ⟨members, -, rfl⟩ := hgt
    rw [List.map_cons, ← ih]
    rfl

/-- Before they are put in order, the classes are those of metadata objects, the holder of the
logger and the groups. -/
theorem classNames_unordered {o : DeclOptions} {r : TypeExpr.Resolver} {s : Schema}
    {groups : List (Tree Decl)} {headers : List String}
    (h : buildGroups o r s.rootGroup s.groups = .ok (groups, headers)) :
    (leadingTrees s ++ groups).filterMap (className? ·.label) =
      (s.objectsOfType [.metadata]).map (·.name)
        ++ (if (s.groupNamed? s.rootGroup).isSome then [] else [s.rootGroup])
        ++ s.groups.map (·.name) := by
  have hholder : (loggerHolder s).filterMap (className? ·.label) =
      if (s.groupNamed? s.rootGroup).isSome then [] else [s.rootGroup] := by
    unfold loggerHolder
    split <;> rfl
  have hmetadata : ((s.objectsOfType [.metadata]).map metadataTree).filterMap
      (className? ·.label) = (s.objectsOfType [.metadata]).map (·.name) := by
    rw [List.filterMap_map]
    exact congrFun List.filterMap_eq_map _
  have hleaves (os : List SchemaObject) (make : SchemaObject → Decl)
      (hmake : ∀ o, className? (make o) = none) :
      (os.map fun o => Tree.leaf (make o)).filterMap (className? ·.label) = [] := by
    rw [List.filterMap_map, List.filterMap_eq_nil_iff]
    exact fun o _ => hmake o
  rw [List.filterMap_append, leadingTrees, List.filterMap_append, List.filterMap_append,
    List.filterMap_append, hleaves _ _ fun _ => rfl, hleaves _ _ fun _ => rfl, hmetadata, hholder,
    classNames_of_forall₂ (forall₂_of_buildGroups h), List.nil_append, List.nil_append]

/-- If no two objects share a name, a group shares its name with no other class. -/
theorem count_groupName {s : Schema} (hnames : (s.objects.map (·.name)).Nodup) {g : SchemaObject}
    (hg : g ∈ s.groups) :
    ((s.objectsOfType [.metadata]).map (·.name)
        ++ (if (s.groupNamed? s.rootGroup).isSome then [] else [s.rootGroup])
        ++ s.groups.map (·.name)).count g.name = 1 := by
  obtain ⟨hobject, hgroup⟩ := List.mem_filter.mp hg
  have hsame {x : SchemaObject} (hx : x ∈ s.objects) (hname : x.name = g.name) : x = g :=
    List.inj_on_of_nodup_map hnames hx hobject hname
  have hmetadata : ((s.objectsOfType [.metadata]).map (·.name)).count g.name = 0 := by
    rw [List.count_eq_zero]
    intro hmem
    obtain ⟨m, hm, hname⟩ := List.mem_map.mp hmem
    obtain ⟨hm, htype⟩ := List.mem_filter.mp hm
    rw [hsame hm hname, List.contains_iff_mem, List.mem_singleton] at htype
    rw [htype] at hgroup
    cases hgroup
  have hholder : (if (s.groupNamed? s.rootGroup).isSome then [] else [s.rootGroup]).count g.name
      = 0 := by
    split
    · rfl
    next hnone =>
      rw [List.count_eq_zero]
      intro hmem
      -- the group would be found under the name of the root group
      have hfound : (s.lookup? s.rootGroup).isSome :=
        List.find?_isSome.mpr ⟨g, hobject, decide_eq_true (List.mem_singleton.mp hmem)⟩
      obtain ⟨x, hx⟩ := Option.isSome_iff_exists.mp hfound
      have hxname : x.name = g.name := by
        rw [List.mem_singleton.mp hmem]
        simpa using List.find?_some hx
      refine hnone (Option.isSome_iff_exists.mpr ⟨x, Option.filter_eq_some_iff.mpr ⟨hx, ?_⟩⟩)
      rw [hsame (List.mem_of_find?_eq_some hx) hxname]
      exact hgroup
  have hgroups : (s.groups.map (·.name)).count g.name = 1 :=
    List.count_eq_one_of_mem ((List.filter_sublist.map _).nodup hnames) (List.mem_map_of_mem hg)
  rw [List.count_append, List.count_append, hmetadata, hholder, hgroups]

theorem exists_filter_of_count {α : Type} {l : List α} {view : α → Option String} {name : String}
    (h : (l.filterMap view).count name = 1) : ∃ a, l.filter (view · = some name) = [a] := by
  rw [List.count_filterMap, List.countP_eq_length_filter] at h
  obtain ⟨a, ha⟩ := List.length_eq_one_iff.mp h
  refine ⟨a, Eq.trans (List.filter_congr fun b _ => ?_) ha⟩
  rw [beq_eq_decide]

/-- Whether a declaration is a class of this name. -/
def isClassNamed (name : String) (t : Tree (Tree.Numbered Decl)) : Bool :=
  className? t.label.value = some name

/-- **Names tell classes apart.** If no two objects of a schema share a name, each group has one
class under its name. -/
theorem exists_filter_isClassNamed {c : Catalog} {s : Schema} {o : DeclOptions} {d : Declarations}
    (h : (buildDeclarations c s o).result = .ok d) (hnames : (s.objects.map (·.name)).Nodup)
    {g : SchemaObject} (hg : g ∈ s.groups) :
    ∃ t, d.scope.children.filter (isClassNamed g.name) = [t] := by
  obtain ⟨groups, headers, ordered, hgroups, hordered, rfl⟩ := exists_of_buildDeclarations h
  have hcount : ((scopeTree s ordered).children.filterMap (className? ·.label.value)).count g.name
      = 1 := by
    have hperm := ((sortedFrom_of_orderTrees hordered).1.filterMap (className? ·.label)).count_eq
      g.name
    rw [classNames_scopeTree, hperm, classNames_unordered hgroups, count_groupName hnames hg]
  exact exists_filter_of_count hcount

theorem classNamed?_eq_find? (children : List (Tree (Tree.Numbered Decl))) (name : String) :
    classNamed? children name = children.reverse.find? (isClassNamed name) := by
  unfold classNamed?
  congr 1
  funext t
  rw [isClassNamed, className?]
  cases t.label.value <;> simp [Decl.struct?]

theorem mem_of_classNamed? {children : List (Tree (Tree.Numbered Decl))} {name : String}
    {t : Tree (Tree.Numbered Decl)} (h : classNamed? children name = some t) :
    t ∈ children ∧ className? t.label.value = some name := by
  rw [classNamed?_eq_find?] at h
  have hname := List.find?_some h
  exact ⟨List.mem_reverse.mp (List.mem_of_find?_eq_some h), of_decide_eq_true hname⟩

theorem classNamed?_eq {children : List (Tree (Tree.Numbered Decl))} {name : String}
    {t : Tree (Tree.Numbered Decl)} (h : children.filter (isClassNamed name) = [t]) :
    classNamed? children name = some t := by
  rw [classNamed?_eq_find?, ← List.head?_filter, List.filter_reverse, h]
  rfl

end SchemaGen
