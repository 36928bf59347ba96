import SchemaGen.Proofs.Catalog.Index
import SchemaGen.Proofs.Declaration.Classes

/-!
# The inventory of a namespace

Seven passes build the namespace of a schema: some add to it, one puts it in order, one goes over it
again and adds to its classes. Between them they could lose a declaration, or make one twice.

They do not. `scope_inventory` says, for every schema whose declarations are built, all that its
namespace has, without numbers: the ordered declarations are those of the objects of the schema, one
each, and what follows them is one entry per enumeration and one per group. `ClassFor` says all that
the class of a group has, in order. Both are written out, and not said in terms of the passes.

The overload that a performance map may get is the only thing that is added to a class after the
order is settled. Before that the ordered declarations are a permutation of what the passes built,
and adding overloads is a map over declarations (`map_value_numberedDecls`), so it stays one.
-/

set_option autoImplicit false

namespace SchemaGen

open SchemaGen.Text (namespaceName dropStart)

/-! ## What there should be -/

/-- The virtual functions that a class of a role overrides. -/
inductive OverrideOf : Role → List Decl → Prop where
  | reads {role : Role} (h : role = .root ∨ role = .performanceMap) :
      OverrideOf role [.function { kind := .override, name := "initialize", returns := "void"
                                   args := ["const nlohmann::json& j"] }]
  | populate {role : Role} (h : role = .gridVariables ∨ role = .lookupVariables) :
      OverrideOf role [.function { kind := .override, name := "populate_performance_map"
                                   returns := "void"
                                   args := ["PerformanceMapBase* performance_map"] }]
  | nothing : OverrideOf .plain []

/-- A class of this role is declared whose name is `suffix` once `stem` is taken off its front. -/
def HasPartner (d : Declarations) (role : Role) (stem suffix : String) : Prop :=
  ∃ t ∈ d.scope.children, ∃ decl, t.label.value = .struct decl ∧ decl.role = role ∧
    dropStart decl.name stem = suffix

/-- What a class gets once all classes are there: one overload if it is a performance map and both
its partners are declared, else nothing. -/
structure OverloadFor (d : Declarations) (name : String) (role : Role) (overloads : List Decl) :
    Prop where
  once : overloads.length ≤ 1
  kind : ∀ v ∈ overloads, ∃ f, v = .function f ∧ f.kind = .performanceOverload
  present_iff : overloads ≠ [] ↔ role = .performanceMap ∧
    HasPartner d .gridVariables "GridVariables" (dropStart name "PerformanceMap") ∧
    HasPartner d .lookupVariables "LookupVariables" (dropStart name "PerformanceMap")

/-- All that the class of a group declares, in order. -/
structure ClassFor (r : TypeExpr.Resolver) (d : Declarations) (g : SchemaObject) (t : Tree Decl) :
    Prop where
  label : ∃ decl, t.label = .struct decl ∧ decl.name = g.name ∧
    decl.role = groupRole (g.name = r.schema.rootGroup) g
  children : ∃ (override : List Decl) (members : List MemberDecl) (overloads : List Decl),
    t.children = (override
      ++ (if g.name = r.schema.rootGroup then [loggerDecl] else [])
      ++ (if groupRole (g.name = r.schema.rootGroup) g = .gridVariables
          then [Decl.counter (g.elements.map (·.name ++ "_index") ++ ["index_count"])] else [])
      ++ members.map Decl.member
      ++ g.elements.map (fun e => Decl.isSet e.name)
      ++ g.elements.map (fun e => Decl.metaInfo (e.name ++ "_units") e.units)
      ++ g.elements.map (fun e => Decl.metaInfo (e.name ++ "_description") e.description)
      ++ g.elements.map (fun e => Decl.metaInfo (e.name ++ "_name") e.name)
      ++ overloads).map .leaf ∧
    OverrideOf (groupRole (g.name = r.schema.rootGroup) g) override ∧
    List.Forall₂ (IsMemberFor r g) g.elements members ∧
    OverloadFor d g.name (groupRole (g.name = r.schema.rootGroup) g) overloads

/-- The JSON strings of an enumeration: the values of the last enumeration of its name, the unknown
one first. -/
def SerializesLast (enums : List SchemaObject) (o : SchemaObject) (v : Decl) : Prop :=
  ∃ before last after, enums = before ++ last :: after ∧ last.name = o.name ∧
    (∀ x ∈ after, x.name ≠ o.name) ∧
    v = .enumSerialization o.name
      (unknownEnumerator :: (last.enumerators.map (·.value)).filter (· ≠ unknownEnumerator))

/-! ## Enumerations -/

theorem serializesLast {enums : List SchemaObject} {o : SchemaObject} (ho : o ∈ enums) :
    SerializesLast enums o (.ofValues o.name (Decl.ofEnumerators
      ((enums.reverse.find? (·.name = o.name)).getD o).name
      ((enums.reverse.find? (·.name = o.name)).getD o).enumerators).values) := by
  cases hfind : enums.reverse.find? (·.name = o.name) with
  | none =>
    have hnot := List.find?_eq_none.mp hfind o (List.mem_reverse.mpr ho)
    exact absurd (decide_eq_true rfl) hnot
  | some last =>
    obtain ⟨hname, after, before, hsplit, hafter⟩ := List.find?_eq_some_iff_append.mp hfind
    refine ⟨before.reverse, last, after.reverse, ?_, of_decide_eq_true hname, ?_, ?_⟩
    · rw [← List.reverse_reverse enums, hsplit]
      simp
    · intro x hx
      simpa using hafter x (List.mem_reverse.mp hx)
    · simp [Decl.ofValues, Decl.ofEnumerators, Decl.values, unknownEnumerator]

theorem forall₂_enumSerializations (s : Schema) :
    List.Forall₂ (SerializesLast (s.objectsOfType [.enumeration])) (s.objectsOfType [.enumeration])
      (enumSerializations s) := by
  unfold enumSerializations
  refine List.forall₂_map_right_iff.mpr (List.forall₂_same.mpr fun o ho => ?_)
  exact serializesLast ho

/-! ## Overloads -/

/-- A declaration with the overload that is due to it. -/
def withDue (classes : List ClassView) (t : Tree Decl) : Tree Decl :=
  t.extend ((dueOverload? classes t.label).toList.map .leaf)

theorem map_value_withOverloads (classes : List ClassView) :
    ∀ (ts : List (Tree (Tree.Numbered Decl))) (next : NodeId),
      (withOverloads classes next ts).map (Tree.map (·.value)) =
        (ts.map (Tree.map (·.value))).map (withDue classes)
  | [], _ => rfl
  | t :: ts, next => by
    rw [withOverloads, List.map_cons, List.map_cons, List.map_cons,
      map_value_withOverloads classes ts, map_value_extend_overloadLeaves]
    rfl

theorem map_value_numberedDecls (ordered : List (Tree Decl)) :
    (numberedDecls ordered).map (Tree.map (·.value)) =
      ordered.map (withDue ((Tree.numberAll 1 ordered).1.filterMap classView?)) := by
  rw [numberedDecls, map_value_withOverloads, map_value_numbered]

/-- What comes before the groups gets no overload. -/
theorem withDue_leadingTrees (classes : List ClassView) (s : Schema) :
    (leadingTrees s).map (withDue classes) = leadingTrees s := by
  refine (List.map_congr_left fun t ht => ?_).trans (List.map_id _)
  have hnone : dueOverload? classes t.label = none := by
    unfold leadingTrees at ht
    simp only [List.mem_append] at ht
    rcases ht with ((ht | ht) | ht) | ht
    · obtain ⟨o, -, rfl⟩ := List.mem_map.mp ht
      rfl
    · obtain ⟨o, -, rfl⟩ := List.mem_map.mp ht
      rfl
    · obtain ⟨o, -, rfl⟩ := List.mem_map.mp ht
      rfl
    · unfold loggerHolder at ht
      split at ht
      · cases ht
      · rw [List.mem_singleton.mp ht]
        rfl
  rw [withDue, hnone]
  exact Tree.extend_nil t

theorem siblingOfRole?_isSome {children : List (Tree (Tree.Numbered Decl))} {role : Role}
    {stem suffix : String} :
    (siblingOfRole? (children.filterMap classView?) role stem suffix).isSome = true ↔
      ∃ t ∈ children, ∃ decl, t.label.value = .struct decl ∧ decl.role = role ∧
        dropStart decl.name stem = suffix := by
  rw [siblingOfRole?, List.find?_isSome]
  constructor
  · rintro ⟨view, hview, hfits⟩
    obtain ⟨t, ht, hview⟩ := List.mem_filterMap.mp hview
    obtain ⟨decl, hdecl, rfl⟩ := Option.map_eq_some_iff.mp hview
    exact ⟨t, ht, decl, Decl.struct?_eq_some.mp hdecl, of_decide_eq_true hfits⟩
  · rintro ⟨t, ht, decl, hdecl, hfits⟩
    have hview : classView? t = some ⟨t.label.id, decl, Decl.members (childValues t)⟩ := by
      rw [classView?, hdecl]
      rfl
    exact ⟨_, List.mem_filterMap.mpr ⟨t, ht, hview⟩, decide_eq_true hfits⟩

theorem dueOverload?_isSome {classes : List ClassView} {decl : StructDecl} :
    (dueOverload? classes (.struct decl)).isSome = true ↔ decl.role = .performanceMap ∧
      (partners classes decl.name).1.isSome = true ∧
      (partners classes decl.name).2.isSome = true := by
  rw [dueOverload?]
  by_cases hrole : decl.role = .performanceMap
  · rw [if_pos hrole]
    cases hpartners : partners classes decl.name with
    | mk grid lookup => cases grid <;> cases lookup <;> simp [hrole]
  · simp [hrole]

/-- What is due to a class is what it should get. -/
theorem overloadFor_overloadsOf (d : Declarations) (decl : StructDecl) :
    OverloadFor d decl.name decl.role (overloadsOf d decl) := by
  refine ⟨Option.length_toList_le, ?_, ?_⟩
  · intro v hv
    obtain ⟨grid, lookup, rfl⟩ := exists_of_mem_overloadsOf hv
    exact ⟨_, rfl, rfl⟩
  · rw [overloadsOf, Ne, Option.toList_eq_nil_iff, ← Ne, Option.ne_none_iff_isSome,
      dueOverload?_isSome, partners, siblingOfRole?_isSome, siblingOfRole?_isSome]
    rfl

/-! ## Groups -/

theorem overrideOf_overrides (role : Role) : OverrideOf role (overrides role) := by
  cases role with
  | plain => exact .nothing
  | root => exact .reads (Or.inl rfl)
  | performanceMap => exact .reads (Or.inr rfl)
  | gridVariables => exact .populate (Or.inl rfl)
  | lookupVariables => exact .populate (Or.inr rfl)

/-- The class that a group gets, with what is added later. -/
theorem classFor_of_isClassOf {o : DeclOptions} {r : TypeExpr.Resolver} {d : Declarations}
    {g : SchemaObject} {t : Tree Decl} (h : IsClassOf o r r.schema.rootGroup g t) :
    ClassFor r d g (withDue (d.scope.children.filterMap classView?) t) := by
  obtain ⟨members, hmembers, rfl⟩ := h
  refine ⟨⟨groupStruct o (g.name = r.schema.rootGroup) g, rfl, rfl, rfl⟩,
    overrides (groupRole (g.name = r.schema.rootGroup) g), members,
    overloadsOf d (groupStruct o (g.name = r.schema.rootGroup) g), ?_, overrideOf_overrides _,
    forall₂_resolveMembers hmembers,
    overloadFor_overloadsOf d (groupStruct o (g.name = r.schema.rootGroup) g)⟩
  rw [withDue, classTree, Tree.children_extend, Tree.children_node, Tree.label_node,
    List.map_append]
  congr 2
  simp [groupMembers, Decl.ofMembers, Function.comp_def]

/-! ## The namespace -/

theorem map_value_numberLeaves (next : NodeId) (ds : List Decl) :
    (numberLeaves next ds).map (Tree.map (·.value)) = ds.map .leaf := by
  have hfst : (numberLeaves next ds).map (Tree.map (·.value)) =
      (ds.zipIdx.map Prod.fst).map Tree.leaf := by
    rw [numberLeaves, List.map_map, List.map_map]
    rfl
  rw [hfst, List.zipIdx_map_fst]

/-- **Nothing lost, nothing invented.** -/
theorem scope_inventory {c : Catalog} {s : Schema} {o : DeclOptions} {d : Declarations}
    (hd : (buildDeclarations c s o).result = .ok d) :
    ∃ declared classes serializations,
      d.scope.map (·.value) = .node (.scope (namespaceName s.name))
        (declared ++ serializations.map .leaf ++ s.groups.map fun g => .leaf (.fromJson g.name)) ∧
      declared.Perm
        ((s.objectsOfType [.stringType]).map (fun x => .leaf (.typedef x.name "std::string"))
          ++ (s.objectsOfType [.enumeration]).map
            (fun x => .leaf (.ofEnumerators x.name x.enumerators))
          ++ (s.objectsOfType [.metadata]).map metadataTree
          ++ (if (s.groupNamed? s.rootGroup).isSome then []
              else [.node (.struct { name := s.rootGroup }) [.leaf loggerDecl]])
          ++ classes) ∧
      List.Forall₂ (SerializesLast (s.objectsOfType [.enumeration]))
        (s.objectsOfType [.enumeration]) serializations ∧
      List.Forall₂ (ClassFor ⟨c, s⟩ d) s.groups classes := by
  obtain ⟨groups, headers, ordered, hgroups, hordered, rfl⟩ := exists_of_buildDeclarations hd
  refine ⟨ordered.map (withDue ((Tree.numberAll 1 ordered).1.filterMap classView?)),
    groups.map (withDue ((Tree.numberAll 1 ordered).1.filterMap classView?)), enumSerializations s,
    ?_, ?_, forall₂_enumSerializations s, ?_⟩
  · rw [scopeTree, Tree.map_node, List.map_append, map_value_numberedDecls, map_value_numberLeaves,
      trailingDecls, List.map_append, List.map_map, List.append_assoc]
    rfl
  · have hperm := (sortedFrom_of_orderTrees hordered).1.map
      (withDue ((Tree.numberAll 1 ordered).1.filterMap classView?))
    rw [List.map_append, withDue_leadingTrees] at hperm
    exact hperm
  · rw [← filterMap_classView?_scopeTree s ordered]
    exact List.forall₂_map_right_iff.mpr
      ((forall₂_of_buildGroups hgroups).imp fun _ _ hclass => classFor_of_isClassOf hclass)

/-- A schema with an object of every kind that has a pass of its own. -/
def mixedSchema : Schema where
  name := "M"
  objects :=
    [{ name := "Label", type := .stringType },
      { name := "Mode", type := .enumeration, enumerators := [{ value := "ON" }] },
      { name := "About", type := .metadata, metadata := { rootDataGroup := "G" } },
      { name := "G", type := .dataGroup
        elements := [{ name := "mode", dataType := "<Mode>", required := true }] }]

/-- Of the six declarations of that schema, four are ordered and two follow them. -/
theorem scope_inventory_mixed :
    ∃ c d classes, (Catalog.build (SchemaSet.loader {}) false mixedSchema).result = .ok c ∧
      (buildDeclarations c mixedSchema {}).result = .ok d ∧ d.scope.children.length = 6 ∧
      List.Forall₂ (ClassFor ⟨c, mixedSchema⟩ d) mixedSchema.groups classes := by
  have hsome : ((Catalog.build (SchemaSet.loader {}) false mixedSchema).result.toOption.bind
      fun c => (buildDeclarations c mixedSchema {}).result.toOption.map (c, ·)).isSome = true := by
    decide +kernel
  obtain ⟨⟨c, d⟩, h⟩ := Option.isSome_iff_exists.mp hsome
  obtain ⟨c, hc, h⟩ := Option.bind_eq_some_iff.mp h
  obtain ⟨d, hd, h⟩ := Option.map_eq_some_iff.mp h
  cases h
  obtain ⟨declared, classes, serializations, hscope, hperm, hserial, hclasses⟩ :=
    scope_inventory (eq_ok_of_toOption hd)
  refine ⟨c, d, classes, eq_ok_of_toOption hc, eq_ok_of_toOption hd, ?_, hclasses⟩
  have hordered : declared.length = 3 + classes.length := by
    rw [hperm.length_eq, List.length_append]
    exact congrArg (· + classes.length) (by decide +kernel)
  have hchildren := congrArg (fun t => t.children.length) hscope
  simp only [Tree.children_map, Tree.children_node, List.length_map, List.length_append]
    at hchildren
  rw [hchildren, hordered, ← hclasses.length_eq, ← hserial.length_eq]
  rfl

end SchemaGen
