import SchemaGen.Proofs.CodeUnit
import SchemaGen.Proofs.Definition.ReadOnce

/-!
# Performance maps agree with their variables

A performance map is evaluated by position: the arguments of its overload are the axes of its grid
variables, and the results fill the fields of its lookup variables' projection. No place refers to
another, so all of them have to list the same members in the same order, or values are swapped
without notice.

They do. `FollowsGrid` says what follows the members of the grid variables, `FollowsLookup` what
follows those of the lookup variables, and `overload_follows_partners` that both hold of every
overload and the two classes that it was made from. These classes are looked for among finished
siblings (`exists_partners`); a class of their roles is always that of a group
(`exists_group_of_role`).
-/

set_option autoImplicit false

namespace SchemaGen

/-- The names of the data members of a class, in order. -/
def memberNames (t : Tree (Tree.Numbered Decl)) : List String :=
  (numberedMembers t).map (·.2.name)

theorem map_name_members (t : Tree (Tree.Numbered Decl)) :
    (Decl.members (childValues t)).map (·.name) = memberNames t := by
  rw [← map_snd_numberedMembers, List.map_map]
  rfl

/-! ## Partners -/

/-- Whether a declaration is the class of this role that goes with a performance map, by name. -/
def isPartner (role : Role) (stem : String) (map t : Tree (Tree.Numbered Decl)) : Bool :=
  roleOf t = role ∧
    Text.dropStart t.label.value.name stem = Text.dropStart map.label.value.name "PerformanceMap"

theorem isPartner_eq {role : Role} (hrole : role ≠ .plain) (stem : String)
    {map : Tree (Tree.Numbered Decl)} {decl : StructDecl} (hmap : map.label.value = .struct decl)
    (t : Tree (Tree.Numbered Decl)) :
    isPartner role stem map t = (classView? t).any fun c =>
      c.decl.role = role ∧ Text.dropStart c.decl.name stem =
        Text.dropStart decl.name "PerformanceMap" := by
  rw [isPartner, roleOf, classView?, hmap]
  cases hvalue : t.label.value with
  | struct decl' => rfl
  | _ => simp [Decl.struct?, hrole.symm]

theorem find?_isPartner {children : List (Tree (Tree.Numbered Decl))} {role : Role}
    (hrole : role ≠ .plain) {stem : String} {map : Tree (Tree.Numbered Decl)} {decl : StructDecl}
    (hmap : map.label.value = .struct decl) {view : ClassView}
    (h : siblingOfRole? (children.filterMap classView?) role stem
      (Text.dropStart decl.name "PerformanceMap") = some view) :
    ∃ t, children.find? (isPartner role stem map) = some t ∧ classView? t = some view := by
  rw [siblingOfRole?, List.find?_filterMap] at h
  obtain ⟨t, ht, hview⟩ := Option.bind_eq_some_iff.mp h
  refine ⟨t, ?_, hview⟩
  rw [← ht]
  congr 1
  funext t'
  exact isPartner_eq hrole stem hmap t'

theorem partners_of_dueOverload {classes : List ClassView} {decl : StructDecl} {overload : Decl}
    (h : dueOverload? classes (.struct decl) = some overload) :
    ∃ grid lookup, partners classes decl.name = (some grid, some lookup) ∧
      overload = performanceOverload grid lookup := by
  rw [dueOverload?] at h
  split at h
  · split at h
    next grid lookup hpartners =>
      cases h
      exact ⟨grid, lookup, hpartners, rfl⟩
    next => cases h
  · cases h

section Overloads

variable {c : Catalog} {s : Schema} {o : DeclOptions} {d : Declarations} {i : Definitions}

/-- A class with a role is that of a group. -/
theorem exists_group_of_role (hd : (buildDeclarations c s o).result = .ok d)
    {t : Tree (Tree.Numbered Decl)} (ht : t ∈ d.scope.children) (hrole : roleOf t ≠ .plain) :
    ∃ g ∈ s.groups, ∃ members,
      t.label.value = .struct (groupStruct o (g.name = s.rootGroup) g) ∧
      resolveMembers ⟨c, s⟩ g g.elements = .ok members ∧
      childValues t = groupMembers (g.name = s.rootGroup) g members ++
        overloadsOf d (groupStruct o (g.name = s.rootGroup) g) := by
  cases hstruct : t.label.value.struct? with
  | none =>
    rw [roleOf, hstruct] at hrole
    exact absurd rfl hrole
  | some decl =>
    have hdecl := Decl.struct?_eq_some.mp hstruct
    rw [roleOf, hstruct] at hrole
    obtain ⟨values, hdeclared, hvalues⟩ := class_cases hd ht hdecl
    cases hdeclared with
    | group hg hmembers => exact ⟨_, hg, _, hdecl, hmembers, hvalues⟩
    | metadata => exact absurd rfl hrole
    | holder => exact absurd rfl hrole

/-- Only performance maps have overloads. -/
theorem overloadsOf_eq_nil {decl : StructDecl} (h : decl.role ≠ .performanceMap) :
    overloadsOf d decl = [] := by
  rw [overloadsOf, dueOverload?, if_neg h]
  rfl

/-- **Where an overload comes from**: it is the one function of its kind in its class, and it was
made from the first partners among the finished siblings. -/
theorem exists_partners (hd : (buildDeclarations c s o).result = .ok d)
    {map : Tree (Tree.Numbered Decl)} (hmap : map ∈ d.scope.children)
    (hrole : roleOf map = .performanceMap) {f : NodeId × FunctionDecl}
    (hf : f ∈ numberedFunctions map) (hkind : f.2.kind = .performanceOverload) :
    (numberedFunctions map).filter (·.2.kind = .performanceOverload) = [f] ∧
    ∃ grid lookup gridView lookupView,
      d.scope.children.find? (isPartner .gridVariables "GridVariables" map) = some grid ∧
      classView? grid = some gridView ∧
      d.scope.children.find? (isPartner .lookupVariables "LookupVariables" map) = some lookup ∧
      classView? lookup = some lookupView ∧
      performanceOverload gridView lookupView = .function f.2 := by
  obtain ⟨g, hg, members, hlabel, hmembers, hvalues⟩ := exists_group_of_role hd hmap
    (by rw [hrole]; exact Role.noConfusion)
  have hfunctions := functions_group hlabel hvalues
  rw [hrole, overloadsOf] at hfunctions
  have hmem : f.2 ∈ (numberedFunctions map).map (·.2) := List.mem_map_of_mem hf
  cases hdue : dueOverload? (d.scope.children.filterMap classView?)
      (.struct (groupStruct o (g.name = s.rootGroup) g)) with
  | none =>
    -- without an overload all that the class declares is its `initialize`
    rw [hfunctions, hdue] at hmem
    rw [List.mem_singleton.mp hmem] at hkind
    cases hkind
  | some overload =>
    obtain ⟨gridView, lookupView, hpartners, rfl⟩ := partners_of_dueOverload hdue
    rw [hdue] at hfunctions
    rw [partners, Prod.mk.injEq] at hpartners
    obtain ⟨grid, hgrid, hgridView⟩ := find?_isPartner (by exact Role.noConfusion) hlabel
      hpartners.1
    obtain ⟨lookup, hlookup, hlookupView⟩ := find?_isPartner (by exact Role.noConfusion) hlabel
      hpartners.2
    have hfilter : ((numberedFunctions map).filter (·.2.kind = .performanceOverload)).map (·.2) =
        ((numberedFunctions map).map (·.2)).filter (·.kind = .performanceOverload) := by
      rw [List.filter_map]
      rfl
    rw [hfunctions] at hfilter
    obtain ⟨f', hf', hoverload⟩ := List.map_eq_singleton_iff.mp (hfilter.trans rfl)
    have hff : f = f' := eq_of_filter_eq_singleton hf' hf (decide_eq_true hkind)
    refine ⟨hff ▸ hf', grid, lookup, gridView, lookupView, hgrid, hgridView, hlookup, hlookupView,
      ?_⟩
    rw [hff, hoverload]
    rfl

/-! ## What follows the variables -/

/-- The one body that enters the variables of a class into a performance map. -/
theorem exists_populateBody (hd : (buildDeclarations c s o).result = .ok d)
    (hi : (buildDefinitions c s.name (d.container.map Prod.fst) d.scope).result = .ok i)
    {t : Tree (Tree.Numbered Decl)} (ht : t ∈ d.scope.children)
    (hrole : roleOf t = .gridVariables ∨ roleOf t = .lookupVariables) :
    ∃ b, (bodies i.tree).filter (isBodyOf t (·.isPopulate)) = [b] ∧
      b.statements = populateStatements t b.decl := by
  obtain ⟨g, hg, members, hlabel, hmembers, hvalues⟩ := exists_group_of_role hd ht
    (by rcases hrole with h | h <;> (rw [h]; exact Role.noConfusion))
  have hnone : overloadsOf d (groupStruct o (g.name = s.rootGroup) g) = [] := by
    refine overloadsOf_eq_nil fun hmap => ?_
    rw [roleOf, hlabel] at hrole
    rcases hrole with h | h <;> cases h.symm.trans hmap
  have hfunctions := functions_group hlabel hvalues
  rw [hnone, List.filterMap_nil, List.append_nil] at hfunctions
  have hsingle : ∃ f, numberedFunctions t = [f] ∧ f.2 =
      { kind := .override, name := "populate_performance_map", returns := "void"
        args := ["PerformanceMapBase* performance_map"] } := by
    rcases hrole with h | h <;>
    · rw [h] at hfunctions
      exact List.map_eq_singleton_iff.mp hfunctions
  obtain ⟨f, hf, hpopulate⟩ := hsingle
  refine ⟨⟨f.1, some t.label.id, populateStatements t f.1⟩,
    filter_isBodyOf hd hi ht hlabel ?_ ?_, rfl⟩
  · rw [hf, List.filter_cons_of_pos (by rw [hpopulate]; rfl), List.filter_nil]
  · rw [memberStatements?, hpopulate]
    rfl

/-- The members of a class are the elements of a group, in order. -/
def ListsElements (s : Schema) (t : Tree (Tree.Numbered Decl)) : Prop :=
  ∃ g ∈ s.groups, g.name = t.label.value.name ∧ memberNames t = g.elements.map (·.name)

/-- What follows the members of grid variables: the arguments of the overload, the counter of the
class and the axes that it enters, which are then closed once. -/
structure FollowsGrid (u : CodeUnit) (i : Definitions) (grid : Tree (Tree.Numbered Decl))
    (f : FunctionDecl) : Prop where
  elements : ListsElements u.schema grid
  argNames : f.argNames = memberNames grid
  args : f.args = (memberNames grid).map ("double " ++ ·) ++ [interpolationArgument]
  counter : (childValues grid).filterMap Decl.counter? =
    [(memberNames grid).map (· ++ "_index") ++ ["index_count"]]
  populate : ∃ b, (bodies i.tree).filter (isBodyOf grid (·.isPopulate)) = [b] ∧
    b.statements = (numberedMembers grid).map (.axis ·.1) ++ [.finalize b.decl]

/-- What follows the members of lookup variables: the result slots that the overload packs, the
fields of the projection as the header prints it, the tables that the class enters, and the counter
that the default registry gives it. -/
structure FollowsLookup (u : CodeUnit) (i : Definitions) (lookup : Tree (Tree.Numbered Decl))
    (f : FunctionDecl) : Prop where
  elements : ListsElements u.schema lookup
  projected : f.lookup = some lookup.label.id
  slots : Defn.overloadSlots u.world.decls f = (numberedMembers lookup).zipIdx.map fun (m, k) =>
    if m.2.type.innerType = "double" then "v[" ++ k.repr ++ "]"
    else "static_cast<" ++ m.2.type.innerType ++ ">(" ++ ("v[" ++ k.repr ++ "]") ++ ")"
  projection : ∃ printed depth, u.world.decls.outline? u.declRoot = some printed ∧
    indented depth (["struct " ++ (lookup.label.value.name ++ "Struct") ++ " \x7b"]
      ++ (numberedMembers lookup).map
        (fun m => "\t" ++ m.2.type.innerType ++ " " ++ m.2.name ++ ";")
      ++ ["\x7d;"]) <:+: declLines printed
  populate : ∃ b, (bodies i.tree).filter (isBodyOf lookup (·.isPopulate)) = [b] ∧
    b.statements = (numberedMembers lookup).map (.table ·.1)
  counter : ∃ u', (u.extend defaultRegistry).result = .ok u' ∧
    (u'.world.decls.childValues lookup.label.id).filterMap Decl.counter? =
      [(memberNames lookup).map (· ++ "_index") ++ ["index_count"]]

theorem memberNames_group {group : SchemaObject} {members : List MemberDecl} {isRoot : Bool}
    {decl : StructDecl} {t : Tree (Tree.Numbered Decl)}
    (hmembers : resolveMembers ⟨c, s⟩ group group.elements = .ok members)
    (hvalues : childValues t = groupMembers isRoot group members ++ overloadsOf d decl) :
    memberNames t = group.elements.map (·.name) := by
  rw [← map_name_members, hvalues, members_append_overloadsOf, members_groupMembers]
  exact map_name_of_resolveMembers hmembers

theorem followsGrid (hd : (buildDeclarations c s o).result = .ok d)
    (hi : (buildDefinitions c s.name (d.container.map Prod.fst) d.scope).result = .ok i)
    {grid : Tree (Tree.Numbered Decl)} (hgrid : grid ∈ d.scope.children)
    (hrole : roleOf grid = .gridVariables) {gridView lookupView : ClassView}
    (hview : classView? grid = some gridView) {f : FunctionDecl}
    (hf : performanceOverload gridView lookupView = .function f) :
    FollowsGrid (.ofTrees s d i) i grid f := by
  obtain ⟨g, hg, members, hlabel, hmembers, hvalues⟩ := exists_group_of_role hd hgrid
    (by rw [hrole]; exact Role.noConfusion)
  have hnames := memberNames_group hmembers hvalues
  obtain ⟨decl, -, rfl⟩ := Option.map_eq_some_iff.mp hview
  have hargNames : f.argNames = memberNames grid := by
    rw [← map_name_members, childValues]
    cases hf
    rfl
  refine ⟨⟨g, hg, by rw [hlabel]; rfl, hnames⟩, hargNames, ?_, ?_, ?_⟩
  · rw [← hargNames]
    cases hf
    rfl
  · have hgroupRole : groupRole (g.name = s.rootGroup) g = .gridVariables := by
      rw [← hrole, roleOf_group hlabel]
    rw [hvalues, List.filterMap_append, counters_groupMembers, if_pos hgroupRole,
      overloadsOf_eq_nil (by rw [groupStruct, hgroupRole]; exact Role.noConfusion), hnames,
      List.map_map]
    rfl
  · obtain ⟨b, hb, hstatements⟩ := exists_populateBody hd hi hgrid (Or.inl hrole)
    refine ⟨b, hb, hstatements.trans ?_⟩
    rw [populateStatements, hrole]

theorem overloadSlots_ofTrees (hd : (buildDeclarations c s o).result = .ok d) (i : Definitions)
    {lookup : Tree (Tree.Numbered Decl)} (hlookup : lookup ∈ d.scope.children) {f : FunctionDecl}
    (hprojected : f.lookup = some lookup.label.id) :
    Defn.overloadSlots (CodeUnit.ofTrees s d i).world.decls f =
      Defn.slots ((numberedMembers lookup).map (·.2)) := by
  rw [Defn.overloadSlots, hprojected]
  dsimp only
  rw [membersOf, (shows_child hd i hlookup).values_children, map_snd_numberedMembers]
  rfl

/-- A class of lookup variables has no counter but the one that the default registry adds. -/
theorem counters_defaultRegistry (hd : (buildDeclarations c s o).result = .ok d) (i : Definitions)
    {lookup : Tree (Tree.Numbered Decl)} (hlookup : lookup ∈ d.scope.children)
    (hclass : isLookupClass lookup.label.value = true)
    (hnone : (childValues lookup).filterMap Decl.counter? = []) :
    ∃ u, ((CodeUnit.ofTrees s d i).extend defaultRegistry).result = .ok u ∧
      (u.world.decls.childValues lookup.label.id).filterMap Decl.counter? =
        [(memberNames lookup).map (· ++ "_index") ++ ["index_count"]] := by
  obtain ⟨u, hu, hadded⟩ := childValues_defaultRegistry hd i
  refine ⟨u, hu, ?_⟩
  rw [hadded lookup hlookup, if_pos hclass, List.filterMap_append, hnone]
  rfl

theorem followsLookup (hd : (buildDeclarations c s o).result = .ok d)
    (hi : (buildDefinitions c s.name (d.container.map Prod.fst) d.scope).result = .ok i)
    {lookup : Tree (Tree.Numbered Decl)} (hlookup : lookup ∈ d.scope.children)
    (hrole : roleOf lookup = .lookupVariables) {gridView lookupView : ClassView}
    (hview : classView? lookup = some lookupView) {f : FunctionDecl}
    (hf : performanceOverload gridView lookupView = .function f) :
    FollowsLookup (.ofTrees s d i) i lookup f := by
  obtain ⟨g, hg, members, hlabel, hmembers, hvalues⟩ := exists_group_of_role hd hlookup
    (by rw [hrole]; exact Role.noConfusion)
  have hgroupRole : groupRole (g.name = s.rootGroup) g = .lookupVariables := by
    rw [← hrole, roleOf_group hlabel]
  have hprojected : f.lookup = some lookup.label.id := by
    obtain ⟨decl, -, rfl⟩ := Option.map_eq_some_iff.mp hview
    cases hf
    rfl
  refine ⟨⟨g, hg, by rw [hlabel]; rfl, memberNames_group hmembers hvalues⟩, hprojected, ?_, ?_, ?_,
    ?_⟩
  · rw [overloadSlots_ofTrees hd i hlookup hprojected, Defn.slots, List.zipIdx_map, List.map_map]
    rfl
  · have hinfix := (projectionLines_within hlabel (CodeUnit.ofTrees s d i).world.decls).trans
      (declLines_within_header hd _ hlookup)
    have hisLookup : (groupStruct o (g.name = s.rootGroup) g).isLookup = true :=
      decide_eq_true hgroupRole
    rw [Decl.projectionLines, if_pos hisLookup, List.map_map] at hinfix
    rw [hlabel]
    exact ⟨_, _, outline?_ofTrees hd i, hinfix⟩
  · obtain ⟨b, hb, hstatements⟩ := exists_populateBody hd hi hlookup (Or.inr hrole)
    refine ⟨b, hb, hstatements.trans ?_⟩
    rw [populateStatements, hrole]
  · refine counters_defaultRegistry hd i hlookup ?_ ?_
    · rw [hlabel]
      exact decide_eq_true hgroupRole
    · rw [hvalues, List.filterMap_append, counters_groupMembers,
        if_neg (by rw [hgroupRole]; exact Role.noConfusion),
        overloadsOf_eq_nil (by rw [groupStruct, hgroupRole]; exact Role.noConfusion)]
      rfl

/-- **Performance maps agree with their variables, by position.** An overload of a performance map
has one body, and it has two classes next to it, the first ones that its name fits: grid variables,
whose members its arguments follow, and lookup variables, whose members its results follow. -/
theorem overload_follows_partners (hd : (buildDeclarations c s o).result = .ok d)
    (hi : (buildDefinitions c s.name (d.container.map Prod.fst) d.scope).result = .ok i)
    {map : Tree (Tree.Numbered Decl)} (hmap : map ∈ d.scope.children)
    (hrole : roleOf map = .performanceMap) {f : NodeId × FunctionDecl}
    (hf : f ∈ numberedFunctions map) (hkind : f.2.kind = .performanceOverload) :
    (bodies i.tree).filter (isBodyOf map (·.kind = .performanceOverload)) =
      [⟨f.1, some map.label.id, [.overloadBody f.1 "s", .giveBack (some f.1) "s"]⟩] ∧
    ∃ grid lookup,
      d.scope.children.find? (isPartner .gridVariables "GridVariables" map) = some grid ∧
      d.scope.children.find? (isPartner .lookupVariables "LookupVariables" map) = some lookup ∧
      FollowsGrid (.ofTrees s d i) i grid f.2 ∧ FollowsLookup (.ofTrees s d i) i lookup f.2 := by
  obtain ⟨hone, grid, lookup, gridView, lookupView, hgrid, hgridView, hlookup, hlookupView,
    hoverload⟩ := exists_partners hd hmap hrole hf hkind
  have hpartner {role : Role} {stem : String} {t : Tree (Tree.Numbered Decl)}
      (h : d.scope.children.find? (isPartner role stem map) = some t) : roleOf t = role := by
    have hfound := List.find?_some h
    exact (of_decide_eq_true hfound).1
  refine ⟨?_, grid, lookup, hgrid, hlookup, ?_, ?_⟩
  · obtain ⟨g, -, -, hlabel, -⟩ := exists_group_of_role hd hmap
      (by rw [hrole]; exact Role.noConfusion)
    refine filter_isBodyOf hd hi hmap hlabel hone ?_
    simp [memberStatements?, FunctionDecl.isInitialize, FunctionDecl.isPopulate, hkind]
  · exact followsGrid hd hi (List.mem_of_find?_eq_some hgrid) (hpartner hgrid) hgridView hoverload
  · exact followsLookup hd hi (List.mem_of_find?_eq_some hlookup) (hpartner hlookup) hlookupView
      hoverload

end Overloads

/-! ## A performance map -/

/-- A performance map with two grid variables and two lookup variables, one of them no number of
the kind that results are. -/
def coolingSchema : Schema where
  name := "C"
  objects :=
    [{ name := "Numeric", type := .dataType }, { name := "Integer", type := .dataType },
      { name := "PerformanceMapCooling", type := .performanceMap
        elements :=
          [{ name := "grid_variables", dataType := "\x7bGridVariablesCooling\x7d" },
            { name := "lookup_variables", dataType := "\x7bLookupVariablesCooling\x7d" }] },
      { name := "GridVariablesCooling", type := .gridVariables
        elements :=
          [{ name := "a", dataType := "[Numeric]" }, { name := "b", dataType := "[Numeric]" }] },
      { name := "LookupVariablesCooling", type := .lookupVariables
        elements :=
          [{ name := "p", dataType := "[Numeric]" }, { name := "q", dataType := "[Integer]" }] }]

/-- The arguments of the overloads of performance maps. -/
def overloadArgNames (d : Declarations) : List (List String) :=
  (d.scope.children.filter (roleOf · = .performanceMap)).flatMap fun map =>
    ((numberedFunctions map).filter (·.2.kind = .performanceOverload)).map (·.2.argNames)

/-- The overload of that performance map has the arguments `a` and `b`, as its grid variables have
members. -/
theorem overload_follows_partners_cooling :
    ∃ c d i map f grid lookup, translation? coolingSchema = some (c, d, i) ∧
      map ∈ d.scope.children ∧ f ∈ numberedFunctions map ∧
      f.2.kind = .performanceOverload ∧ memberNames grid = ["a", "b"] ∧
      FollowsGrid (.ofTrees coolingSchema d i) i grid f.2 ∧
      FollowsLookup (.ofTrees coolingSchema d i) i lookup f.2 := by
  have hnames : (translation? coolingSchema).map (fun r => overloadArgNames r.2.1) =
      some [["a", "b"]] := by
    decide +kernel
  obtain ⟨⟨c, d, i⟩, htranslation, hnames⟩ := Option.map_eq_some_iff.mp hnames
  obtain ⟨-, hd, hi⟩ := of_translation? htranslation
  have hmem : ["a", "b"] ∈ overloadArgNames d := by
    rw [hnames]
    exact List.mem_singleton_self _
  obtain ⟨map, hmap, hmem⟩ := List.mem_flatMap.mp hmem
  obtain ⟨hmap, hrole⟩ := List.mem_filter.mp hmap
  obtain ⟨f, hf, hargs⟩ := List.mem_map.mp hmem
  obtain ⟨hf, hkind⟩ := List.mem_filter.mp hf
  obtain ⟨-, grid, lookup, -, -, hgrid, hlookup⟩ := overload_follows_partners hd hi hmap
    (of_decide_eq_true hrole) hf (of_decide_eq_true hkind)
  exact ⟨c, d, i, map, f, grid, lookup, htranslation, hmap, hf, of_decide_eq_true hkind,
    hgrid.argNames.symm.trans hargs, hgrid, hlookup⟩

end SchemaGen
