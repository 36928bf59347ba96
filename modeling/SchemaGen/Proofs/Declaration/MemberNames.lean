import Mathlib.Data.List.Nodup
import SchemaGen.Plugin.Builtin
import SchemaGen.Proofs.Catalog.Index
import SchemaGen.Proofs.CodeUnit
import SchemaGen.Proofs.Declaration.Classes

/-!
# The names of members

A class has a member for each data element, under the element's own name, and around these further
members with names of three kinds: those that come with its role, those that are made of an
element's name and a suffix, and the enumerants of its counter. They all share one scope.

The further members never get in each other's way (`nodup_furtherNames`): no suffix ends in another,
and no name that comes with a role ends in a suffix. What an element is called is up to the schema,
and nothing keeps it from the names of further members. So that is what it comes to: a class
declares no name twice just if none of its elements is called like a further member
(`member_names_nodup_iff`).
-/

set_option autoImplicit false

namespace SchemaGen

/-! ## Names in the scope of a class -/

/-- The names that a declaration puts into the scope of its class. A counter has no name of its own,
and its enumerants are names like any other. -/
def Decl.namesInClass : Decl → List String
  | .counter enumerants => enumerants
  | d => [d.name]

/-- The names of all that a class declares. -/
def declaredNames (ds : List Decl) : List String :=
  ds.flatMap Decl.namesInClass

/-- The names that come with a role: the function that a class overrides and the logger of the root
class. -/
def roleNames : Role → List String
  | .root => ["initialize", "logger"]
  | .performanceMap => ["initialize"]
  | .gridVariables | .lookupVariables => ["populate_performance_map"]
  | .plain => []

/-- The names that do not depend on what the elements are called. -/
def fixedNames (role : Role) (counted overloaded : Bool) : List String :=
  roleNames role ++ (if counted then ["index_count"] else [])
    ++ (if overloaded then ["calculate_performance"] else [])

/-- What is put behind the name of each element. -/
def nameSuffixes (counted : Bool) : List String :=
  (if counted then ["_index"] else []) ++ ["_is_set", "_units", "_description", "_name"]

/-- The names of all members of a class but those that are its data elements. -/
def furtherNames (role : Role) (counted overloaded : Bool) (elements : List String) : List String :=
  fixedNames role counted overloaded
    ++ (nameSuffixes counted).flatMap fun suffix => elements.map (· ++ suffix)

/-- No element is called like a further member of its class. -/
structure NamesFree (role : Role) (counted overloaded : Bool) (elements : List String) : Prop where
  fixed : ∀ e ∈ elements, e ∉ fixedNames role counted overloaded
  suffixed : ∀ e ∈ elements, ∀ e' ∈ elements, ∀ suffix ∈ nameSuffixes counted, e ≠ e' ++ suffix

theorem namesFree_iff {role : Role} {counted overloaded : Bool} {elements : List String} :
    NamesFree role counted overloaded elements ↔
      ∀ e ∈ elements, e ∉ furtherNames role counted overloaded elements := by
  constructor
  · intro h e he hmem
    rcases List.mem_append.mp hmem with hfixed | hsuffixed
    · exact h.fixed e he hfixed
    · obtain ⟨suffix, hsuffix, hmem⟩ := List.mem_flatMap.mp hsuffixed
      obtain ⟨e', he', heq⟩ := List.mem_map.mp hmem
      exact h.suffixed e he e' he' suffix hsuffix heq.symm
  · intro h
    refine ⟨fun e he hfixed => h e he (List.mem_append_left _ hfixed), ?_⟩
    rintro e he e' he' suffix hsuffix rfl
    exact h _ he (List.mem_append_right _
      (List.mem_flatMap.mpr ⟨suffix, hsuffix, List.mem_map_of_mem he'⟩))

/-! ## Further members -/

/-- No suffix ends in another. -/
theorem nameSuffixes_apart : ∀ counted, ∀ suffix ∈ nameSuffixes counted,
    ∀ suffix' ∈ nameSuffixes counted, suffix.toList <:+ suffix'.toList → suffix = suffix' := by
  decide

theorem nodup_nameSuffixes : ∀ counted, (nameSuffixes counted).Nodup := by
  decide

theorem nodup_fixedNames :
    ∀ role counted overloaded, (fixedNames role counted overloaded).Nodup := by
  intro role
  cases role <;> decide

/-- No name that comes with a class ends in a suffix. -/
theorem fixedNames_apart : ∀ role counted overloaded, ∀ name ∈ fixedNames role counted overloaded,
    ∀ suffix ∈ nameSuffixes counted, ¬ suffix.toList <:+ name.toList := by
  intro role
  cases role <;> decide

theorem suffix_of_eq_append {e suffix name : String} (h : e ++ suffix = name) :
    suffix.toList <:+ name.toList := by
  rw [← h, String.toList_append]
  exact List.suffix_append _ _

/-- Names with different suffixes differ. -/
theorem eq_of_append_suffix {counted : Bool} {e e' suffix suffix' : String}
    (hsuffix : suffix ∈ nameSuffixes counted) (hsuffix' : suffix' ∈ nameSuffixes counted)
    (h : e ++ suffix = e' ++ suffix') : suffix = suffix' := by
  have hends := suffix_of_eq_append h
  have hends' := suffix_of_eq_append (rfl : e' ++ suffix' = e' ++ suffix')
  rcases List.suffix_or_suffix_of_suffix hends hends' with hboth | hboth
  · exact nameSuffixes_apart counted suffix hsuffix suffix' hsuffix' hboth
  · exact (nameSuffixes_apart counted suffix' hsuffix' suffix hsuffix hboth).symm

theorem nodup_suffixed (counted : Bool) {elements : List String} (h : elements.Nodup) :
    ((nameSuffixes counted).flatMap fun suffix => elements.map (· ++ suffix)).Nodup := by
  rw [List.nodup_flatMap]
  constructor
  · exact fun suffix _ => h.map fun e e' heq => String.append_left_inj suffix |>.mp heq
  · refine (nodup_nameSuffixes counted).imp_of_mem ?_
    intro suffix suffix' hsuffix hsuffix' hne name hname hname'
    obtain ⟨e, -, rfl⟩ := List.mem_map.mp hname
    obtain ⟨e', -, heq⟩ := List.mem_map.mp hname'
    exact hne (eq_of_append_suffix hsuffix' hsuffix heq).symm

/-- **Further members never share a name**, as long as the elements do not. -/
theorem nodup_furtherNames (role : Role) (counted overloaded : Bool) {elements : List String}
    (h : elements.Nodup) : (furtherNames role counted overloaded elements).Nodup := by
  refine List.nodup_append'.mpr
    ⟨nodup_fixedNames role counted overloaded, nodup_suffixed counted h, ?_⟩
  intro name hfixed hsuffixed
  obtain ⟨suffix, hsuffix, hmem⟩ := List.mem_flatMap.mp hsuffixed
  obtain ⟨e, -, heq⟩ := List.mem_map.mp hmem
  exact fixedNames_apart role counted overloaded name hfixed suffix hsuffix
    (suffix_of_eq_append heq)

/-- A class declares no name twice just if no element is called like a further member. -/
theorem nodup_iff_namesFree {role : Role} {counted overloaded : Bool}
    {names elements : List String} (h : elements.Nodup)
    (hperm : names.Perm (elements ++ furtherNames role counted overloaded elements)) :
    names.Nodup ↔ NamesFree role counted overloaded elements := by
  rw [hperm.nodup_iff, List.nodup_append', namesFree_iff]
  exact ⟨fun hall e he hmem => hall.2.2 he hmem,
    fun hfree => ⟨h, nodup_furtherNames role counted overloaded h, fun e he hmem =>
      hfree e he hmem⟩⟩

/-! ## What a class declares -/

theorem declaredNames_append (ds ds' : List Decl) :
    declaredNames (ds ++ ds') = declaredNames ds ++ declaredNames ds' :=
  List.flatMap_append

theorem declaredNames_map {α : Type} {make : α → Decl} {name : α → String} (as : List α)
    (h : ∀ a, (make a).namesInClass = [name a]) : declaredNames (as.map make) = as.map name := by
  rw [declaredNames, List.flatMap_map, List.map_eq_flatMap]
  exact List.flatMap_congr fun a _ => h a

/-- A counter, where there is one. -/
theorem declaredNames_counter (counted : Bool) (elements : List String) :
    declaredNames (if counted then [Decl.ofMembers elements] else []) =
      if counted then elements.map (· ++ "_index") ++ ["index_count"] else [] := by
  cases counted with
  | true => simp [declaredNames, Decl.ofMembers, Decl.namesInClass]
  | false => rfl

/-- The root role comes with being the root group. -/
theorem declaredNames_role (isRoot : Bool) (group : SchemaObject) :
    declaredNames (overrides (groupRole isRoot group)) ++
      declaredNames (if isRoot then [loggerDecl] else []) = roleNames (groupRole isRoot group) := by
  cases isRoot with
  | true => rfl
  | false => cases htype : group.type <;> simp [groupRole, htype, ObjectType.role] <;> rfl

theorem declaredNames_overloadsOf (d : Declarations) (decl : StructDecl) :
    declaredNames (overloadsOf d decl) =
      if (overloadsOf d decl).isEmpty then [] else ["calculate_performance"] := by
  unfold overloadsOf
  cases hdue : dueOverload? (d.scope.children.filterMap classView?) (.struct decl) with
  | none => rfl
  | some overload =>
    obtain ⟨-, grid, lookup, rfl⟩ := eq_of_dueOverload hdue
    rfl

theorem declaredNames_groupMembers {isRoot : Bool} {group : SchemaObject}
    {members : List MemberDecl} {elements : List String} (hmembers : members.map (·.name) = elements)
    (helements : group.elements.map (·.name) = elements) :
    declaredNames (groupMembers isRoot group members) =
      roleNames (groupRole isRoot group)
        ++ (if decide (groupRole isRoot group = .gridVariables)
            then elements.map (· ++ "_index") ++ ["index_count"] else [])
        ++ elements ++ elements.map (· ++ "_is_set") ++ elements.map (· ++ "_units")
        ++ elements.map (· ++ "_description") ++ elements.map (· ++ "_name") := by
  have hcounter := declaredNames_counter (groupRole isRoot group = .gridVariables) elements
  simp only [decide_eq_true_eq] at hcounter ⊢
  have hdata : declaredNames (members.map .member) = elements := by
    rw [declaredNames_map members fun m => rfl, ← hmembers]
    rfl
  have hsuffixed (make : DataElement → Decl) (suffix : String)
      (hmake : ∀ e, (make e).namesInClass = [e.name ++ suffix]) :
      declaredNames (group.elements.map make) = elements.map (· ++ suffix) := by
    rw [declaredNames_map group.elements hmake, ← helements, List.map_map]
    rfl
  simp only [groupMembers, declaredNames_append, declaredNames_role, helements, hcounter, hdata]
  rw [hsuffixed _ "_is_set" fun e => rfl, hsuffixed _ "_units" fun e => rfl,
    hsuffixed _ "_description" fun e => rfl, hsuffixed _ "_name" fun e => rfl]

/-- **The names in the class of a group**, when a counter may have been added behind its overload:
those of its elements and those of its further members. -/
theorem declaredNames_group (isRoot added : Bool) {group : SchemaObject} {members : List MemberDecl}
    {elements : List String} (hmembers : members.map (·.name) = elements)
    (helements : group.elements.map (·.name) = elements) (d : Declarations) (decl : StructDecl)
    (hadded : added = true → groupRole isRoot group ≠ .gridVariables) :
    (declaredNames (groupMembers isRoot group members ++ overloadsOf d decl ++
        if added then [Decl.ofMembers elements] else [])).Perm
      (elements ++ furtherNames (groupRole isRoot group)
        (groupRole isRoot group = .gridVariables || added)
        (!(overloadsOf d decl).isEmpty) elements) := by
  rw [declaredNames_append, declaredNames_append, declaredNames_groupMembers hmembers helements,
    declaredNames_overloadsOf, declaredNames_counter, furtherNames, fixedNames, nameSuffixes]
  -- the same lists in another order, of which one counter at most is there
  have hone : ¬ (decide (groupRole isRoot group = .gridVariables) = true ∧ added = true) :=
    fun h => hadded h.2 (of_decide_eq_true h.1)
  generalize decide (groupRole isRoot group = .gridVariables) = counted at hone ⊢
  refine List.perm_iff_count.mpr fun name => ?_
  cases counted <;> cases added <;> cases (overloadsOf d decl).isEmpty <;>
    simp [List.count_append, List.count_cons] at hone ⊢ <;> omega

/-! ## Classes of groups -/

/-- Whether a class gets an overload. -/
def isOverloaded (d : Declarations) (decl : StructDecl) : Bool :=
  !(overloadsOf d decl).isEmpty

section Built

variable {c : Catalog} {s : Schema} {o : DeclOptions} {d : Declarations} {g : SchemaObject}

/-- **No name is declared twice in a class, exactly if no element is called like a further member.**
Every group has a class with a member for each element; its other members have names of their own,
so two members share a name only if one of them is an element. -/
theorem member_names_nodup_iff (hd : (buildDeclarations c s o).result = .ok d) (hg : g ∈ s.groups)
    (hdistinct : (g.elements.map (·.name)).Nodup) :
    ∃ t ∈ d.scope.children, ∃ decl, t.label.value = .struct decl ∧ decl.name = g.name ∧
      decl.role = groupRole (g.name = s.rootGroup) g ∧
      List.Forall₂ (fun e m => IsMemberFor ⟨c, s⟩ g e m.2) g.elements (numberedMembers t) ∧
      (declaredNames (childValues t)).Perm (g.elements.map (·.name) ++
        furtherNames decl.role (decl.role = .gridVariables) (isOverloaded d decl)
          (g.elements.map (·.name))) ∧
      (furtherNames decl.role (decl.role = .gridVariables) (isOverloaded d decl)
        (g.elements.map (·.name))).Nodup ∧
      ((declaredNames (childValues t)).Nodup ↔
        NamesFree decl.role (decl.role = .gridVariables) (isOverloaded d decl)
          (g.elements.map (·.name))) := by
  obtain ⟨t, ht, members, hlabel, hmembers, hvalues⟩ := exists_groupClass hd hg
  have hperm := declaredNames_group (g.name = s.rootGroup) false
    (map_name_of_resolveMembers hmembers) rfl d (groupStruct o (g.name = s.rootGroup) g)
    (fun h => absurd h Bool.false_ne_true)
  rw [if_neg Bool.false_ne_true, List.append_nil, ← hvalues, Bool.or_false] at hperm
  exact ⟨t, ht, _, hlabel, rfl, rfl, forall₂_numberedMembers hmembers hvalues, hperm,
    nodup_furtherNames _ _ _ hdistinct, nodup_iff_namesFree hdistinct hperm⟩

/-- With the plugins that are always registered, classes of lookup variables count their members,
too, and again that is all that can go wrong. -/
theorem member_names_nodup_iff_extended (hd : (buildDeclarations c s o).result = .ok d)
    (i : Definitions) (hg : g ∈ s.groups) (hdistinct : (g.elements.map (·.name)).Nodup) :
    ∃ u, ((CodeUnit.ofTrees s d i).extend defaultRegistry).result = .ok u ∧
      ∃ t ∈ d.scope.children, ∃ decl, t.label.value = .struct decl ∧ decl.name = g.name ∧
        decl.role = groupRole (g.name = s.rootGroup) g ∧
        ((declaredNames (u.world.decls.childValues t.label.id)).Nodup ↔
          NamesFree decl.role (decl.role = .gridVariables || decl.role = .lookupVariables)
            (isOverloaded d decl) (g.elements.map (·.name))) := by
  obtain ⟨u, hu, hadded⟩ := childValues_defaultRegistry hd i
  obtain ⟨t, ht, members, hlabel, hmembers, hvalues⟩ := exists_groupClass hd hg
  have hnames := map_name_of_resolveMembers hmembers
  have hcounted : (numberedMembers t).map (·.2.name) = g.elements.map (·.name) := by
    rw [← hnames, ← members_groupMembers (g.name = s.rootGroup) g members,
      ← members_append_overloadsOf d (groupStruct o (g.name = s.rootGroup) g), ← hvalues,
      ← map_snd_numberedMembers, List.map_map]
    rfl
  have hlookup : isLookupClass t.label.value =
      decide (groupRole (g.name = s.rootGroup) g = .lookupVariables) := by
    rw [isLookupClass, hlabel]
    rfl
  have hperm := declaredNames_group (g.name = s.rootGroup)
    (groupRole (g.name = s.rootGroup) g = .lookupVariables) hnames rfl d
    (groupStruct o (g.name = s.rootGroup) g) (fun h => by rw [of_decide_eq_true h]; decide)
  rw [← hvalues, ← hlookup, ← hcounted, ← hadded t ht, hcounted, hlookup] at hperm
  exact ⟨u, hu, t, ht, _, hlabel, rfl, rfl, nodup_iff_namesFree hdistinct hperm⟩

end Built

/-! ### Two groups -/

/-- Grid variables with names that go together. -/
def clearGroup : SchemaObject where
  name := "Clear"
  type := .gridVariables
  elements := [{ name := "a", dataType := "Integer" }, { name := "b", dataType := "Integer" }]

/-- A group with an element that is called like the units of another. -/
def clashingGroup : SchemaObject where
  name := "Clash"
  type := .dataGroup
  elements := [{ name := "a", dataType := "Integer" }, { name := "a_units", dataType := "Integer" }]

/-- A schema with both. -/
def namedSchema : Schema where
  name := "S"
  objects := [{ name := "Integer", type := .dataType }, clearGroup, clashingGroup]

theorem exists_declarations_named : ∃ c d,
    (Catalog.build (SchemaSet.loader {}) false namedSchema).result = .ok c ∧
      (buildDeclarations c namedSchema {}).result = .ok d ∧
      d.scope.children.any (fun t => (t.label.value.struct?.map (·.name)) = some "Clash" ∧
        (Decl.members (childValues t)).map (·.name) = ["a", "a_units"] ∧
        ¬ (declaredNames (childValues t)).Nodup) = true := by
  have hview : ((Catalog.build (SchemaSet.loader {}) false namedSchema).result.toOption.bind
      fun c => (buildDeclarations c namedSchema {}).result.toOption.map fun d =>
        d.scope.children.any fun t => (t.label.value.struct?.map (·.name)) = some "Clash" ∧
          (Decl.members (childValues t)).map (·.name) = ["a", "a_units"] ∧
          ¬ (declaredNames (childValues t)).Nodup) = some true := by
    decide +kernel
  obtain ⟨c, hc, hview⟩ := Option.bind_eq_some_iff.mp hview
  obtain ⟨d, hd, hview⟩ := Option.map_eq_some_iff.mp hview
  exact ⟨c, d, eq_ok_of_toOption hc, eq_ok_of_toOption hd, hview⟩

theorem member_names_nodup_clear : ∃ c d,
    (Catalog.build (SchemaSet.loader {}) false namedSchema).result = .ok c ∧
      (buildDeclarations c namedSchema {}).result = .ok d ∧ clearGroup ∈ namedSchema.groups ∧
      (clearGroup.elements.map (·.name)).Nodup ∧
      ∃ t ∈ d.scope.children, t.label.value.name = "Clear" ∧
        (declaredNames (childValues t)).Nodup := by
  obtain ⟨c, d, hc, hd, -⟩ := exists_declarations_named
  have hg : clearGroup ∈ namedSchema.groups := by decide
  have hdistinct : (clearGroup.elements.map (·.name)).Nodup := by decide
  obtain ⟨t, ht, decl, hlabel, hname, hrole, -, -, -, hiff⟩ :=
    member_names_nodup_iff hd hg hdistinct
  have hgrid : groupRole (clearGroup.name = namedSchema.rootGroup) clearGroup = .gridVariables := by
    decide
  have hfree : ∀ overloaded, NamesFree .gridVariables true overloaded
      (clearGroup.elements.map (·.name)) := fun overloaded => by
    constructor
    · cases overloaded <;> decide
    · decide
  rw [hrole, hgrid] at hiff
  refine ⟨c, d, hc, hd, hg, hdistinct, t, ht, ?_, hiff.mpr (hfree _)⟩
  rw [hlabel]
  exact hname

/-- **An element that is called like the units of another clashes with them.** -/
theorem units_declared_twice : ∃ c d t,
    (Catalog.build (SchemaSet.loader {}) false namedSchema).result = .ok c ∧
      (buildDeclarations c namedSchema {}).result = .ok d ∧ clashingGroup ∈ namedSchema.groups ∧
      (clashingGroup.elements.map (·.name)).Nodup ∧ t ∈ d.scope.children ∧
      t.label.value.struct?.map (·.name) = some clashingGroup.name ∧
      (Decl.members (childValues t)).map (·.name) = clashingGroup.elements.map (·.name) ∧
      ¬ (declaredNames (childValues t)).Nodup := by
  obtain ⟨c, d, hc, hd, hany⟩ := exists_declarations_named
  obtain ⟨t, ht, hclash⟩ := List.any_eq_true.mp hany
  obtain ⟨hname, hmembers, htwice⟩ := of_decide_eq_true hclash
  exact ⟨c, d, t, hc, hd, by decide, by decide, ht, hname, hmembers, htwice⟩

end SchemaGen
