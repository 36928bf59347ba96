import SchemaGen.Proofs.Definition.PerformanceMap

/-!
# Where the projection of an overload is declared

The overload of a performance map returns the projection of its lookup variables, which is declared
with these. It is added after the declarations have been put in order, and its text mentions the
projection, which is no declaration's name. So what the order does for the types of members, it does
not do for the type that an overload returns: `projection_declared_late` is a schema in which the
map stands before its lookup variables.

What decides is the order of the file and what the two classes need for other reasons. The loop
takes the first ready declaration, so a declaration whose needs all stand before a place of the file
is taken before that place is (`idxOf_lt_of_needs_lower`): it never has to wait for anything behind
it. `projection_order` says what follows for a map and its lookup variables.
-/

set_option autoImplicit false

namespace SchemaGen

open Relation

/-! ## The first ready place -/

/-- Of the pending places that a pending place needs, one is ready. -/
theorem exists_ready_need {waits : Nat → List Nat} (hacyclic : Acyclic fun j i => j ∈ waits i)
    {pending : List Nat} {p : Nat} (hp : p ∈ pending) :
    ∃ n ∈ pending, ReflTransGen (fun j i => j ∈ waits i) n p ∧ isReady waits pending n = true := by
  classical
  let needed := pending.filter fun n => ReflTransGen (fun j i => j ∈ waits i) n p
  have hne : needed ≠ [] :=
    List.ne_nil_of_mem (List.mem_filter.mpr ⟨hp, decide_eq_true ReflTransGen.refl⟩)
  obtain ⟨n, hn, hsource⟩ := exists_source hacyclic hne
  obtain ⟨hpending, hneeded⟩ := List.mem_filter.mp hn
  refine ⟨n, hpending, of_decide_eq_true hneeded, ?_⟩
  by_contra hready
  -- what `n` waits for is needed as well, and `n` comes after nothing that is needed
  obtain ⟨j, hj, hwait⟩ := exists_wait_of_not_isReady (Bool.eq_false_iff.mpr hready)
  have hneed : ReflTransGen (fun j i => j ∈ waits i) j p :=
    ReflTransGen.head hwait (of_decide_eq_true hneeded)
  exact hsource j (List.mem_filter.mpr ⟨hj, decide_eq_true hneed⟩) hwait

/-- A place all of whose needs are lower than another is taken before that one is. -/
theorem orderReady_idxOf_lt {waits : Nat → List Nat} (hacyclic : Acyclic fun j i => j ∈ waits i)
    {p b : Nat} (hlow : ∀ n, ReflTransGen (fun j i => j ∈ waits i) n p → n < b) :
    ∀ {fuel : Nat} {pending : List Nat}, pending.length ≤ fuel → pending.Pairwise (· < ·) →
      p ∈ pending → b ∈ pending →
        (orderReady waits fuel pending).1.idxOf p < (orderReady waits fuel pending).1.idxOf b := by
  have hpb : p ≠ b := Nat.ne_of_lt (hlow p .refl)
  intro fuel
  induction fuel with
  | zero =>
    intro pending hlen _ hp
    rw [List.length_eq_zero_iff.mp (Nat.le_zero.mp hlen)] at hp
    cases hp
  | succ fuel ih =>
    intro pending hlen hsorted hp hb
    obtain ⟨n, hn, hneed, hready⟩ := exists_ready_need hacyclic hp
    cases h : pending.find? (isReady waits pending) with
    | none => exact absurd hready (List.find?_eq_none.mp h n hn)
    | some i =>
      rw [orderReady_succ_some h]
      by_cases hip : i = p
      · rw [hip, List.idxOf_cons_self, List.idxOf_cons_ne _ hpb]
        exact Nat.succ_pos _
      · -- `n` is ready and lower than `b`, so it is not `b` that is taken
        have hib : i ≠ b := by
          have hle := le_of_find?_eq_some hsorted h hn hready
          exact Nat.ne_of_lt (Nat.lt_of_le_of_lt hle (hlow n hneed))
        rw [List.idxOf_cons_ne _ hip, List.idxOf_cons_ne _ hib]
        refine Nat.succ_lt_succ (ih ?_ (hsorted.sublist List.erase_sublist) ?_ ?_)
        · rw [List.length_erase_of_mem (List.mem_of_find?_eq_some h)]
          omega
        · exact (List.mem_erase_of_ne (Ne.symm hip)).mpr hp
        · exact (List.mem_erase_of_ne (Ne.symm hib)).mpr hb

/-- **Nothing waits for what stands behind all its needs.** -/
theorem idxOf_lt_of_needs_lower {siblings : List Sibling} {places : List Nat}
    (h : dependencyOrder siblings = .ok places) {p b : Nat} (hb : b < siblings.length)
    (hlow : ∀ n, ReflTransGen (Precedes siblings) n p → n < b) :
    places.idxOf p < places.idxOf b := by
  have hgraph : (fun j i => j ∈ (waitTable siblings)[i]?.getD []) = Precedes siblings := by
    funext j i
    exact propext mem_waitTable
  have hp : p < siblings.length := Nat.lt_trans (hlow p .refl) hb
  have hacyclic := (isOrdering_of_dependencyOrder h).acyclic
  rw [← hgraph] at hacyclic hlow
  have hrun := orderReady_idxOf_lt hacyclic hlow (Nat.le_of_eq List.length_range)
    List.pairwise_lt_range (List.mem_range.mpr hp) (List.mem_range.mpr hb)
  rwa [show orderReady _ _ _ = (places, []) from dependencyOrder_eq_ok_iff.mp h] at hrun

/-! ## From the file to the namespace -/

/-- The declaration at place `n` is the one at place `i`, or it is needed by it: `i` mentions it, or
mentions something that needs it. -/
def Needs (trees : List (Tree Decl)) (i n : Nat) : Prop :=
  ReflTransGen (MustPrecede trees) n i

theorem lt_length_of_needs {trees : List (Tree Decl)} {i n : Nat} (h : Needs trees i n)
    (hi : i < trees.length) : n < trees.length := by
  rcases ReflTransGen.cases_head h with rfl | ⟨-, ⟨-, a, -, ha, -⟩, -⟩
  · exact hi
  · exact (List.getElem?_eq_some_iff.mp ha).1

/-- What is known of two declarations, at places `p` and `q` of the file, that have been put at the
places `j` and `k`: the first is put before the second if that one needs it, or needs something
that stands behind all that the first needs. -/
structure DecidedBy (trees : List (Tree Decl)) (p q j k : Nat) : Prop where
  needed : Needs trees q p → j < k
  early : (∃ b, Needs trees q b ∧ ∀ n, Needs trees p n → n < b) → j < k

/-- The places that declarations are put at. -/
structure PlacedBy (trees ordered : List (Tree Decl)) (place : Nat → Nat) : Prop where
  same : ∀ p < trees.length, ordered[place p]? = trees[p]?
  onto : ∀ k < ordered.length, ∃ p < trees.length, place p = k
  decided : ∀ p < trees.length, ∀ q < trees.length, p ≠ q →
    DecidedBy trees p q (place p) (place q)

/-- **Where declarations go.** -/
theorem exists_placedBy {scope : String} {trees ordered : List (Tree Decl)}
    (h : (orderTrees scope trees).result = .ok ordered) :
    ∃ place, PlacedBy trees ordered place := by
  obtain ⟨places, hplaces, rfl⟩ := orderTrees_eq_ok_iff.mp h
  have hordering := isOrdering_of_dependencyOrder hplaces
  rw [List.length_map] at hordering
  have hbound : ∀ p ∈ places, p < trees.length := fun p hp =>
    List.mem_range.mp (hordering.perm.mem_iff.mp hp)
  have hneeded {p q : Nat} (hpq : Needs trees q p) (hne : p ≠ q) :
      places.idxOf p < places.idxOf q := by
    rw [Needs, ← precedes_ofTree] at hpq
    exact hordering.lt_of_transGen ((reflTransGen_iff_eq_or_transGen.mp hpq).resolve_left hne.symm)
  refine ⟨places.idxOf, ?_, ?_, fun p _ q hq hpq => ⟨fun h => hneeded h hpq, ?_⟩⟩
  · intro p hp
    have hmem : p ∈ places := hordering.perm.mem_iff.mpr (List.mem_range.mpr hp)
    rw [getElem?_pick hbound, List.getElem?_eq_getElem (List.idxOf_lt_length_of_mem hmem),
      List.getElem_idxOf]
    rfl
  · intro k hk
    have hlen : (pick trees places).length = places.length := by
      rw [(pick_perm hordering.perm).length_eq, hordering.perm.length_eq, List.length_range]
    rw [hlen] at hk
    refine ⟨places[k], hbound _ (List.getElem_mem hk), ?_⟩
    exact (hordering.perm.nodup_iff.mpr List.nodup_range).idxOf_getElem k hk
  · rintro ⟨b, hneed, hlow⟩
    have hbefore : places.idxOf p < places.idxOf b := by
      refine idxOf_lt_of_needs_lower hplaces ?_ ?_
      · rw [List.length_map]
        exact lt_length_of_needs hneed hq
      · rw [precedes_ofTree]
        exact hlow
    by_cases hbq : b = q
    · exact hbq ▸ hbefore
    · exact Nat.lt_trans hbefore (hneeded hneed hbq)

/-! ## Overloads -/

/-- The functions that a class declares of its own are overrides. -/
theorem kind_of_declaredAs {c : Catalog} {s : Schema} {o : DeclOptions} {decl : StructDecl}
    {values : List Decl} (h : DeclaredAs c s o decl values) {f : FunctionDecl}
    (hf : f ∈ values.filterMap Decl.function?) : f.kind = .override := by
  cases h with
  | @group g members =>
    rw [functions_groupMembers] at hf
    cases hrole : groupRole (g.name = s.rootGroup) g with
    | plain =>
      rw [hrole] at hf
      cases hf
    | _ =>
      rw [hrole] at hf
      rw [List.mem_singleton.mp hf]
  | metadata => cases hf
  | holder => cases hf

section Overloads

variable {c : Catalog} {s : Schema} {o : DeclOptions} {d : Declarations}

/-- What declares functions is a class. -/
theorem struct_of_mem_numberedFunctions (hd : (buildDeclarations c s o).result = .ok d)
    {t : Tree (Tree.Numbered Decl)} (ht : t ∈ d.scope.children) {f : NodeId × FunctionDecl}
    (hf : f ∈ numberedFunctions t) : ∃ decl, t.label.value = .struct decl := by
  have htop := topLevel_of_mem_scope hd ht
  generalize hmap : t.map (·.value) = u at htop
  have hleaf {a : Decl} (hleaf : t.map (·.value) = .leaf a) : False := by
    rw [Tree.eq_leaf_of_map hleaf] at hf
    cases hf
  cases htop with
  | typeDecl => exact (hleaf hmap).elim
  | readerDecl => exact (hleaf hmap).elim
  | @classDecl decl => exact ⟨decl, (Tree.label_map _ t).symm.trans (congrArg Tree.label hmap)⟩

/-- A performance overload in a class is the one that was due to it. -/
theorem eq_overload_of_function {decl : StructDecl} {values : List Decl}
    (h : DeclaredAs c s o decl values) {t : Tree (Tree.Numbered Decl)} {due : Option Decl}
    (hvalues : childValues t = values ++ due.toList) {f : NodeId × FunctionDecl}
    (hf : f ∈ numberedFunctions t) (hkind : f.2.kind = .performanceOverload) :
    due = some (.function f.2) := by
  have hmem : f.2 ∈ (numberedFunctions t).map (·.2) := List.mem_map_of_mem hf
  rw [map_snd_numberedFunctions, hvalues, List.filterMap_append, List.mem_append] at hmem
  rcases hmem with hown | hdue
  · cases hkind.symm.trans (kind_of_declaredAs h hown)
  · obtain ⟨overload, hdue, hfunction⟩ := List.mem_filterMap.mp hdue
    rw [Option.mem_toList.mp hdue, Decl.function?_eq_some.mp hfunction]

/-- Only performance maps have overloads. -/
theorem role_of_overload (hd : (buildDeclarations c s o).result = .ok d)
    {t : Tree (Tree.Numbered Decl)} (ht : t ∈ d.scope.children) {f : NodeId × FunctionDecl}
    (hf : f ∈ numberedFunctions t) (hkind : f.2.kind = .performanceOverload) :
    roleOf t = .performanceMap := by
  obtain ⟨decl, hdecl⟩ := struct_of_mem_numberedFunctions hd ht hf
  obtain ⟨values, hdeclared, hvalues⟩ := class_cases hd ht hdecl
  by_contra hrole
  rw [roleOf, hdecl] at hrole
  have hnone : childValues t = values ++ (none : Option Decl).toList := by
    rw [hvalues, overloadsOf_eq_nil hrole]
    rfl
  cases eq_overload_of_function hdeclared hnone hf hkind

/-- Where a class of the scope stands, and with which overload, before and after it is put in
order. -/
theorem exists_ordered_with_overload {ordered : List (Tree Decl)} {k : Nat}
    {t : Tree (Tree.Numbered Decl)} {decl : StructDecl}
    (ht : (scopeTree s ordered).children[k]? = some t) (hdecl : t.label.value = .struct decl) :
    ∃ u classes, ordered[k]? = some u ∧ u.label = .struct decl ∧
      childValues t = u.children.map (·.label) ++ (dueOverload? classes u.label).toList ∧
      t.map (·.value) = u.extend ((dueOverload? classes u.label).toList.map .leaf) := by
  obtain ⟨u, hu⟩ := exists_ordered_of_struct ht hdecl
  obtain ⟨t', classes, id, hmap, hchild⟩ := getElem?_scopeTree (s := s) hu
  cases ht.symm.trans hchild
  obtain ⟨hlabel, hvalues⟩ := childValues_extend classes id hmap
  refine ⟨u, classes, hu, hlabel.symm.trans hdecl, hvalues, ?_⟩
  rw [map_value_extend_overloadLeaves, hmap]

/-- **When the projection of an overload is declared before the map.** The lookup variables that an
overload projects are declared next to its class, and which of the two comes first depends on what
they need and where that stands in the file. -/
theorem projection_order (hd : (buildDeclarations c s o).result = .ok d) {k : Nat}
    {map : Tree (Tree.Numbered Decl)} (hmap : d.scope.children[k]? = some map)
    {f : NodeId × FunctionDecl} (hf : f ∈ numberedFunctions map)
    (hkind : f.2.kind = .performanceOverload) :
    ∃ groups headers m l j t lookup,
      buildGroups o ⟨c, s⟩ s.rootGroup s.groups = .ok (groups, headers) ∧
      (leadingTrees s ++ groups)[m]? = some t ∧
      map.map (·.value) = t.extend [.leaf (.function f.2)] ∧
      d.scope.children[j]? = some lookup ∧ j ≠ k ∧
      f.2.lookup = some lookup.label.id ∧ f.2.returns = lookup.label.value.name ++ "Struct" ∧
      roleOf lookup = .lookupVariables ∧
      (leadingTrees s ++ groups)[l]? = some (lookup.map (·.value)) ∧
      DecidedBy (leadingTrees s ++ groups) l m j k ∧
      DecidedBy (leadingTrees s ++ groups) m l k j := by
  have hmem := List.mem_of_getElem? hmap
  obtain ⟨decl, hdecl⟩ := struct_of_mem_numberedFunctions hd hmem hf
  have hrole := role_of_overload hd hmem hf hkind
  obtain ⟨-, -, lookup, gridView, lookupView, -, -, hlookup, hview, hoverload⟩ :=
    exists_partners hd hmem hrole hf hkind
  obtain ⟨j, hj⟩ := List.getElem?_of_mem (List.mem_of_find?_eq_some hlookup)
  have hpartner := List.find?_some hlookup
  have hlookupRole : roleOf lookup = .lookupVariables := (of_decide_eq_true hpartner).1
  obtain ⟨lookupDecl, hstruct, rfl⟩ := Option.map_eq_some_iff.mp hview
  have hlookupDecl := Decl.struct?_eq_some.mp hstruct
  obtain ⟨groups, headers, ordered, hgroups, hordered, rfl⟩ := exists_of_buildDeclarations hd
  obtain ⟨t, classes, hk, htlabel, hvalues, hextend⟩ := exists_ordered_with_overload hmap hdecl
  obtain ⟨u, classes', hju, hulabel, -, hplain⟩ := exists_ordered_with_overload hj hlookupDecl
  obtain ⟨place, hplace⟩ := exists_placedBy hordered
  obtain ⟨m, hm, rfl⟩ := hplace.onto k (List.getElem?_eq_some_iff.mp hk).1
  obtain ⟨l, hl, rfl⟩ := hplace.onto j (List.getElem?_eq_some_iff.mp hju).1
  rw [hplace.same m hm] at hk
  rw [hplace.same l hl] at hju
  -- a map is no lookup variables, so the two stand at different places
  have hne : place l ≠ place m := by
    intro heq
    rw [heq] at hj
    cases hj.symm.trans hmap
    cases hlookupRole.symm.trans hrole
  have hne' : l ≠ m := fun heq => hne (congrArg place heq)
  refine ⟨groups, headers, m, l, place l, t, lookup, hgroups, hk, ?_, hj, hne, ?_, ?_, hlookupRole,
    ?_, hplace.decided l hl m hm hne', hplace.decided m hm l hl hne'.symm⟩
  · have hdeclared := declaredAs_of_mem_unordered hgroups (List.mem_of_getElem? hk) htlabel
    rw [hextend, eq_overload_of_function hdeclared hvalues hf hkind]
    rfl
  · rw [← Decl.function.inj hoverload]
  · rw [← Decl.function.inj hoverload, hlookupDecl]
    rfl
  · have hnone : dueOverload? classes' u.label = none := by
      rw [hulabel, dueOverload?, if_neg]
      rw [roleOf, hlookupDecl] at hlookupRole
      intro hperformance
      cases hperformance.symm.trans hlookupRole
    rw [hju, hplain, hnone]
    exact congrArg some (by simp)

end Overloads

/-! ## A map before and after its variables -/

/-- The places of the classes with an overload, and of the classes whose projection it returns. -/
def overloadPlaces (d : Declarations) : List (Nat × Option Nat) :=
  d.scope.children.zipIdx.flatMap fun (map, k) =>
    ((numberedFunctions map).filter (·.2.kind = .performanceOverload)).map fun f =>
      (k, d.scope.children.findIdx? (f.2.lookup = some ·.label.id))

theorem exists_of_mem_overloadPlaces {d : Declarations} {k j : Nat}
    (h : (k, some j) ∈ overloadPlaces d) :
    ∃ map f lookup, d.scope.children[k]? = some map ∧ f ∈ numberedFunctions map ∧
      f.2.kind = .performanceOverload ∧ d.scope.children[j]? = some lookup ∧
      f.2.lookup = some lookup.label.id ∧
      ∀ t ∈ d.scope.children.take j, f.2.lookup ≠ some t.label.id := by
  obtain ⟨⟨map, k'⟩, hmap, h⟩ := List.mem_flatMap.mp h
  obtain ⟨f, hf, hplaces⟩ := List.mem_map.mp h
  obtain ⟨hf, hkind⟩ := List.mem_filter.mp hf
  obtain ⟨rfl, hj⟩ := Prod.mk.inj hplaces
  obtain ⟨hlt, hlookup, hbefore⟩ := List.findIdx?_eq_some_iff_getElem.mp hj
  refine ⟨map, f, d.scope.children[j], List.mem_zipIdx_iff_getElem?.mp hmap, hf,
    of_decide_eq_true hkind, List.getElem?_eq_getElem hlt, of_decide_eq_true hlookup, ?_⟩
  intro t ht
  obtain ⟨i, hi, rfl⟩ := List.mem_take_iff_getElem.mp ht
  have hnot := hbefore i (Nat.lt_of_lt_of_le hi (Nat.min_le_left _ _))
  simpa using hnot

/-- A performance map with these elements, before its variables. -/
def mapFirstSchema (elements : List DataElement) : Schema where
  name := "S"
  objects :=
    [{ name := "PerformanceMapX", type := .performanceMap, elements },
      { name := "GridVariablesX", type := .gridVariables },
      { name := "LookupVariablesX", type := .lookupVariables }]

/-- An element that has a map wait for its lookup variables. -/
def lookupElement : DataElement :=
  { name := "lookup_variables", dataType := "\x7bLookupVariablesX\x7d" }

/-- The overload of a map that has its lookup variables as a member returns the projection of a
class next to it. -/
theorem projection_order_member :
    ∃ c d i map f j lookup, translation? (mapFirstSchema [lookupElement]) = some (c, d, i) ∧
      d.scope.children[3]? = some map ∧ f ∈ numberedFunctions map ∧
      f.2.kind = .performanceOverload ∧ d.scope.children[j]? = some lookup ∧ j ≠ 3 ∧
      f.2.lookup = some lookup.label.id ∧ roleOf lookup = .lookupVariables := by
  have hplaces : (translation? (mapFirstSchema [lookupElement])).map
      (fun r => overloadPlaces r.2.1) = some [(3, some 2)] := by
    decide +kernel
  obtain ⟨⟨c, d, i⟩, htranslation, hplaces⟩ := Option.map_eq_some_iff.mp hplaces
  obtain ⟨map, f, -, hmap, hf, hkind, -⟩ := exists_of_mem_overloadPlaces
    (show (3, some 2) ∈ overloadPlaces d from hplaces ▸ List.mem_singleton_self _)
  obtain ⟨-, -, -, -, j, -, lookup, -, -, -, hj, hne, hlookup, -, hrole, -⟩ :=
    projection_order (of_translation? htranslation).2.1 hmap hf hkind
  exact ⟨c, d, i, map, f, j, lookup, htranslation, hmap, hf, hkind, hj, hne, hlookup, hrole⟩

/-- **A projection is declared too late.** The map mentions its variables nowhere but in its
overload. The class at place 1 has an overload that returns the projection of the class at place 3,
and of no class before itself. -/
theorem projection_declared_late :
    ∃ c d i map f lookup, translation? (mapFirstSchema []) = some (c, d, i) ∧
      d.scope.children[1]? = some map ∧ map.label.value.struct?.isSome = true ∧
      f ∈ numberedFunctions map ∧ f.2.kind = .performanceOverload ∧
      d.scope.children[3]? = some lookup ∧ f.2.lookup = some lookup.label.id ∧
      ∀ t ∈ d.scope.children.take 1, f.2.lookup ≠ some t.label.id := by
  have hplaces : (translation? (mapFirstSchema [])).map (fun r => overloadPlaces r.2.1) =
      some [(1, some 3)] := by
    decide +kernel
  obtain ⟨⟨c, d, i⟩, htranslation, hplaces⟩ := Option.map_eq_some_iff.mp hplaces
  obtain ⟨map, f, lookup, hmap, hf, hkind, hlookup, hid, hbefore⟩ := exists_of_mem_overloadPlaces
    (show (1, some 3) ∈ overloadPlaces d from hplaces ▸ List.mem_singleton_self _)
  obtain ⟨decl, hdecl⟩ := struct_of_mem_numberedFunctions (of_translation? htranslation).2.1
    (List.mem_of_getElem? hmap) hf
  refine ⟨c, d, i, map, f, lookup, htranslation, hmap, by rw [hdecl]; rfl, hf, hkind, hlookup, hid,
    fun t ht => hbefore t ?_⟩
  exact List.take_subset_take_left _ (by decide) ht

end SchemaGen
