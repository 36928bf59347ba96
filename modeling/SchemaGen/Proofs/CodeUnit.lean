import SchemaGen.Proofs.Definition.Mirror
import SchemaGen.Proofs.Declaration.Classes
import SchemaGen.Proofs.Plugin.LookupCounter

/-!
# What a code unit shows

Declarations are built as a tree and printed from a forest. Right after they are planted the forest
shows them (`shows_ofTrees`), so what is read off the forest can be told from the tree: the lines of
the header (`declLines_within_header`), the classes that plugins are called on
(`classesBelow_ofTrees`), and what the default registry adds (`childValues_defaultRegistry`).
-/

set_option autoImplicit false

namespace SchemaGen

section Unit

variable {c : Catalog} {s : Schema} {o : DeclOptions} {d : Declarations}

theorem shows_ofTrees (hd : (buildDeclarations c s o).result = .ok d) (i : Definitions) :
    (CodeUnit.ofTrees s d i).world.decls.Shows d.tree :=
  Forest.shows_plant (nodup_ids_tree hd)

theorem outline?_ofTrees (hd : (buildDeclarations c s o).result = .ok d) (i : Definitions) :
    (CodeUnit.ofTrees s d i).world.decls.outline? (CodeUnit.ofTrees s d i).declRoot =
      some (d.tree.map (CodeUnit.ofTrees s d i).world.decls.place) :=
  Forest.outline?_of_shows (shows_ofTrees hd i) (nodup_ids_tree hd)

theorem scope_mem_subtrees (d : Declarations) : d.scope ∈ d.tree.subtrees := by
  unfold Declarations.tree
  split
  · exact Tree.mem_subtrees_of_mem_children (List.mem_singleton_self d.scope)
      (Tree.mem_subtrees_self d.scope)
  · exact Tree.mem_subtrees_self d.scope

theorem shows_child (hd : (buildDeclarations c s o).result = .ok d) (i : Definitions)
    {t : Tree (Tree.Numbered Decl)} (ht : t ∈ d.scope.children) :
    (CodeUnit.ofTrees s d i).world.decls.Shows t :=
  ((shows_ofTrees hd i).of_mem_subtrees (scope_mem_subtrees d)).of_mem_children ht

/-! ## Lines -/

theorem declLinesOf_eq_flatMap (ts : List (Tree (Placed Decl))) :
    declLinesOf ts = ts.flatMap declLines := by
  induction ts with
  | nil => rfl
  | cons t ts ih => rw [declLinesOf, List.flatMap_cons, ih]

theorem declLines_node (p : Placed Decl) (children : List (Tree (Placed Decl))) :
    declLines (.node p children) =
      indented p.depth (p.value.frame (membersBelow children)).1
        ++ (if p.value.showsNested then children.flatMap declLines else [])
        ++ indented p.depth (p.value.frame (membersBelow children)).2 := by
  rw [declLines, declLinesOf_eq_flatMap]

/-- What a namespace or a class holds is printed in one piece. -/
theorem declLines_within {t u : Tree (Placed Decl)} (hnested : t.label.value.showsNested = true)
    (hu : u ∈ t.children) : declLines u <:+: declLines t := by
  cases t with
  | node p children =>
    have hchild : declLines u <:+: children.flatMap declLines := by
      obtain ⟨before, after, hchildren⟩ := List.append_of_mem hu
      rw [Tree.children_node] at hchildren
      exact ⟨before.flatMap declLines, after.flatMap declLines, by simp [hchildren]⟩
    rw [Tree.label_node] at hnested
    rw [declLines_node, if_pos hnested]
    exact hchild.trans ⟨_, _, rfl⟩

/-- **The header prints every declaration of the namespace**, each in one piece. -/
theorem declLines_within_header (hd : (buildDeclarations c s o).result = .ok d) (f : Forest Decl)
    {t : Tree (Tree.Numbered Decl)} (ht : t ∈ d.scope.children) :
    declLines (t.map f.place) <:+: declLines (d.tree.map f.place) := by
  have hscope : declLines (t.map f.place) <:+: declLines (d.scope.map f.place) := by
    refine declLines_within ?_ ?_
    · rw [scope_eq_node hd]
      rfl
    · rw [Tree.children_map]
      exact List.mem_map_of_mem ht
  unfold Declarations.tree
  split
  · refine hscope.trans (declLines_within rfl ?_)
    rw [Tree.children_map]
    exact List.mem_map_of_mem (List.mem_singleton_self d.scope)
  · exact hscope

/-- The projection of lookup variables ends what is printed of them. -/
theorem projectionLines_within {t : Tree (Tree.Numbered Decl)} {decl : StructDecl}
    (hdecl : t.label.value = .struct decl) (f : Forest Decl) :
    indented (f.depth t.label.id)
        (Decl.projectionLines decl ((numberedMembers t).map (·.2))) <:+:
      declLines (t.map f.place) := by
  cases t with
  | node l cs =>
    have hmembers : membersBelow (cs.map (Tree.map f.place)) =
        (numberedMembers (.node l cs)).map (·.2) := by
      rw [map_snd_numberedMembers, membersBelow, childValues, Tree.children_node, List.map_map]
      congr 1
      exact List.map_congr_left fun u _ => congrArg (·.value) (Tree.label_map f.place u)
    have hvalue : (f.place l).value = .struct decl := hdecl
    rw [Tree.map_node, declLines_node, hvalue, hmembers, Decl.frame]
    exact ((List.suffix_cons _ _).trans (List.suffix_append _ _)).isInfix

/-! ## Classes -/

theorem classesInAll_eq_flatMap (ts : List (Tree (Placed Decl))) :
    World.classesInAll ts = ts.flatMap World.classesIn := by
  induction ts with
  | nil => rfl
  | cons t ts ih => rw [World.classesInAll, List.flatMap_cons, ih]

theorem classesIn_scope {p : Placed Decl} {name : String} (h : p.value = .scope name)
    (children : List (Tree (Placed Decl))) :
    World.classesIn (.node p children) = children.flatMap World.classesIn := by
  rw [World.classesIn, h, classesInAll_eq_flatMap]
  rfl

/-- Of what stands in a namespace, the classes are found and nothing in them. -/
theorem classesIn_child {t : Tree (Tree.Numbered Decl)} (h : TopLevel s (t.map (·.value)))
    (f : Forest Decl) :
    World.classesIn (t.map f.place) =
      if t.label.value.struct?.isSome then [f.place t.label] else [] := by
  cases t with
  | node l cs =>
    rw [Tree.map, World.classesIn, Tree.label_node]
    by_cases hstruct : l.value.struct?.isSome = true
    · rw [if_pos hstruct, if_pos (show (f.place l).value.struct?.isSome = true from hstruct)]
    · rw [if_neg hstruct, if_neg (show ¬ (f.place l).value.struct?.isSome = true from hstruct)]
      have hleaf : Tree.node l cs = .leaf l := by
        generalize hmap : (Tree.node l cs).map (·.value) = u at h
        cases h with
        | typeDecl | readerDecl => exact Tree.eq_leaf_of_map hmap
        | classDecl =>
          have hlabel : l.value = _ := congrArg Tree.label hmap
          rw [hlabel] at hstruct
          exact absurd rfl hstruct
      rw [Tree.leaf, Tree.node.injEq] at hleaf
      rw [hleaf.2]
      rfl

theorem classesBelow_ofTrees (hd : (buildDeclarations c s o).result = .ok d) (i : Definitions) :
    (CodeUnit.ofTrees s d i).world.classesBelow (CodeUnit.ofTrees s d i).declRoot =
      (d.scope.children.filter (·.label.value.struct?.isSome)).map
        fun t => (CodeUnit.ofTrees s d i).world.decls.place t.label := by
  rw [World.classesBelow, outline?_ofTrees hd i, Option.map_some, Option.getD_some]
  generalize (CodeUnit.ofTrees s d i).world.decls = f
  have hscope : World.classesIn (d.scope.map f.place) =
      (d.scope.children.filter (·.label.value.struct?.isSome)).map fun t => f.place t.label := by
    conv_lhs => rw [scope_eq_node hd]
    rw [Tree.map_node, classesIn_scope rfl, List.flatMap_map, ← List.filterMap_eq_filter,
      List.map_filterMap, List.filterMap_eq_flatMap_toList]
    refine List.flatMap_congr fun t ht => ?_
    rw [classesIn_child (topLevel_of_mem_scope hd ht)]
    cases h : t.label.value.struct?.isSome <;> simp [Option.guard, h]
  unfold Declarations.tree
  split
  · rw [Tree.map_node, classesIn_scope rfl, List.map_singleton, List.flatMap_singleton]
    exact hscope
  · exact hscope

/-- The classes of lookup variables are called on once each. -/
theorem map_fst_lookupClasses (hd : (buildDeclarations c s o).result = .ok d) (i : Definitions) :
    (lookupClasses (CodeUnit.ofTrees s d i).world (CodeUnit.ofTrees s d i).declRoot).map (·.1) =
      (d.scope.children.filter (isLookupClass ·.label.value)).map (·.label.id) := by
  rw [lookupClasses, classesBelow_ofTrees hd i, List.filter_map, List.filter_filter, List.map_map,
    List.map_map]
  have hlookup (t : Tree (Tree.Numbered Decl)) :
      (isLookupClass t.label.value && t.label.value.struct?.isSome) =
        isLookupClass t.label.value := by
    rw [isLookupClass]
    cases t.label.value.struct? <;> simp
  exact congrArg (List.map _) (List.filter_congr fun t _ => hlookup t)

theorem nodup_ids_children (hd : (buildDeclarations c s o).result = .ok d) :
    (d.scope.children.map (·.label.id)).Nodup := by
  obtain ⟨groups, headers, ordered, -, -, rfl⟩ := exists_of_buildDeclarations hd
  have hnodup := nodup_ids_scopeTree s ordered
  rw [scopeTree, Tree.labels_node, List.map_cons] at hnodup
  have hsub := (Tree.map_label_sublist (scopeTree s ordered).children).map (·.id)
  rw [List.map_map] at hsub
  exact hsub.nodup (List.nodup_cons.mp hnodup).2

/-- **What the default registry adds**: to each class of lookup variables the counter of its
members. -/
theorem childValues_defaultRegistry (hd : (buildDeclarations c s o).result = .ok d)
    (i : Definitions) :
    ∃ u, ((CodeUnit.ofTrees s d i).extend defaultRegistry).result = .ok u ∧
      ∀ t ∈ d.scope.children, u.world.decls.childValues t.label.id =
        childValues t ++ if isLookupClass t.label.value
          then [.ofMembers ((numberedMembers t).map (·.2.name))] else [] := by
  have hids := map_fst_lookupClasses hd i
  obtain ⟨u, hu, -, hvalues⟩ := extend_defaultRegistry (t := CodeUnit.ofTrees s d i)
    (Forest.wellNumbered_plant d.tree)
    (by rw [hids]; exact (List.filter_sublist.map _).nodup (nodup_ids_children hd))
    (by
      intro target htarget
      have hmem := List.mem_map_of_mem (f := (·.1)) htarget
      rw [hids] at hmem
      obtain ⟨t, ht, hid⟩ := List.mem_map.mp hmem
      rw [← hid, (shows_child hd i (List.mem_of_mem_filter ht)).value?]
      rfl)
  refine ⟨u, hu, fun t ht => ?_⟩
  have hshows := shows_child hd i ht
  have hcounter : memberCounter (CodeUnit.ofTrees s d i).world.decls t.label.id =
      .ofMembers ((numberedMembers t).map (·.2.name)) := by
    rw [memberCounter_eq, Forest.childValues, hshows.values_children]
    have hmembers := map_snd_numberedMembers t
    rw [childValues] at hmembers
    rw [← hmembers, List.map_map]
    rfl
  -- numbers tell the classes apart, so a class is called on just if it is one of lookup variables
  have hmem : t.label.id ∈ (d.scope.children.filter (isLookupClass ·.label.value)).map
      (·.label.id) ↔ isLookupClass t.label.value = true := by
    constructor
    · intro hmem
      obtain ⟨t', ht', hid⟩ := List.mem_map.mp hmem
      obtain ⟨ht', hlookup⟩ := List.mem_filter.mp ht'
      rw [← List.inj_on_of_nodup_map (nodup_ids_children hd) ht' ht hid]
      exact hlookup
    · intro hlookup
      exact List.mem_map_of_mem (List.mem_filter.mpr ⟨ht, hlookup⟩)
  rw [hvalues, hids, Forest.childValues, hshows.values_children, hcounter]
  simp only [hmem, childValues]

end Unit

end SchemaGen
