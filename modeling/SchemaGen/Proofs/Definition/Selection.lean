import SchemaGen.Proofs.CodeUnit
import SchemaGen.Proofs.Definition.Discriminant
import SchemaGen.Proofs.TypeExpr.Selector

/-!
# Selections, from the schema to the source

A selected element is written in a schema as two lists, and printed in the source as a chain of
branches. Between them the lists are paired by the resolver, carried in the type of a member, found
again by the number of the member when the source is printed, and printed one case after another.
`selector_complete` goes the whole way: what the chain tests and makes, branch by branch, is said in
terms of the two lists.

The resolver's part is `TypeExpr.resolve_selector_iff`. Here is the other one: a body reads each
member of a class in one statement (`filter_reads_eq`), the statement of a selected member prints
one branch per case (`ownedLines_eq_chainLines`), and the source prints every statement of every
body in one piece (`defnLines_of_mem_subtrees`).
-/

set_option autoImplicit false

namespace SchemaGen

open TypeExpr (Resolver Selects selectorCases resolve_selector_iff code_of_resolve)

/-! ## Branches -/

/-- One chain of branches for a selected member, a branch per case, in order: it tests the key for
the enumerator and has the factory of the member make the type. -/
def chainLines (name key : String) (access : Access) (cases : List SelectorCase) : List String :=
  cases.zipIdx.flatMap fun (c, n) =>
    [(if n = 0 then "if" else "else if") ++ " (" ++ access.accessor ++ key ++ " == "
        ++ c.enumerator ++ ") \x7b",
      "\t" ++ access.accessor ++ name ++ " = " ++ name ++ "_factory::create("
        ++ Text.quoted c.type ++ ");",
      "\tif (" ++ access.accessor ++ name ++ ") \x7b",
      "\t\t" ++ access.accessor ++ name ++ "->initialize(j.at(" ++ Text.quoted name ++ "));",
      "\t\x7d",
      "\x7d"]

theorem ownedLines_eq_chainLines (m : MemberDecl) (access : Access) :
    Defn.ownedLines m access = chainLines m.name m.type.key access m.type.cases := by
  unfold Defn.ownedLines chainLines
  cases m.type.cases with
  | nil => rfl
  | cons first rest =>
    have hrest : rest.flatMap (Defn.branchLines m access "else if") =
        ((rest.zipIdx 1).map Prod.fst).flatMap (Defn.branchLines m access "else if") := by
      rw [List.zipIdx_map_fst]
    dsimp only
    rw [hrest, List.flatMap_map, List.zipIdx_cons, List.flatMap_cons]
    refine congrArg₂ (· ++ ·) ?_ (List.flatMap_congr fun p hp => ?_)
    · simp [Defn.branchLines, String.append_assoc]
    · have hpos : p.2 ≠ 0 := Nat.ne_of_gt (List.le_snd_of_mem_zipIdx hp)
      simp [Defn.branchLines, String.append_assoc, hpos]

/-! ## Lines of definitions -/

theorem defnLinesOf_eq_flatMap (decls : Forest Decl) (ts : List (Tree (Placed Defn))) :
    defnLinesOf decls ts = ts.flatMap (defnLines decls) := by
  induction ts with
  | nil => rfl
  | cons t ts ih => rw [defnLinesOf, List.flatMap_cons, ih]

/-- What a namespace or a function holds is printed in one piece. -/
theorem defnLines_within {decls : Forest Decl} {t u : Tree (Placed Defn)}
    (hnested : t.label.value.showsNested = true) (hu : u ∈ t.children) :
    defnLines decls u <:+: defnLines decls t := by
  cases t with
  | node p children =>
    have hchild : defnLines decls u <:+: children.flatMap (defnLines decls) := by
      obtain ⟨before, after, hchildren⟩ := List.append_of_mem hu
      rw [Tree.children_node] at hchildren
      exact ⟨before.flatMap (defnLines decls), after.flatMap (defnLines decls), by simp [hchildren]⟩
    rw [Tree.label_node] at hnested
    rw [defnLines, defnLinesOf_eq_flatMap, if_pos hnested]
    exact hchild.trans ⟨_, _, rfl⟩

/-- Whether all that has something below it shows it. -/
def ShowsAll (t : Tree Defn) : Prop :=
  ∀ u ∈ t.subtrees, u.children = [] ∨ u.label.showsNested = true

mutual

/-- **Where everything shows what is below it, every part is printed in one piece.** -/
theorem defnLines_of_mem_subtrees (decls : Forest Decl) : ∀ {t u : Tree (Placed Defn)},
    (∀ v ∈ t.subtrees, v.children = [] ∨ v.label.value.showsNested = true) → u ∈ t.subtrees →
      defnLines decls u <:+: defnLines decls t
  | .node p cs, u, h, hu => by
    rw [Tree.subtrees] at hu
    rcases List.mem_cons.mp hu with rfl | hu
    · exact List.infix_rfl
    · have hbelow : ∀ v ∈ Tree.subtreesOf cs,
          v.children = [] ∨ v.label.value.showsNested = true := by
        intro v hv
        refine h v ?_
        rw [Tree.subtrees]
        exact List.mem_cons_of_mem _ hv
      obtain ⟨c, hc, hinfix⟩ := defnLines_of_mem_subtreesOf decls hbelow hu
      have hself := (h (.node p cs) (Tree.mem_subtrees_self _)).resolve_left
        (List.ne_nil_of_mem hc)
      exact hinfix.trans (defnLines_within hself hc)

theorem defnLines_of_mem_subtreesOf (decls : Forest Decl) : ∀ {ts : List (Tree (Placed Defn))}
    {u : Tree (Placed Defn)},
    (∀ v ∈ Tree.subtreesOf ts, v.children = [] ∨ v.label.value.showsNested = true) →
      u ∈ Tree.subtreesOf ts → ∃ t ∈ ts, defnLines decls u <:+: defnLines decls t
  | [], _, _, hu => by cases hu
  | t :: ts, u, h, hu => by
    rw [Tree.subtreesOf] at h hu
    rcases List.mem_append.mp hu with hu | hu
    · exact ⟨t, List.mem_cons_self, defnLines_of_mem_subtrees decls
        (fun v hv => h v (List.mem_append_left _ hv)) hu⟩
    · obtain ⟨c, hc, hinfix⟩ := defnLines_of_mem_subtreesOf decls
        (fun v hv => h v (List.mem_append_right _ hv)) hu
      exact ⟨c, List.mem_cons_of_mem _ hc, hinfix⟩

end

/-- What an `owned` statement prints. -/
theorem defnLines_owned {decls : Forest Decl} {t : Tree (Placed Defn)} {member : NodeId}
    {access : Access} (h : t.label.value = .owned member access) {m : MemberDecl}
    (hm : memberAt decls member = m) (hcases : m.type.cases ≠ []) :
    defnLines decls t =
      indented t.label.depth (chainLines m.name m.type.key access m.type.cases) := by
  cases t with
  | node p cs =>
    rw [Tree.label_node] at h ⊢
    have hne : indented p.depth (Defn.ownedLines m access) ≠ [] := by
      obtain ⟨first, rest, hfirst⟩ := List.exists_cons_of_ne_nil hcases
      simp [indented, Defn.ownedLines, hfirst, Defn.branchLines]
    have hlines : orEmptyLine (indented p.depth (Defn.ownedLines m access)) =
        indented p.depth (Defn.ownedLines m access) := by
      unfold orEmptyLine
      split
      next hnil => exact absurd hnil hne
      next => rfl
    rw [defnLines, h, ← ownedLines_eq_chainLines]
    simp only [Defn.frame, hm, hlines, Defn.showsNested]
    simp [indented]

/-! ## What definitions show -/

theorem showsAll_leaf (d : Defn) : ShowsAll (.leaf d) := by
  intro u hu
  rw [Tree.leaf, Tree.subtrees_node, List.flatMap_nil, List.mem_singleton] at hu
  rw [hu]
  exact Or.inl rfl

theorem showsAll_node {d : Defn} (hd : d.showsNested = true) {ts : List (Tree Defn)}
    (h : ∀ t ∈ ts, ShowsAll t) : ShowsAll (.node d ts) := by
  intro u hu
  rw [Tree.subtrees_node] at hu
  rcases List.mem_cons.mp hu with rfl | hu
  · exact Or.inr hd
  · obtain ⟨t, ht, hu⟩ := List.mem_flatMap.mp hu
    exact h t ht u hu

theorem showsAll_functionTree (decl : NodeId) (owner : Option NodeId) (body : List Defn) :
    ShowsAll (functionTree decl owner body) := by
  refine showsAll_node rfl fun t ht => ?_
  obtain ⟨d, -, rfl⟩ := List.mem_map.mp ht
  exact showsAll_leaf d

theorem showsAll_defineClass {c : Catalog} {t : Tree (Tree.Numbered Decl)} {u : Tree Defn}
    (hu : u ∈ (defineClass c t).trees) : ShowsAll u := by
  rcases List.mem_append.mp hu with hu | hu
  · obtain ⟨child, -, hchild⟩ := List.mem_filterMap.mp hu
    split at hchild
    · cases hchild
      exact showsAll_leaf _
    · cases hchild
      exact showsAll_leaf _
    · cases hchild
  · obtain ⟨defined, hdefined, rfl⟩ := List.mem_map.mp hu
    obtain ⟨f, -, hf⟩ := List.mem_filterMap.mp hdefined
    have hbody := defineFunction?_eq c t f
    rw [hf] at hbody
    obtain ⟨body, -, hbody⟩ := Option.map_eq_some_iff.mp hbody.symm
    rw [← hbody]
    exact showsAll_functionTree _ _ _

theorem showsAll_define {c : Catalog} {siblings : List (Tree (Tree.Numbered Decl))}
    {t : Tree (Tree.Numbered Decl)} {batch : DefinitionBatch}
    (h : define c siblings t = .ok batch) {u : Tree Defn} (hu : u ∈ batch.trees) :
    ShowsAll u := by
  unfold define at h
  split at h
  · cases h
    exact showsAll_defineClass hu
  · split at h
    · split at h
      · cases h
        unfold defineReader at hu
        split at hu <;>
        · rw [List.mem_singleton.mp hu]
          exact showsAll_functionTree _ _ _
      · cases h
    · cases h
      cases hu
  · cases h
    cases hu

theorem showsAll_defineAll {c : Catalog} {siblings : List (Tree (Tree.Numbered Decl))} :
    ∀ {ts : List (Tree (Tree.Numbered Decl))} {batch : DefinitionBatch},
      defineAll c siblings ts = .ok batch → ∀ {u : Tree Defn}, u ∈ batch.trees → ShowsAll u
  | [], batch, h, u, hu => by
    cases h
    cases hu
  | t :: ts, batch, h, u, hu => by
    unfold defineAll at h
    cases hfirst : define c siblings t with
    | error fault => simp [hfirst] at h
    | ok first =>
      cases hrest : defineAll c siblings ts with
      | error fault => simp [hfirst, hrest] at h
      | ok rest =>
        simp only [hfirst, hrest, Except.ok.injEq] at h
        rw [← h] at hu
        rcases List.mem_append.mp hu with hu | hu
        · exact showsAll_define hfirst hu
        · exact showsAll_defineAll hrest hu

theorem showsAll_of_buildDefinitions {c : Catalog} {name : String} {container : Option NodeId}
    {scope : Tree (Tree.Numbered Decl)} {i : Definitions}
    (h : (buildDefinitions c name container scope).result = .ok i) : ShowsAll i.tree := by
  unfold buildDefinitions at h
  cases hbatch : defineAll c scope.children scope.children with
  | error fault => simp [hbatch] at h
  | ok batch =>
    simp only [hbatch, Report.result_andThen, Report.say, Except.bind, Report.result_done,
      Except.ok.injEq] at h
    have hinner : ShowsAll (.node (.scope scope.label.id) batch.trees) :=
      showsAll_node rfl fun t ht => showsAll_defineAll hbatch ht
    rw [← h]
    cases container with
    | none => exact hinner
    | some id =>
      refine showsAll_node rfl fun t ht => ?_
      rw [List.mem_singleton.mp ht]
      exact hinner

/-! ## The source of a schema -/

section Source

variable {c : Catalog} {s : Schema} {o : DeclOptions} {d : Declarations} {i : Definitions}

/-- The definitions are printed as they were built, each at its depth. -/
theorem exists_printed (s : Schema) (d : Declarations) (i : Definitions) :
    ∃ printed : Tree (Placed Defn), printed.map (·.value) = i.tree ∧
      (CodeUnit.ofTrees s d i).defnText =
        "\n".intercalate (defnLines (CodeUnit.ofTrees s d i).world.decls printed) := by
  have hnodup : ((i.tree.number 0).1.labels.map (·.id)).Nodup := by
    rw [(Tree.ids_number i.tree 0).1]
    exact List.nodup_range'
  have hroot : (i.tree.number 0).1.label.id = 0 := by
    cases i.tree with
    | node d cs => rfl
  have houtline := Forest.outline?_of_shows (Forest.shows_plant hnodup) hnodup
  rw [hroot] at houtline
  refine ⟨(i.tree.number 0).1.map (({} : Forest Defn).plant (i.tree.number 0).1).place, ?_, ?_⟩
  · rw [Tree.map_map]
    exact Tree.map_value_number i.tree 0
  · exact congrArg (fun printed => (Option.map (renderDefn _) printed).getD "") houtline

/-- The member of a shown class is found by its number. -/
theorem memberAt_of_shows {decls : Forest Decl} {t : Tree (Tree.Numbered Decl)}
    (h : decls.Shows t) {m : NodeId × MemberDecl} (hm : m ∈ numberedMembers t) :
    memberAt decls m.1 = m.2 := by
  obtain ⟨u, hu, hmap⟩ := List.mem_filterMap.mp hm
  obtain ⟨decl, hdecl, rfl⟩ := Option.map_eq_some_iff.mp hmap
  rw [memberAt, (h.of_mem_children hu).value?, Option.bind_some, hdecl]
  rfl

/-- Numbers tell the members of a class apart. -/
theorem nodup_numberedMembers (hd : (buildDeclarations c s o).result = .ok d)
    {t : Tree (Tree.Numbered Decl)} (ht : t ∈ d.scope.children) :
    ((numberedMembers t).map (·.1)).Nodup := by
  obtain ⟨groups, headers, ordered, -, -, rfl⟩ := exists_of_buildDeclarations hd
  have hnodup := nodup_ids_scopeTree s ordered
  rw [scopeTree, Tree.labels_node, List.map_cons, List.map_flatMap] at hnodup
  have hclass := (List.nodup_flatMap.mp (List.nodup_cons.mp hnodup).2).1 t ht
  refine List.Nodup.sublist ?_ hclass
  have hmembers : (numberedMembers t).map (·.1) =
      (t.children.filter (·.label.value.member?.isSome)).map (·.label.id) := by
    rw [numberedMembers, List.map_filterMap, ← List.filterMap_eq_filter, List.map_filterMap]
    refine List.filterMap_congr fun u _ => ?_
    cases h : u.label.value.member? <;> simp [Option.guard, h]
  rw [hmembers]
  cases t with
  | node l cs =>
    rw [Tree.labels_node, Tree.children_node, List.map_cons]
    refine ((List.filter_sublist.map _).trans ?_).cons _
    have hlabels := (Tree.map_label_sublist cs).map (·.id)
    rwa [List.map_map] at hlabels

theorem filter_numberedMembers (hd : (buildDeclarations c s o).result = .ok d)
    {t : Tree (Tree.Numbered Decl)} (ht : t ∈ d.scope.children) {m : NodeId × MemberDecl}
    (hm : m ∈ numberedMembers t) : (numberedMembers t).filter (·.1 = m.1) = [m] := by
  classical
  refine filter_eq_singleton (List.Nodup.of_map _ (nodup_numberedMembers hd ht)) hm
    (decide_eq_true rfl) fun m' hm' heq => ?_
  exact List.inj_on_of_nodup_map (nodup_numberedMembers hd ht) hm' hm (of_decide_eq_true heq)

theorem reads?_readStatement (access : Access) (m : NodeId × MemberDecl) :
    (readStatement access m).reads? = some m.1 := by
  unfold readStatement
  split <;> rfl

/-- **A body that reads a member reads it in one statement**, from inside its class or from
outside. -/
theorem filter_reads_eq (hd : (buildDeclarations c s o).result = .ok d)
    (hi : (buildDefinitions c s.name (d.container.map Prod.fst) d.scope).result = .ok i)
    {t : Tree (Tree.Numbered Decl)} (ht : t ∈ d.scope.children) {m : NodeId × MemberDecl}
    (hm : m ∈ numberedMembers t) {b : Body} (hb : b ∈ bodies i.tree) {statement : Defn}
    (hstatement : statement ∈ b.statements) (hread : statement.reads? = some m.1) :
    b.statements.filter (·.reads? = some m.1) = [readStatement (Defn.accessOf b.owner) m] := by
  have hid := id_mem_of_mem_members (List.mem_map_of_mem (f := (·.1)) hm)
  -- the class that the body reads has the member, so it is this one
  have hstatements : b.statements = readStatements c t (Defn.accessOf b.owner) := by
    obtain ⟨u, hu, hbu⟩ := (mem_bodies_iff hi).mp hb
    rcases exists_of_reads hbu hstatement hread with ⟨-, -, hown, f, -, -, rfl⟩ |
      ⟨f, target, -, -, htarget, hown, -, rfl⟩
    · rw [eq_of_mem_ids hd ht hu hid (id_mem_of_mem_members hown)]
      rfl
    · rw [eq_of_mem_ids hd ht (mem_of_classNamed? htarget).1 hid (id_mem_of_mem_members hown)]
      rfl
  rw [hstatements, filter_eq_some_of_map (reads?_readStatement _)
    (filter_reads_readStatements c t _) m.1, filter_numberedMembers hd ht hm]
  rfl

/-- Every body that reads a member does so in one statement, which makes an object, and which the
source prints in one piece: as these lines, by how the body reaches its members. -/
def ReadAs (decls : Forest Decl) (printed : Tree (Placed Defn)) (member : NodeId)
    (lines : Access → List String) : Prop :=
  ∀ u ∈ printed.subtrees, ∀ decl owner, u.label.value = .function decl owner →
    ∀ statement ∈ u.children, statement.label.value.reads? = some member →
      u.children.filter (·.label.value.reads? = some member) = [statement] ∧
      statement.label.value = .owned member (Defn.accessOf owner) ∧
      defnLines decls statement =
        indented statement.label.depth (lines (Defn.accessOf owner)) ∧
      defnLines decls statement <:+: defnLines decls u ∧
      defnLines decls u <:+: defnLines decls printed

/-- A list whose matches have one value between them has one match at most. -/
theorem filter_eq_singleton_of_map {α β : Type} {l : List α} {view : α → β} {p : β → Bool}
    {values : List β} {b : β} (hsub : (l.map view).Sublist values)
    (hvalues : values.filter p = [b]) {a : α} (ha : a ∈ l) (hpa : p (view a) = true) :
    l.filter (fun a => p (view a)) = [a] ∧ view a = b := by
  have hfilter : ((l.filter (fun a => p (view a))).map view).Sublist [b] := by
    rw [← hvalues, ← Function.comp_def p view, ← List.filter_map]
    exact hsub.filter p
  have hmem : a ∈ l.filter (fun a => p (view a)) := List.mem_filter.mpr ⟨ha, hpa⟩
  obtain ⟨a', ha'⟩ : ∃ a', l.filter (fun a => p (view a)) = [a'] := by
    refine List.length_eq_one_iff.mp (Nat.le_antisymm ?_ (List.length_pos_of_mem hmem))
    simpa using hfilter.length_le
  rw [ha'] at hmem hfilter
  cases List.mem_singleton.mp hmem
  exact ⟨ha', List.mem_singleton.mp (hfilter.subset (List.mem_singleton_self _))⟩

/-- **What is printed for a selected member.** -/
theorem readAs_chainLines (hd : (buildDeclarations c s o).result = .ok d)
    (hi : (buildDefinitions c s.name (d.container.map Prod.fst) d.scope).result = .ok i)
    {printed : Tree (Placed Defn)} (hprinted : printed.map (·.value) = i.tree)
    {t : Tree (Tree.Numbered Decl)} (ht : t ∈ d.scope.children) {m : NodeId × MemberDecl}
    (hm : m ∈ numberedMembers t) (hkind : m.2.type.kind = .selector)
    (hcases : m.2.type.cases ≠ []) :
    ReadAs (CodeUnit.ofTrees s d i).world.decls printed m.1 fun access =>
      chainLines m.2.name m.2.type.key access m.2.type.cases := by
  intro u hu decl owner hfunction statement hstatement hread
  have htree : u.map (·.value) ∈ i.tree.subtrees := by
    rw [← hprinted, Tree.subtrees_map]
    exact List.mem_map_of_mem hu
  have hbody : (⟨decl, owner, (u.map (·.value)).children.flatMap Tree.labels⟩ : Body) ∈
      bodies i.tree := by
    refine List.mem_filterMap.mpr ⟨_, htree, ?_⟩
    rw [bodyOf?, Tree.label_map, hfunction]
  have hsub : (u.children.map (·.label.value)).Sublist
      ((u.map (·.value)).children.flatMap Tree.labels) := by
    have hlabels : u.children.map (·.label.value) = (u.map (·.value)).children.map Tree.label := by
      rw [Tree.children_map, List.map_map]
      exact List.map_congr_left fun v _ => (Tree.label_map (·.value) v).symm
    rw [hlabels]
    exact Tree.map_label_sublist _
  have hreads := filter_reads_eq hd hi ht hm hbody (hsub.subset (List.mem_map_of_mem hstatement))
    hread
  obtain ⟨honly, howned⟩ := filter_eq_singleton_of_map hsub hreads hstatement (decide_eq_true hread)
  rw [readStatement_eq_owned.mpr ⟨hkind, rfl, rfl⟩] at howned
  refine ⟨honly, howned, ?_, ?_, ?_⟩
  · exact defnLines_owned howned (memberAt_of_shows (shows_child hd i ht) hm) hcases
  · exact defnLines_within (by rw [hfunction]; rfl) hstatement
  · refine defnLines_of_mem_subtrees _ (fun v hv => ?_) hu
    have hshows := showsAll_of_buildDefinitions hi (v.map (·.value)) (by
      rw [← hprinted, Tree.subtrees_map]
      exact List.mem_map_of_mem hv)
    rwa [Tree.children_map, List.map_eq_nil_iff, Tree.label_map] at hshows

end Source

/-! ## The whole way -/

/-- **Selectors are complete.** Take any element whose data type stands in parentheses. It has a
meaning exactly if its parts are there, and else its fault is an invalid argument. Its meaning has
one case for each enumerator, paired with the type that has the same place in the other list. And in
the source of any schema, where a body reads a member that declares the element, it prints one chain
that has one branch for each case, in order. -/
theorem selector_complete (r : Resolver) (group : SchemaObject) (element : DataElement)
    {text : String} (htype : Text.trim element.dataType = "(" ++ text ++ ")") :
    ((∃ type, r.resolve group element = .ok type) ↔
      ∃ key enumerators choices keyType types,
        Selects r group element text key enumerators choices keyType types) ∧
    (∀ fault, r.resolve group element = .error fault → fault.code = some .invalidArgument) ∧
    ∀ type, r.resolve group element = .ok type →
      ∃ key enumerators choices keyType types,
        Selects r group element text key enumerators choices keyType types ∧
        type.kind = .selector ∧ type.key = key ∧
        type.cases = selectorCases keyType enumerators types ∧
        type.cases.length = enumerators.length ∧
        ∀ o d i, (buildDeclarations r.catalog r.schema o).result = .ok d →
          (buildDefinitions r.catalog r.schema.name (d.container.map Prod.fst) d.scope).result =
            .ok i →
          ∃ printed : Tree (Placed Defn), printed.map (·.value) = i.tree ∧
            (CodeUnit.ofTrees r.schema d i).defnText = "\n".intercalate
              (defnLines (CodeUnit.ofTrees r.schema d i).world.decls printed) ∧
            ∀ t ∈ d.scope.children, ∀ m ∈ numberedMembers t, IsMemberFor r group element m.2 →
              ReadAs (CodeUnit.ofTrees r.schema d i).world.decls printed m.1 fun access =>
                chainLines element.name key access (selectorCases keyType enumerators types) := by
  refine ⟨?_, fun fault => code_of_resolve, ?_⟩
  · constructor
    · rintro ⟨type, hresolve⟩
      obtain ⟨key, enumerators, choices, keyType, types, hselects, -⟩ :=
        (resolve_selector_iff htype).mp hresolve
      exact ⟨key, enumerators, choices, keyType, types, hselects⟩
    · rintro ⟨key, enumerators, choices, keyType, types, hselects⟩
      exact ⟨_, (resolve_selector_iff htype).mpr
        ⟨key, enumerators, choices, keyType, types, hselects, rfl⟩⟩
  · intro type hresolve
    obtain ⟨key, enumerators, choices, keyType, types, hselects, rfl⟩ :=
      (resolve_selector_iff htype).mp hresolve
    have hcount : (selectorCases keyType enumerators types).length = enumerators.length :=
      hselects.length_selectorCases
    refine ⟨key, enumerators, choices, keyType, types, hselects, rfl, rfl, rfl, hcount, ?_⟩
    intro o d i hd hi
    obtain ⟨printed, hprinted, htext⟩ := exists_printed r.schema d i
    refine ⟨printed, hprinted, htext, fun t ht m hm hmember => ?_⟩
    -- the member has the type that the element resolves to
    have hmtype : m.2.type = _ := Except.ok.inj (hmember.2.2.symm.trans hresolve)
    have hcases : m.2.type.cases ≠ [] := by
      rw [hmtype, ← List.length_pos_iff, hcount]
      exact hselects.count.1
    have hreads := readAs_chainLines hd hi hprinted ht hm (by rw [hmtype]) hcases
    rw [hmember.1, hmtype] at hreads
    exact hreads

/-- The group of a selected element and its key. -/
def choiceGroup : SchemaObject :=
  { name := "G", type := .dataGroup, elements := [keyElement, choiceElement] }

/-- Where a group is read that has a choice between two others, and there is a body that reads it,
two branches are printed. -/
theorem selector_complete_choice :
    ∃ c d i type printed t m, translation? (choiceSchema [] [keyElement, choiceElement]) =
        some (c, d, i) ∧
      Resolver.resolve ⟨c, choiceSchema [] [keyElement, choiceElement]⟩ choiceGroup choiceElement =
        .ok type ∧
      t ∈ d.scope.children ∧ m ∈ numberedMembers t ∧ m.2.name = "x" ∧
      (∃ b ∈ bodies i.tree, ∃ statement ∈ b.statements, statement.reads? = some m.1) ∧
      printed.map (·.value) = i.tree ∧
      ReadAs (CodeUnit.ofTrees (choiceSchema [] [keyElement, choiceElement]) d i).world.decls
        printed m.1 fun access => chainLines "x" type.key access
          [⟨"s_ns::E::P", "s_ns::A"⟩, ⟨"s_ns::E::Q", "s_ns::B"⟩] := by
  have hcases : ((translation? (choiceSchema [] [keyElement, choiceElement])).bind fun r =>
      (Resolver.resolve ⟨r.1, choiceSchema [] [keyElement, choiceElement]⟩ choiceGroup
        choiceElement).toOption.map (·.cases)) =
      some [⟨"s_ns::E::P", "s_ns::A"⟩, ⟨"s_ns::E::Q", "s_ns::B"⟩] := by
    decide +kernel
  have hread : ∀ r ∈ translation? (choiceSchema [] [keyElement, choiceElement]),
      ∀ t ∈ r.2.1.scope.children, ∀ m ∈ numberedMembers t, ∃ b ∈ bodies r.2.2.tree,
        ∃ statement ∈ b.statements, statement.reads? = some m.1 := by
    decide +kernel
  obtain ⟨⟨c, d, i⟩, htranslation, hcases⟩ := Option.bind_eq_some_iff.mp hcases
  obtain ⟨type, htype, hcases⟩ := Option.map_eq_some_iff.mp hcases
  obtain ⟨-, hd, hi⟩ := of_translation? htranslation
  have hresolve := eq_ok_of_toOption htype
  obtain ⟨-, -, hmeaning⟩ := selector_complete
    ⟨c, choiceSchema [] [keyElement, choiceElement]⟩ choiceGroup choiceElement
    (show _ = "(" ++ "\x7bA\x7d, \x7bB\x7d" ++ ")" by decide +kernel)
  obtain ⟨key, enumerators, choices, keyType, types, -, -, hkey, hpaired, -, hsource⟩ :=
    hmeaning type hresolve
  obtain ⟨printed, hprinted, -, hreads⟩ := hsource {} d i hd hi
  obtain ⟨t, ht, members, -, hmembers, hvalues⟩ :=
    exists_groupClass hd (g := choiceGroup) (by decide)
  obtain ⟨m, hm, hmember⟩ := exists_mem_left_of_forall₂ (forall₂_numberedMembers hmembers hvalues)
    (show choiceElement ∈ choiceGroup.elements by decide)
  have hchain := hreads t ht m hm hmember
  rw [← hpaired, hcases, ← hkey] at hchain
  exact ⟨c, d, i, type, printed, t, m, htranslation, hresolve, ht, hm, hmember.1,
    hread _ htranslation t ht m hm, hprinted, hchain⟩

end SchemaGen
