import SchemaGen.Definition.Build
import SchemaGen.Proofs.Declaration.Shape

/-!
# Definitions mirror declarations

The header declares and the source file defines, and the two are made by different walks: one gives
declarations to groups by their roles, orders them, and adds overloads and readers afterwards; the
other goes through the result and decides by kind and name what to define. A function that one of
them forgets is an undefined symbol, one that is met twice is a symbol defined twice.

`Symbol` names what has a definition of its own. `declarationsOf` and `definitionsOf` list the
symbols of a kind in a tree of either sort, each with its number and the class that it belongs to,
and `Mirrors` says that both give the same lists. It is made for concatenation: declarations in a
row are mirrored by their definitions in a row, and a namespace by a namespace around them. So all
that is to be checked is one declaration at a time (`exists_mirror_of_define`).
-/

set_option autoImplicit false

namespace SchemaGen

/-! ## Symbols -/

/-- What has a definition of its own in the source file. -/
inductive Symbol where
  | scope
  | function
  | staticMember
deriving DecidableEq

/-- The symbol that a declaration introduces. -/
def Decl.symbol? : Decl → Option Symbol
  | .scope _ => some .scope
  | .function _ => some .function
  | .metaInfo .. | .stored .. => some .staticMember
  | _ => none

/-- The symbol that a definition defines; a statement defines none. -/
def Defn.symbol? : Defn → Option Symbol
  | .scope _ => some .scope
  | .function .. => some .function
  | .staticMember .. => some .staticMember
  | _ => none

theorem Decl.symbol?_of_isType {d : Decl} (h : d.isType = true) : d.symbol? = none := by
  cases d with
  | typedef | enumeration | enumSerialization => rfl
  | _ => cases h

/-- The number of the class that a declaration with this parent belongs to. -/
def owningClass? (parent : Option (Tree.Numbered Decl)) : Option NodeId :=
  parent.bind fun l => l.value.struct?.map fun _ => l.id

theorem owningClass?_of_struct {l : Tree.Numbered Decl} {decl : StructDecl}
    (h : l.value = .struct decl) : owningClass? (some l) = some l.id := by
  rw [owningClass?, Option.bind_some, h]
  rfl

/-- The declarations of a kind of symbol below `parent`, every node before its descendants: their
numbers and the classes they belong to. -/
def declarationsOf (k : Symbol) (parent : Option (Tree.Numbered Decl))
    (t : Tree (Tree.Numbered Decl)) : List (Option NodeId × Option NodeId) :=
  ((t.withParents parent).filter (·.1.value.symbol? = some k)).map fun l =>
    (some l.1.id, owningClass? l.2)

/-- The definitions of a kind of symbol, every node before its descendants: the declarations they
point at and the classes they belong to. -/
def definitionsOf (k : Symbol) (t : Tree Defn) : List (Option NodeId × Option NodeId) :=
  (t.labels.filter (·.symbol? = some k)).map fun d => (d.decl?, d.owner?)

theorem declarationsOf_node (k : Symbol) (parent : Option (Tree.Numbered Decl))
    (l : Tree.Numbered Decl) (cs : List (Tree (Tree.Numbered Decl))) :
    declarationsOf k parent (.node l cs) =
      (if l.value.symbol? = some k then [(some l.id, owningClass? parent)] else []) ++
        cs.flatMap (declarationsOf k (some l)) := by
  rw [declarationsOf, Tree.withParents_node, List.filter_cons, List.filter_flatMap]
  by_cases hk : l.value.symbol? = some k
  · simp only [hk, decide_true, if_true, List.map_cons, List.map_flatMap]
    rfl
  · simp only [hk, decide_false, Bool.false_eq_true, if_false, List.map_flatMap]
    rfl

theorem definitionsOf_node (k : Symbol) (d : Defn) (cs : List (Tree Defn)) :
    definitionsOf k (.node d cs) =
      (if d.symbol? = some k then [(d.decl?, d.owner?)] else []) ++
        cs.flatMap (definitionsOf k) := by
  rw [definitionsOf, Tree.labels_node, List.filter_cons, List.filter_flatMap]
  by_cases hk : d.symbol? = some k
  · simp only [hk, decide_true, if_true, List.map_cons, List.map_flatMap]
    rfl
  · simp only [hk, decide_false, Bool.false_eq_true, if_false, List.map_flatMap]
    rfl

/-- Definitions that say of the declarations below `parent` what these ask for. -/
def Mirrors (parent : Option (Tree.Numbered Decl)) (decls : List (Tree (Tree.Numbered Decl)))
    (defns : List (Tree Defn)) : Prop :=
  ∀ k, defns.flatMap (definitionsOf k) = decls.flatMap (declarationsOf k parent)

namespace Mirrors

variable {parent : Option (Tree.Numbered Decl)}

theorem nil : Mirrors parent [] [] :=
  fun _ => rfl

theorem append {decls decls' : List (Tree (Tree.Numbered Decl))} {defns defns' : List (Tree Defn)}
    (h : Mirrors parent decls defns) (h' : Mirrors parent decls' defns') :
    Mirrors parent (decls ++ decls') (defns ++ defns') := by
  intro k
  rw [List.flatMap_append, List.flatMap_append, h k, h' k]

/-- A namespace of mirrored declarations is mirrored by a namespace. -/
theorem scope {id : NodeId} {name : String} {decls : List (Tree (Tree.Numbered Decl))}
    {defns : List (Tree Defn)} (hparent : owningClass? parent = none)
    (h : Mirrors (some ⟨id, .scope name⟩) decls defns) :
    Mirrors parent [.node ⟨id, .scope name⟩ decls] [.node (.scope id) defns] := by
  intro k
  simp only [List.flatMap_cons, List.flatMap_nil, List.append_nil, declarationsOf_node,
    definitionsOf_node, h k, hparent]
  rfl

/-- A declaration that introduces no symbol asks for nothing. -/
theorem skip {l : Tree.Numbered Decl} (h : l.value.symbol? = none) :
    Mirrors parent [.leaf l] [] := by
  intro k
  simp [Tree.leaf, declarationsOf_node, h]

/-- A function is mirrored by its body, if that is made of statements. -/
theorem function {id : NodeId} {f : FunctionDecl} {body : List Defn}
    (hbody : ∀ d ∈ body, d.symbol? = none) :
    Mirrors parent [.leaf ⟨id, .function f⟩] [functionTree id (owningClass? parent) body] := by
  intro k
  have hstatements : (body.map Tree.leaf).flatMap (definitionsOf k) = [] := by
    rw [List.flatMap_map, List.flatMap_eq_nil_iff]
    intro d hd
    simp [Tree.leaf, definitionsOf_node, hbody d hd]
  simp only [List.flatMap_cons, List.flatMap_nil, List.append_nil, functionTree, Tree.leaf,
    declarationsOf_node, definitionsOf_node, hstatements]
  rfl

end Mirrors

/-! ## Bodies -/

theorem symbol?_of_mem_readStatements {c : Catalog} {group : Tree (Tree.Numbered Decl)}
    {access : Access} {d : Defn} (h : d ∈ readStatements c group access) : d.symbol? = none := by
  unfold readStatements at h
  rcases List.mem_append.mp h with h | h
  · obtain ⟨m, -, rfl⟩ := List.mem_map.mp h
    unfold readStatement
    split <;> rfl
  · split at h
    · obtain ⟨m, -, rfl⟩ := List.mem_map.mp h
      rfl
    · cases h

/-- There are three statements that enter variables into a performance map. -/
theorem forall_mem_populateStatements {group : Tree (Tree.Numbered Decl)} {function : NodeId}
    {P : Defn → Prop} (haxis : ∀ member, P (.axis member)) (htable : ∀ member, P (.table member))
    (hfinalize : P (.finalize function)) : ∀ d ∈ populateStatements group function, P d := by
  intro d h
  unfold populateStatements at h
  split at h
  · rcases List.mem_append.mp h with h | h
    · obtain ⟨m, -, rfl⟩ := List.mem_map.mp h
      exact haxis m.1
    · rw [List.mem_singleton.mp h]
      exact hfinalize
  · obtain ⟨m, -, rfl⟩ := List.mem_map.mp h
    exact htable m.1
  · cases h

/-- Every function that a class may declare has a body, which is made of statements. -/
theorem exists_defineFunction? (c : Catalog) (group : Tree (Tree.Numbered Decl)) (id : NodeId)
    {f : FunctionDecl} (h : ClassMember (.function f)) :
    ∃ body headers, (∀ d ∈ body, d.symbol? = none) ∧
      defineFunction? c group (id, f) =
        some (functionTree id (some group.label.id) body, headers) := by
  have hinitialize (hf : f.isInitialize = true) : defineFunction? c group (id, f) =
      some (functionTree id (some group.label.id) (readStatements c group .inside),
        readHeaders group) := by
    simp [defineFunction?, hf]
  have hpopulate (hf : f.isInitialize = false) (hf' : f.isPopulate = true) :
      defineFunction? c group (id, f) =
        some (functionTree id (some group.label.id) (populateStatements group id), []) := by
    simp [defineFunction?, hf, hf']
  -- the bodies are told apart by name, and each role overrides one function
  cases h with
  | datum hdatum => cases hdatum
  | override role hrole =>
    cases role with
    | root | performanceMap =>
      cases List.mem_singleton.mp hrole
      exact ⟨_, _, fun d hd => symbol?_of_mem_readStatements hd, hinitialize rfl⟩
    | gridVariables | lookupVariables =>
      cases List.mem_singleton.mp hrole
      exact ⟨_, _, forall_mem_populateStatements (fun _ => rfl) (fun _ => rfl) rfl,
        hpopulate rfl rfl⟩
    | plain => cases hrole
  | overload grid lookup =>
    refine ⟨[.overloadBody id "s", .giveBack (some id) "s"], [], fun d hd => ?_, rfl⟩
    simp only [List.mem_cons, List.not_mem_nil, or_false] at hd
    rcases hd with rfl | rfl <;> rfl

/-! ## Classes -/

theorem declarationsOf_leaf (k : Symbol) (parent : Option (Tree.Numbered Decl))
    (m : Tree.Numbered Decl) :
    declarationsOf k parent (.leaf m) =
      if m.value.symbol? = some k then [(some m.id, owningClass? parent)] else [] := by
  rw [Tree.leaf, declarationsOf_node, List.flatMap_nil, List.append_nil]

/-- What a class may declare is no namespace. -/
theorem symbol?_ne_scope_of_classMember {d : Decl} (h : ClassMember d) :
    d.symbol? ≠ some .scope := by
  intro hscope
  cases d with
  | scope name =>
    cases h with
    | datum hdatum => cases hdatum
    | override role hrole => cases role <;> simp [overrides] at hrole
  | _ => cases hscope

/-- A pass over the members of a class that defines one kind of symbol, each member for itself. -/
def DefinesOnly (k : Symbol) (l : Tree.Numbered Decl)
    (pass : Tree (Tree.Numbered Decl) → Option (Tree Defn)) (m : Tree.Numbered Decl) : Prop :=
  ∀ k', (pass (.leaf m)).toList.flatMap (definitionsOf k') =
    if k' = k then declarationsOf k' (some l) (.leaf m) else []

/-- Such a pass gives the definitions of its kind in the order of the members. -/
theorem flatMap_definitionsOf_pass {k : Symbol} {l : Tree.Numbered Decl}
    {pass : Tree (Tree.Numbered Decl) → Option (Tree Defn)} {ms : List (Tree.Numbered Decl)}
    (h : ∀ m ∈ ms, DefinesOnly k l pass m) (k' : Symbol) :
    ((ms.map Tree.leaf).filterMap pass).flatMap (definitionsOf k') =
      if k' = k then (ms.map Tree.leaf).flatMap (declarationsOf k' (some l)) else [] := by
  rw [List.filterMap_eq_flatMap_toList, List.flatMap_assoc, List.flatMap_map, List.flatMap_map]
  rw [List.flatMap_congr fun m hm => h m hm k']
  by_cases hk : k' = k
  · simp only [hk, if_true]
  · simp only [hk, if_false, List.flatMap_eq_nil_iff, implies_true]

/-- The definition of a static member of a class. -/
def staticDefinition? (owner : NodeId) (child : Tree (Tree.Numbered Decl)) : Option (Tree Defn) :=
  match child.label.value with
  | .metaInfo .. | .stored .. => some (.leaf (.staticMember child.label.id owner))
  | _ => none

theorem definesOnly_staticDefinition? {l : Tree.Numbered Decl}
    (hl : owningClass? (some l) = some l.id) (m : Tree.Numbered Decl) :
    DefinesOnly .staticMember l (staticDefinition? l.id) m := by
  intro k'
  rw [declarationsOf_leaf, hl]
  obtain ⟨id, value⟩ := m
  cases value with
  | metaInfo name text => cases k' <;> rfl
  | stored name type => cases k' <;> rfl
  | _ => cases k' <;> rfl

/-- The definition of a member function of a class. -/
def functionDefinition? (c : Catalog) (group child : Tree (Tree.Numbered Decl)) :
    Option (Tree Defn) :=
  ((child.label.value.function?.map fun f => (child.label.id, f)).bind
    (defineFunction? c group)).map Prod.fst

theorem definesOnly_functionDefinition? (c : Catalog) (group : Tree (Tree.Numbered Decl))
    (hl : owningClass? (some group.label) = some group.label.id) {m : Tree.Numbered Decl}
    (hm : ClassMember m.value) :
    DefinesOnly .function group.label (functionDefinition? c group) m := by
  intro k'
  obtain ⟨id, value⟩ := m
  cases value with
  | function f =>
    obtain ⟨body, headers, hbody, hdefine⟩ := exists_defineFunction? c group id hm
    have hpass : functionDefinition? c group (.leaf ⟨id, .function f⟩) =
        some (functionTree id (some group.label.id) body) := by
      show ((defineFunction? c group (id, f)).map Prod.fst) = _
      rw [hdefine]
      rfl
    have hmirror := @Mirrors.function (some group.label) id f body hbody k'
    rw [hl] at hmirror
    rw [hpass, Option.toList_some, hmirror, List.flatMap_singleton]
    cases k' <;> rfl
  | _ =>
    rw [declarationsOf_leaf]
    cases k' <;> rfl

/-- **A class is mirrored by the definitions of its members.** Static members come first there, so
the order of the declarations is kept within each kind only. -/
theorem mirrors_defineClass (c : Catalog) (parent : Option (Tree.Numbered Decl))
    {l : Tree.Numbered Decl} {decl : StructDecl} (hl : l.value = .struct decl)
    {ms : List (Tree.Numbered Decl)} (hms : ∀ m ∈ ms, ClassMember m.value) :
    Mirrors parent [.node l (ms.map .leaf)] (defineClass c (.node l (ms.map .leaf))).trees := by
  have howner := owningClass?_of_struct hl
  -- two passes over the members, one for each kind that a class can declare
  have htrees : (defineClass c (.node l (ms.map .leaf))).trees =
      (ms.map Tree.leaf).filterMap (staticDefinition? l.id) ++
        (ms.map Tree.leaf).filterMap (functionDefinition? c (.node l (ms.map .leaf))) := by
    rw [defineClass, numberedFunctions, List.filterMap_filterMap, List.map_filterMap]
    rfl
  intro k
  rw [htrees, List.flatMap_append,
    flatMap_definitionsOf_pass fun m _ => definesOnly_staticDefinition? howner m,
    flatMap_definitionsOf_pass fun m hm =>
      definesOnly_functionDefinition? c (.node l (ms.map .leaf)) howner (hms m hm),
    List.flatMap_singleton, declarationsOf_node, hl]
  cases k with
  | function | staticMember => simp [Decl.symbol?]
  | scope =>
    have hnone : (ms.map Tree.leaf).flatMap (declarationsOf .scope (some l)) = [] := by
      rw [List.flatMap_map, List.flatMap_eq_nil_iff]
      intro m hm
      rw [declarationsOf_leaf, if_neg (symbol?_ne_scope_of_classMember (hms m hm))]
    rw [hnone]
    rfl

/-! ## Namespaces -/

/-- A class of some name is found under it. -/
theorem exists_classNamed? {children : List (Tree (Tree.Numbered Decl))}
    {t : Tree (Tree.Numbered Decl)} {decl : StructDecl} (ht : t ∈ children)
    (hdecl : t.label.value = .struct decl) :
    ∃ target, classNamed? children decl.name = some target := by
  refine Option.isSome_iff_exists.mp (List.find?_isSome.mpr ⟨t, List.mem_reverse.mpr ht, ?_⟩)
  rw [hdecl]
  exact decide_eq_true rfl

theorem exists_mirror_of_reader (c : Catalog) {parent : Option (Tree.Numbered Decl)}
    (hparent : owningClass? parent = none) (id : NodeId) (f : FunctionDecl)
    (target : Tree (Tree.Numbered Decl)) :
    Mirrors parent [.leaf ⟨id, .function f⟩] (defineReader c id target).trees := by
  unfold defineReader
  rw [← hparent]
  split
  · refine Mirrors.function fun d hd => ?_
    rw [List.mem_singleton.mp hd]
    rfl
  · exact Mirrors.function fun d hd => symbol?_of_mem_readStatements hd

/-- **One declaration at a time.** What may stand in the namespace of a schema is defined without
fault, and mirrored, if the groups that have readers have classes. -/
theorem exists_mirror_of_define (c : Catalog) {s : Schema} {parent : Option (Tree.Numbered Decl)}
    (hparent : owningClass? parent = none) {siblings : List (Tree (Tree.Numbered Decl))}
    (hgroups : ∀ g ∈ s.groups, ∃ target, classNamed? siblings g.name = some target)
    {t : Tree (Tree.Numbered Decl)} (ht : TopLevel s (t.map (·.value))) :
    ∃ batch, define c siblings t = .ok batch ∧ Mirrors parent [t] batch.trees := by
  generalize hmap : t.map (·.value) = u at ht
  have hvalue : t.label.value = u.label := by rw [← hmap, Tree.label_map]
  cases ht with
  | @typeDecl d htype =>
    have hd : t.label.value = d := hvalue
    refine ⟨{}, ?_, ?_⟩
    · unfold define
      rw [hd]
      cases d with
      | typedef | enumeration | enumSerialization => rfl
      | _ => cases htype
    · rw [Tree.eq_leaf_of_map hmap]
      refine Mirrors.skip ?_
      rw [hd]
      exact Decl.symbol?_of_isType htype
  | @classDecl decl members hmembers =>
    have hdecl : t.label.value = .struct decl := hvalue
    refine ⟨defineClass c t, ?_, ?_⟩
    · unfold define
      rw [hdecl]
    · obtain ⟨ms, hms, hnode⟩ := Tree.exists_leaves_of_map hmap
      rw [hnode]
      refine mirrors_defineClass c parent hdecl fun m hm => hmembers _ ?_
      rw [← hms]
      exact List.mem_map_of_mem hm
  | @readerDecl g hg =>
    have hreader : t.label.value = .fromJson g.name := hvalue
    obtain ⟨target, htarget⟩ := hgroups g hg
    refine ⟨defineReader c t.label.id target, ?_, ?_⟩
    · unfold define
      rw [hreader]
      simp only [Decl.fromJson, if_true, htarget]
    · rw [Tree.eq_leaf_of_map hmap, show t.label = ⟨t.label.id, .fromJson g.name⟩ by rw [← hreader]]
      exact exists_mirror_of_reader c hparent _ _ target

/-- All declarations of a namespace are defined without fault, and mirrored. -/
theorem exists_mirror_of_defineAll (c : Catalog) {s : Schema}
    {parent : Option (Tree.Numbered Decl)} (hparent : owningClass? parent = none)
    {siblings : List (Tree (Tree.Numbered Decl))}
    (hgroups : ∀ g ∈ s.groups, ∃ target, classNamed? siblings g.name = some target) :
    ∀ {ts : List (Tree (Tree.Numbered Decl))}, (∀ t ∈ ts, TopLevel s (t.map (·.value))) →
      ∃ batch, defineAll c siblings ts = .ok batch ∧ Mirrors parent ts batch.trees
  | [], _ => ⟨{}, rfl, Mirrors.nil⟩
  | t :: ts, h => by
    obtain ⟨first, hfirst, hmirror⟩ :=
      exists_mirror_of_define c hparent hgroups (h t List.mem_cons_self)
    obtain ⟨rest, hrest, hmirrors⟩ :=
      exists_mirror_of_defineAll c hparent hgroups fun t' ht' => h t' (List.mem_cons_of_mem _ ht')
    refine ⟨{ trees := first.trees ++ rest.trees, headers := first.headers ++ rest.headers
              functions := first.functions + rest.functions }, ?_, hmirror.append hmirrors⟩
    rw [defineAll, hfirst, hrest]

/-! ## Free functions -/

/-- No class declares the reader of a group. -/
theorem not_classMember_fromJson (group : String) : ¬ ClassMember (.fromJson group) := by
  generalize hd : Decl.fromJson group = d
  intro h
  cases h with
  | datum hdatum =>
    rw [← hd] at hdatum
    cases hdatum
  | override role hrole =>
    rw [← hd] at hrole
    cases role <;> simp [overrides, Decl.fromJson] at hrole
  | overload grid lookup =>
    rw [Decl.fromJson, performanceOverload, Decl.function.injEq, FunctionDecl.mk.injEq] at hd
    cases hd.1

/-- The functions of a namespace that belong to no class are the readers of its groups. -/
theorem owningClass?_eq_none_iff {s : Schema} {t : Tree (Tree.Numbered Decl)}
    (ht : TopLevel s (t.map (·.value))) {l : Tree.Numbered Decl}
    (hl : owningClass? (some l) = none) {p : Tree.Numbered Decl × Option (Tree.Numbered Decl)}
    (hp : p ∈ t.withParents (some l)) (hf : p.1.value.symbol? = some .function) :
    owningClass? p.2 = none ↔ ∃ g ∈ s.groups, p.1.value = .fromJson g.name := by
  generalize hmap : t.map (·.value) = u at ht
  have hvalue : t.label.value = u.label := by rw [← hmap, Tree.label_map]
  cases ht with
  | @typeDecl d htype =>
    rw [Tree.eq_leaf_of_map hmap, Tree.withParents_leaf, List.mem_singleton] at hp
    rw [hp, hvalue] at hf
    cases (Decl.symbol?_of_isType htype).symm.trans hf
  | @classDecl decl members hmembers =>
    obtain ⟨ms, hms, hnode⟩ := Tree.exists_leaves_of_map hmap
    rw [hnode, Tree.withParents_node] at hp
    rcases List.mem_cons.mp hp with rfl | hp
    · rw [hvalue] at hf
      cases hf
    · obtain ⟨leaf, hleaf, hp⟩ := List.mem_flatMap.mp hp
      obtain ⟨m, hm, rfl⟩ := List.mem_map.mp hleaf
      rw [Tree.withParents_leaf, List.mem_singleton] at hp
      have hmember : ClassMember m.value := by
        refine hmembers _ ?_
        rw [← hms]
        exact List.mem_map_of_mem hm
      rw [hp, owningClass?_of_struct hvalue]
      constructor
      · intro hfree
        cases hfree
      · rintro ⟨g, -, hg⟩
        exact absurd (hg ▸ hmember) (not_classMember_fromJson g.name)
  | @readerDecl g hg =>
    rw [Tree.eq_leaf_of_map hmap, Tree.withParents_leaf, List.mem_singleton] at hp
    rw [hp]
    exact ⟨fun _ => ⟨g, hg, hvalue⟩, fun _ => hl⟩

/-! ## The whole tree -/

/-- The namespaces of a definition tree point at those of the declarations: the container's, if
there is one, around the schema's. -/
def ScopesMatch (d : Declarations) (t : Tree Defn) : Prop :=
  match d.container with
  | none => t.label = .scope d.scope.label.id
  | some (id, _) => ∃ inner, t = .node (.scope id) [inner] ∧ inner.label = .scope d.scope.label.id

/-- The root of the declarations of a schema is its namespace. -/
theorem scope_eq_node {c : Catalog} {s : Schema} {o : DeclOptions} {d : Declarations}
    (h : (buildDeclarations c s o).result = .ok d) :
    d.scope = .node ⟨0, .scope (Text.namespaceName s.name)⟩ d.scope.children := by
  obtain ⟨groups, headers, ordered, -, -, rfl⟩ := exists_of_buildDeclarations h
  rfl

/-- Whatever is put around finished declarations, their definitions mirror them inside. -/
theorem exists_mirror_of_scope {c : Catalog} {s : Schema} {o : DeclOptions} {d : Declarations}
    (h : (buildDeclarations c s o).result = .ok d) :
    ∃ batch, defineAll c d.scope.children d.scope.children = .ok batch ∧
      ∀ parent, owningClass? parent = none →
        Mirrors parent [d.scope] [.node (.scope d.scope.label.id) batch.trees] := by
  have hnode := scope_eq_node h
  have howner : owningClass? (some ⟨0, .scope (Text.namespaceName s.name)⟩) = none := rfl
  -- a reader cannot be defined without the class that it reads into
  have hgroups : ∀ g ∈ s.groups, ∃ target, classNamed? d.scope.children g.name = some target := by
    intro g hg
    obtain ⟨t, ht, decl, hdecl, hname⟩ := exists_class_of_group h hg
    rw [← hname]
    exact exists_classNamed? ht hdecl
  obtain ⟨batch, hbatch, hmirrors⟩ := exists_mirror_of_defineAll c howner hgroups
    fun t ht => topLevel_of_mem_scope h ht
  refine ⟨batch, hbatch, fun parent hparent => ?_⟩
  rw [hnode]
  exact Mirrors.scope hparent hmirrors

/-- The definitions of finished declarations can be built; their namespaces match, and they mirror
the whole tree. -/
theorem exists_mirror_of_declarations {c : Catalog} {s : Schema} {o : DeclOptions}
    {d : Declarations} (h : (buildDeclarations c s o).result = .ok d) :
    ∃ i, (buildDefinitions c s.name (d.container.map Prod.fst) d.scope).result = .ok i ∧
      ScopesMatch d i.tree ∧ Mirrors none [d.tree] [i.tree] := by
  obtain ⟨batch, hbatch, hmirrors⟩ := exists_mirror_of_scope h
  unfold buildDefinitions ScopesMatch Declarations.tree
  rw [hbatch]
  cases d.container with
  | none => exact ⟨_, rfl, rfl, hmirrors none rfl⟩
  | some container =>
    obtain ⟨id, name⟩ := container
    exact ⟨_, rfl, ⟨_, rfl, rfl⟩, Mirrors.scope rfl (hmirrors _ rfl)⟩

/-- The declarations of a tree that belong to no class, among its functions, are the readers of the
groups of its schema. -/
theorem free_iff_reader {c : Catalog} {s : Schema} {o : DeclOptions} {d : Declarations}
    (h : (buildDeclarations c s o).result = .ok d)
    {p : Tree.Numbered Decl × Option (Tree.Numbered Decl)} (hp : p ∈ d.tree.withParents none)
    (hf : p.1.value.symbol? = some .function) :
    owningClass? p.2 = none ↔ ∃ g ∈ s.groups, p.1.value = .fromJson g.name := by
  have hscope {parent : Option (Tree.Numbered Decl)} (hp : p ∈ d.scope.withParents parent) :
      owningClass? p.2 = none ↔ ∃ g ∈ s.groups, p.1.value = .fromJson g.name := by
    rw [scope_eq_node h, Tree.withParents_node] at hp
    rcases List.mem_cons.mp hp with rfl | hp
    · cases hf
    · obtain ⟨t, ht, hp⟩ := List.mem_flatMap.mp hp
      exact owningClass?_eq_none_iff (topLevel_of_mem_scope h ht) rfl hp hf
  unfold Declarations.tree at hp
  split at hp
  · rw [Tree.withParents_node, List.flatMap_singleton] at hp
    rcases List.mem_cons.mp hp with rfl | hp
    · cases hf
    · exact hscope hp
  · exact hscope hp

/-- **The definitions of a schema mirror its declarations.** Whenever the declarations can be built,
so can the definitions. Function bodies then point at the declared functions, each once and in
order, and static members likewise; each belongs to the class that its declaration is a child of,
and to none exactly if it is the reader of a group. The namespaces match. -/
theorem definitions_mirror_declarations {c : Catalog} {s : Schema} {o : DeclOptions}
    {d : Declarations} (h : (buildDeclarations c s o).result = .ok d) :
    ∃ i, (buildDefinitions c s.name (d.container.map Prod.fst) d.scope).result = .ok i ∧
      (∀ k, definitionsOf k i.tree = declarationsOf k none d.tree) ∧
      (d.tree.labels.map (·.id)).Nodup ∧
      (∀ p ∈ d.tree.withParents none, p.1.value.symbol? = some .function →
        (owningClass? p.2 = none ↔ ∃ g ∈ s.groups, p.1.value = .fromJson g.name)) ∧
      ScopesMatch d i.tree := by
  obtain ⟨i, hi, hscopes, hmirrors⟩ := exists_mirror_of_declarations h
  refine ⟨i, hi, fun k => ?_, nodup_ids_tree h, fun p hp hf => free_iff_reader h hp hf, hscopes⟩
  simpa using hmirrors k

/-- A schema with a root group and a performance map over its variables, in an order that has to be
changed. -/
def mapSchema : Schema where
  name := "R"
  objects :=
    [{ name := "R", type := .dataGroup
       elements := [{ name := "m", dataType := "[\x7bPerformanceMap\x7d]" }] },
      { name := "PerformanceMap", type := .performanceMap
        elements := [{ name := "g", dataType := "\x7bGridVariables\x7d" }] },
      { name := "GridVariables", type := .gridVariables },
      { name := "LookupVariables", type := .lookupVariables }]

/-- The catalog of that schema alone. -/
def mapCatalog : Catalog where
  origins := [.ofSchema mapSchema]
  index := [("R", 0), ("PerformanceMap", 0), ("GridVariables", 0), ("LookupVariables", 0)]

/-- Nine functions are defined for it: what each of the four classes overrides, the overload of the
performance map, and four readers that belong to no class. -/
theorem definitions_mirror_declarations_map :
    ∃ d i, (buildDeclarations mapCatalog mapSchema { container := "c" }).result = .ok d ∧
      (buildDefinitions mapCatalog "R" (d.container.map Prod.fst) d.scope).result = .ok i ∧
      definitionsOf .function i.tree =
        [(some 2, some 1), (some 5, some 4), (some 22, some 4), (some 12, some 11),
          (some 20, some 19), (some 25, none), (some 26, none), (some 27, none),
          (some 28, none)] := by
  have hlist : (buildDeclarations mapCatalog mapSchema { container := "c" }).result.toOption.map
      (fun d => declarationsOf .function none d.tree) =
        some [(some 2, some 1), (some 5, some 4), (some 22, some 4), (some 12, some 11),
          (some 20, some 19), (some 25, none), (some 26, none), (some 27, none),
          (some 28, none)] := by
    decide +kernel
  cases h : (buildDeclarations mapCatalog mapSchema { container := "c" }).result with
  | error fault =>
    rw [h] at hlist
    cases hlist
  | ok d =>
    rw [h] at hlist
    obtain ⟨i, hi, hmirror, -⟩ := definitions_mirror_declarations h
    exact ⟨d, i, rfl, hi, (hmirror .function).trans (Option.some.inj hlist)⟩

end SchemaGen
