import SchemaGen.Proofs.Declaration.Classes
import SchemaGen.Proofs.Definition.Mirror
import SchemaGen.Proofs.Tree.Subtrees

/-!
# Function bodies

`Mirror` tells which functions are defined and where they belong; this module tells what is in them.
`bodies` lists the function bodies of a tree of definitions with their statements, and
`bodies_of_buildDefinitions` says what that list is for a schema: for each declaration of the
namespace in turn, the bodies that it asks for (`bodiesFor`). A class asks for one body for each
function it declares, and the reader of a group for one that either passes on or reads the group.

No two bodies define the same declaration (`nodup_bodies`), so a body is known by its declaration.
-/

set_option autoImplicit false

namespace SchemaGen

/-- A function body: the declaration that it defines, the class that it belongs to, and all that is
nested in it. -/
structure Body where
  decl : NodeId
  owner : Option NodeId
  statements : List Defn
deriving Repr, DecidableEq

/-- A definition as a function body, if it is one. -/
def bodyOf? (t : Tree Defn) : Option Body :=
  match t.label with
  | .function decl owner => some ⟨decl, owner, t.children.flatMap Tree.labels⟩
  | _ => none

/-- The function bodies of a tree of definitions, every node before its descendants. -/
def bodies (t : Tree Defn) : List Body :=
  t.subtrees.filterMap bodyOf?

theorem bodies_node {d : Defn} (ts : List (Tree Defn)) (h : d.symbol? ≠ some .function) :
    bodies (.node d ts) = ts.flatMap bodies := by
  rw [bodies, Tree.subtrees_node, List.filterMap_cons_none, List.filterMap_flatMap]
  · rfl
  · cases d with
    | function => exact absurd rfl h
    | _ => rfl

theorem bodies_functionTree {decl : NodeId} {owner : Option NodeId} {body : List Defn}
    (h : ∀ d ∈ body, d.symbol? = none) :
    bodies (functionTree decl owner body) = [⟨decl, owner, body⟩] := by
  have hstatements : (body.map Tree.leaf).flatMap bodies = [] := by
    rw [List.flatMap_map, List.flatMap_eq_nil_iff]
    intro d hd
    rw [Tree.leaf, bodies_node [] (by simp [h d hd]), List.flatMap_nil]
  have hbody : bodyOf? (functionTree decl owner body) = some ⟨decl, owner, body⟩ := by
    rw [bodyOf?, functionTree, Tree.label_node, Tree.children_node, Tree.flatMap_labels_leaves]
  rw [bodies, functionTree, Tree.subtrees_node, ← functionTree, List.filterMap_cons_some hbody,
    List.filterMap_flatMap]
  exact congrArg _ hstatements

/-- Bodies are the definitions of functions. -/
theorem map_bodies (t : Tree Defn) :
    (bodies t).map (fun b => (some b.decl, b.owner)) = definitionsOf .function t := by
  rw [bodies, definitionsOf, ← Tree.map_label_subtrees, List.filter_map, List.map_map,
    List.map_filterMap, ← List.filterMap_eq_filter, List.map_filterMap]
  refine List.filterMap_congr fun u _ => ?_
  rw [bodyOf?, Option.guard, Function.comp_apply]
  cases h : u.label <;> simp [Defn.symbol?, Defn.decl?, Defn.owner?, h]

/-! ## What declarations ask for -/

/-- The statements of a member function, if it is one that is defined. -/
def memberStatements? (c : Catalog) (t : Tree (Tree.Numbered Decl)) (f : NodeId × FunctionDecl) :
    Option (List Defn) :=
  if f.2.isInitialize then some (readStatements c t .inside)
  else if f.2.isPopulate then some (populateStatements t f.1)
  else if f.2.kind = .performanceOverload then
    some [.overloadBody f.1 "s", .giveBack (some f.1) "s"]
  else none

/-- The statements of the free function that reads the group of the class `target`. -/
def readerStatements (c : Catalog) (function : NodeId) (target : Tree (Tree.Numbered Decl)) :
    List Defn :=
  if (numberedFunctions target).any (·.2.isInitialize) then [.initDelegation function]
  else readStatements c target .outside

/-- The bodies that one declaration of a namespace asks for. -/
def bodiesFor (c : Catalog) (siblings : List (Tree (Tree.Numbered Decl)))
    (t : Tree (Tree.Numbered Decl)) : List Body :=
  match t.label.value with
  | .struct _ => (numberedFunctions t).filterMap fun f =>
      (memberStatements? c t f).map (⟨f.1, some t.label.id, ·⟩)
  | .function f =>
    if f.kind = .serialization then
      (classNamed? siblings f.target).toList.map fun target =>
        ⟨t.label.id, none, readerStatements c t.label.id target⟩
    else []
  | _ => []

theorem symbol?_of_mem_memberStatements {c : Catalog} {t : Tree (Tree.Numbered Decl)}
    {f : NodeId × FunctionDecl} {body : List Defn} (h : memberStatements? c t f = some body) :
    ∀ d ∈ body, d.symbol? = none := by
  unfold memberStatements? at h
  intro d hd
  split at h
  · cases h
    exact symbol?_of_mem_readStatements hd
  · split at h
    · cases h
      exact forall_mem_populateStatements (P := (·.symbol? = none)) (fun _ => rfl) (fun _ => rfl)
        rfl d hd
    · split at h
      · cases h
        simp only [List.mem_cons, List.not_mem_nil, or_false] at hd
        rcases hd with rfl | rfl <;> rfl
      · cases h

theorem defineFunction?_eq (c : Catalog) (t : Tree (Tree.Numbered Decl))
    (f : NodeId × FunctionDecl) :
    (defineFunction? c t f).map Prod.fst =
      (memberStatements? c t f).map (functionTree f.1 (some t.label.id)) := by
  unfold defineFunction? memberStatements?
  dsimp only
  split
  · rfl
  · split
    · rfl
    · split <;> rfl

theorem bodies_staticDefinitions (t : Tree (Tree.Numbered Decl)) :
    (staticDefinitions t).flatMap bodies = [] := by
  rw [List.flatMap_eq_nil_iff]
  intro u hu
  obtain ⟨child, -, hchild⟩ := List.mem_filterMap.mp hu
  split at hchild
  · cases hchild
    rfl
  · cases hchild
    rfl
  · cases hchild

theorem bodies_defineClass (c : Catalog) (t : Tree (Tree.Numbered Decl)) :
    (defineClass c t).trees.flatMap bodies =
      (numberedFunctions t).filterMap fun f =>
        (memberStatements? c t f).map (⟨f.1, some t.label.id, ·⟩) := by
  have hfunctions : ((numberedFunctions t).filterMap (defineFunction? c t)).map (·.1) =
      (numberedFunctions t).filterMap fun f =>
        (memberStatements? c t f).map (functionTree f.1 (some t.label.id)) := by
    rw [List.map_filterMap]
    exact List.filterMap_congr fun f _ => defineFunction?_eq c t f
  rw [defineClass, List.flatMap_append, bodies_staticDefinitions, List.nil_append, hfunctions,
    List.filterMap_eq_flatMap_toList, List.flatMap_assoc, List.filterMap_eq_flatMap_toList]
  refine List.flatMap_congr fun f _ => ?_
  cases hbody : memberStatements? c t f with
  | none => rfl
  | some body =>
    simp only [Option.map_some, Option.toList_some, List.flatMap_singleton]
    exact bodies_functionTree (symbol?_of_mem_memberStatements hbody)

theorem bodies_defineReader (c : Catalog) (function : NodeId)
    (target : Tree (Tree.Numbered Decl)) :
    (defineReader c function target).trees.flatMap bodies =
      [⟨function, none, readerStatements c function target⟩] := by
  unfold defineReader readerStatements
  split
  · rfl
  · rw [List.flatMap_singleton]
    exact bodies_functionTree fun d hd => symbol?_of_mem_readStatements hd

theorem bodies_define {c : Catalog} {siblings : List (Tree (Tree.Numbered Decl))}
    {t : Tree (Tree.Numbered Decl)} {batch : DefinitionBatch}
    (h : define c siblings t = .ok batch) :
    batch.trees.flatMap bodies = bodiesFor c siblings t := by
  unfold define at h
  unfold bodiesFor
  cases hvalue : t.label.value with
  | struct decl =>
    simp only [hvalue, Except.ok.injEq] at h
    rw [← h]
    exact bodies_defineClass c t
  | function f =>
    simp only [hvalue] at h
    dsimp only
    by_cases hkind : f.kind = .serialization
    · rw [if_pos hkind] at h ⊢
      cases htarget : classNamed? siblings f.target with
      | none => simp [htarget] at h
      | some target =>
        simp only [htarget, Except.ok.injEq] at h
        rw [← h]
        exact bodies_defineReader c t.label.id target
    · rw [if_neg hkind] at h ⊢
      cases h
      rfl
  | _ =>
    simp only [hvalue, Except.ok.injEq] at h
    rw [← h]
    rfl

theorem bodies_defineAll {c : Catalog} {siblings : List (Tree (Tree.Numbered Decl))} :
    ∀ {ts : List (Tree (Tree.Numbered Decl))} {batch : DefinitionBatch},
      defineAll c siblings ts = .ok batch →
        batch.trees.flatMap bodies = ts.flatMap (bodiesFor c siblings)
  | [], batch, h => by
    cases h
    rfl
  | t :: ts, batch, h => by
    unfold defineAll at h
    cases hfirst : define c siblings t with
    | error fault => simp [hfirst] at h
    | ok first =>
      cases hrest : defineAll c siblings ts with
      | error fault => simp [hfirst, hrest] at h
      | ok rest =>
        simp only [hfirst, hrest, Except.ok.injEq] at h
        rw [← h, List.flatMap_append, List.flatMap_cons, bodies_define hfirst,
          bodies_defineAll hrest]

/-- **The bodies of a schema**, declaration by declaration. -/
theorem bodies_of_buildDefinitions {c : Catalog} {name : String} {container : Option NodeId}
    {scope : Tree (Tree.Numbered Decl)} {i : Definitions}
    (h : (buildDefinitions c name container scope).result = .ok i) :
    bodies i.tree = scope.children.flatMap (bodiesFor c scope.children) := by
  unfold buildDefinitions at h
  cases hbatch : defineAll c scope.children scope.children with
  | error fault => simp [hbatch] at h
  | ok batch =>
    simp only [hbatch, Report.result_andThen, Report.say, Except.bind, Report.result_done,
      Except.ok.injEq] at h
    have hinner : bodies (.node (.scope scope.label.id) batch.trees) =
        scope.children.flatMap (bodiesFor c scope.children) := by
      rw [bodies_node _ (by simp [Defn.symbol?]), bodies_defineAll hbatch]
    rw [← h]
    cases container with
    | none => exact hinner
    | some id =>
      dsimp only
      rw [bodies_node _ (by simp [Defn.symbol?]), List.flatMap_singleton, hinner]

/-! ## Lists with one match -/

theorem filter_eq_singleton {α : Type} [DecidableEq α] {l : List α} {p : α → Bool} {a : α}
    (hl : l.Nodup) (ha : a ∈ l) (hpa : p a = true) (h : ∀ b ∈ l, p b = true → b = a) :
    l.filter p = [a] := by
  have hp : l.filter p = l.filter (· == a) := by
    refine List.filter_congr fun b hb => ?_
    rw [Bool.eq_iff_iff, beq_iff_eq]
    exact ⟨h b hb, fun hba => hba ▸ hpa⟩
  rw [hp, List.filter_beq, List.count_eq_one_of_mem hl ha, List.replicate_one]

theorem eq_of_filter_eq_singleton {α : Type} {l : List α} {p : α → Bool} {a b : α}
    (h : l.filter p = [a]) (hb : b ∈ l) (hpb : p b = true) : b = a := by
  have hmem : b ∈ l.filter p := List.mem_filter.mpr ⟨hb, hpb⟩
  rw [h] at hmem
  exact List.mem_singleton.mp hmem

theorem mem_of_filter_eq_singleton {α : Type} {l : List α} {p : α → Bool} {a : α}
    (h : l.filter p = [a]) : a ∈ l ∧ p a = true :=
  List.mem_filter.mp (h ▸ List.mem_singleton_self a)

theorem flatMap_eq_of_filter {α β : Type} {l : List α} {p : α → Bool} {a : α} {f : α → List β}
    (h : l.filter p = [a]) (hnil : ∀ b ∈ l, p b = false → f b = []) : l.flatMap f = f a := by
  have hfilter : l.flatMap f = (l.filter p).flatMap f := by
    clear h
    induction l with
    | nil => rfl
    | cons b l ih =>
      obtain ⟨hb, hl⟩ := List.forall_mem_cons.mp hnil
      cases hp : p b with
      | true => rw [List.filter_cons_of_pos hp, List.flatMap_cons, List.flatMap_cons, ih hl]
      | false =>
        rw [List.filter_cons_of_neg (by simp [hp]), List.flatMap_cons, hb hp, List.nil_append, ih hl]
  rw [hfilter, h, List.flatMap_singleton]

/-! ## Which body is which -/

/-- A body belongs to a class, or it is that of the reader of a group. -/
theorem mem_bodiesFor_iff {c : Catalog} {siblings : List (Tree (Tree.Numbered Decl))}
    {t : Tree (Tree.Numbered Decl)} {b : Body} :
    b ∈ bodiesFor c siblings t ↔
      (∃ decl, t.label.value = .struct decl ∧ ∃ f ∈ numberedFunctions t, ∃ statements,
        memberStatements? c t f = some statements ∧ b = ⟨f.1, some t.label.id, statements⟩) ∨
      ∃ f, t.label.value = .function f ∧ f.kind = .serialization ∧ ∃ target,
        classNamed? siblings f.target = some target ∧
          b = ⟨t.label.id, none, readerStatements c t.label.id target⟩ := by
  unfold bodiesFor
  cases t.label.value with
  | struct decl => simp [eq_comm]
  | function f =>
    by_cases hkind : f.kind = .serialization
    · simp [hkind, eq_comm]
    · simp [hkind]
  | _ => simp

/-- **No two bodies define one declaration.** -/
theorem nodup_bodies {c : Catalog} {s : Schema} {o : DeclOptions} {d : Declarations}
    {i : Definitions} (hd : (buildDeclarations c s o).result = .ok d)
    (hi : (buildDefinitions c s.name (d.container.map Prod.fst) d.scope).result = .ok i) :
    ((bodies i.tree).map (·.decl)).Nodup := by
  obtain ⟨i', hi', -, hmirrors⟩ := exists_mirror_of_declarations hd
  cases hi.symm.trans hi'
  have hfunctions : definitionsOf .function i.tree = declarationsOf .function none d.tree := by
    simpa using hmirrors .function
  have hdecls : ((bodies i.tree).map (·.decl)).map some =
      ((d.tree.withParents none).filter (·.1.value.symbol? = some .function)).map
        (some ·.1.id) := by
    have hfst := congrArg (List.map Prod.fst) ((map_bodies i.tree).trans hfunctions)
    rw [declarationsOf, List.map_map, List.map_map] at hfst
    rw [List.map_map]
    exact hfst
  -- numbers tell declarations apart, and functions are some of them
  have hids : ((d.tree.withParents none).map (some ·.1.id)).Nodup := by
    have hlabels : (d.tree.withParents none).map (some ·.1.id) =
        (d.tree.labels.map (·.id)).map some := by
      rw [← Tree.map_fst_withParents d.tree none, List.map_map, List.map_map]
      rfl
    rw [hlabels]
    exact (nodup_ids_tree hd).map (Option.some_injective _)
  refine List.Nodup.of_map some ?_
  rw [hdecls]
  exact (List.filter_sublist.map _).nodup hids

theorem body_eq_of_decl {c : Catalog} {s : Schema} {o : DeclOptions} {d : Declarations}
    {i : Definitions} (hd : (buildDeclarations c s o).result = .ok d)
    (hi : (buildDefinitions c s.name (d.container.map Prod.fst) d.scope).result = .ok i)
    {b b' : Body} (hb : b ∈ bodies i.tree) (hb' : b' ∈ bodies i.tree) (h : b.decl = b'.decl) :
    b = b' :=
  List.inj_on_of_nodup_map (nodup_bodies hd hi) hb hb' h

section Finding

variable {c : Catalog} {s : Schema} {o : DeclOptions} {d : Declarations} {i : Definitions}

theorem mem_bodies_iff (hi : (buildDefinitions c s.name (d.container.map Prod.fst) d.scope).result
      = .ok i) {b : Body} :
    b ∈ bodies i.tree ↔ ∃ u ∈ d.scope.children, b ∈ bodiesFor c d.scope.children u := by
  rw [bodies_of_buildDefinitions hi, List.mem_flatMap]

/-- A body that stands for its declaration is the one that is found by it. -/
theorem filter_bodies_eq (hd : (buildDeclarations c s o).result = .ok d)
    (hi : (buildDefinitions c s.name (d.container.map Prod.fst) d.scope).result = .ok i)
    {p : Body → Bool} {b : Body} (hb : b ∈ bodies i.tree) (hp : p b = true)
    (h : ∀ b', p b' = true → b'.decl = b.decl) : (bodies i.tree).filter p = [b] :=
  filter_eq_singleton (List.Nodup.of_map _ (nodup_bodies hd hi)) hb hp
    fun b' hb' hpb' => body_eq_of_decl hd hi hb' hb (h b' hpb')

/-- Whether a body is that of a function of the class `t` such that `p`. -/
def isBodyOf (t : Tree (Tree.Numbered Decl)) (p : FunctionDecl → Bool) (b : Body) : Bool :=
  b.owner = some t.label.id ∧ ∃ f ∈ numberedFunctions t, f.1 = b.decl ∧ p f.2

/-- A function that is the only one of its kind in its class has one body. -/
theorem filter_isBodyOf (hd : (buildDeclarations c s o).result = .ok d)
    (hi : (buildDefinitions c s.name (d.container.map Prod.fst) d.scope).result = .ok i)
    {t : Tree (Tree.Numbered Decl)} (ht : t ∈ d.scope.children) {decl : StructDecl}
    (hdecl : t.label.value = .struct decl) {p : FunctionDecl → Bool} {f : NodeId × FunctionDecl}
    (hf : (numberedFunctions t).filter (p ·.2) = [f]) {statements : List Defn}
    (hstatements : memberStatements? c t f = some statements) :
    (bodies i.tree).filter (isBodyOf t p) = [⟨f.1, some t.label.id, statements⟩] := by
  obtain ⟨hmem, hp⟩ := mem_of_filter_eq_singleton hf
  refine filter_bodies_eq hd hi ((mem_bodies_iff hi).mpr ⟨t, ht, ?_⟩)
    (decide_eq_true ⟨rfl, f, hmem, rfl, hp⟩) fun b hb => ?_
  · rw [mem_bodiesFor_iff]
    exact Or.inl ⟨decl, hdecl, f, hmem, statements, hstatements, rfl⟩
  · obtain ⟨-, f', hf', hid, hp'⟩ := of_decide_eq_true hb
    rw [← hid, eq_of_filter_eq_singleton hf hf' hp']

end Finding

/-! ## What a body reads -/

/-- The member that a statement reads from JSON. -/
def Defn.reads? : Defn → Option NodeId
  | .fetch member _ | .owned member _ => some member
  | _ => none

/-- Where all statements of a kind are made for members, one each, those for one member are made for
the members of its number. -/
theorem filter_eq_some_of_map {view : Defn → Option NodeId} {make : NodeId × MemberDecl → Defn}
    (hmake : ∀ m, view (make m) = some m.1) {statements : List Defn}
    {members : List (NodeId × MemberDecl)}
    (h : statements.filter (fun d => (view d).isSome) = members.map make) (id : NodeId) :
    statements.filter (view · = some id) = (members.filter (·.1 = id)).map make := by
  have hsome : statements.filter (view · = some id) =
      (statements.filter (fun d => (view d).isSome)).filter (view · = some id) := by
    rw [List.filter_filter]
    refine List.filter_congr fun d _ => ?_
    cases view d <;> simp
  have hids : (fun d => decide (view d = some id)) ∘ make =
      fun m => decide (m.1 = id) := by
    funext m
    simp [hmake]
  rw [hsome, h, List.filter_map, hids]

/-- Of the statements that read a group, those that read a member are one for each, in order. -/
theorem filter_reads_readStatements (c : Catalog) (t : Tree (Tree.Numbered Decl))
    (access : Access) :
    (readStatements c t access).filter (·.reads?.isSome) =
      (numberedMembers t).map (readStatement access) := by
  have hreads : ((numberedMembers t).map (readStatement access)).filter (·.reads?.isSome) =
      (numberedMembers t).map (readStatement access) := by
    rw [List.filter_eq_self]
    intro d hd
    obtain ⟨m, -, rfl⟩ := List.mem_map.mp hd
    unfold readStatement
    split <;> rfl
  rw [readStatements, List.filter_append, hreads]
  refine (congrArg _ ?_).trans (List.append_nil _)
  rw [List.filter_eq_nil_iff]
  intro d hd
  split at hd
  · obtain ⟨m, -, rfl⟩ := List.mem_map.mp hd
    exact Bool.false_ne_true
  · cases hd

theorem mem_members_of_reads {c : Catalog} {t : Tree (Tree.Numbered Decl)} {access : Access}
    {d : Defn} {member : NodeId} (hd : d ∈ readStatements c t access)
    (hreads : d.reads? = some member) : member ∈ (numberedMembers t).map (·.1) := by
  have hmem : d ∈ (numberedMembers t).map (readStatement access) := by
    rw [← filter_reads_readStatements c t access]
    exact List.mem_filter.mpr ⟨hd, by rw [hreads]; rfl⟩
  obtain ⟨m, hm, rfl⟩ := List.mem_map.mp hmem
  unfold readStatement at hreads
  split at hreads <;>
  · cases hreads
    exact List.mem_map_of_mem hm

/-- **Which bodies read.** A body that reads a member of a class is that of its `initialize`, or
that of a free reader of a class without one. -/
theorem exists_of_reads {c : Catalog} {siblings : List (Tree (Tree.Numbered Decl))}
    {t : Tree (Tree.Numbered Decl)} {b : Body} (hb : b ∈ bodiesFor c siblings t) {d : Defn}
    (hd : d ∈ b.statements) {member : NodeId} (hreads : d.reads? = some member) :
    (∃ decl, t.label.value = .struct decl ∧ member ∈ (numberedMembers t).map (·.1) ∧
      ∃ f ∈ numberedFunctions t, f.2.isInitialize = true ∧
        b = ⟨f.1, some t.label.id, readStatements c t .inside⟩) ∨
    ∃ f target, t.label.value = .function f ∧ f.kind = .serialization ∧
      classNamed? siblings f.target = some target ∧ member ∈ (numberedMembers target).map (·.1) ∧
      (numberedFunctions target).any (·.2.isInitialize) = false ∧
      b = ⟨t.label.id, none, readStatements c target .outside⟩ := by
  rcases mem_bodiesFor_iff.mp hb with ⟨decl, hdecl, f, hf, statements, hstatements, rfl⟩ |
    ⟨f, hvalue, hkind, target, htarget, rfl⟩
  · left
    unfold memberStatements? at hstatements
    split at hstatements
    next hinit =>
      cases hstatements
      exact ⟨decl, hdecl, mem_members_of_reads hd hreads, f, hf, hinit, rfl⟩
    next =>
      exfalso
      split at hstatements
      · cases hstatements
        have hnone := forall_mem_populateStatements (P := (·.reads? = none)) (fun _ => rfl)
          (fun _ => rfl) rfl d hd
        cases hnone.symm.trans hreads
      · split at hstatements
        · cases hstatements
          simp only [List.mem_cons, List.not_mem_nil, or_false] at hd
          rcases hd with rfl | rfl <;> cases hreads
        · cases hstatements
  · right
    dsimp only [readerStatements] at hd ⊢
    split at hd
    · rw [List.mem_singleton.mp hd] at hreads
      cases hreads
    next hnone =>
      rw [if_neg hnone]
      exact ⟨f, target, hvalue, hkind, htarget, mem_members_of_reads hd hreads,
        by simpa using hnone, rfl⟩

end SchemaGen
