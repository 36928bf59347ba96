import Mathlib.Data.List.Forall2
import SchemaGen.Declaration.Build
import SchemaGen.Proofs.Declaration.Sorting
import SchemaGen.Proofs.Tree.Numbering

/-!
# The shape of finished declarations

What `buildDeclarations` can give, said once. Its steps are a chain of functions that may fail, and
everything proved about finished declarations would have to go through that chain again; instead
`exists_of_buildDeclarations` takes it apart, and all else starts from there.

* Building groups gives one class per group, from members that were resolved (`classTree`).
* Finishing a scope never fails: it numbers the ordered declarations, gives each performance map
  the overload due to it, and appends declarations without children (`finishScope_result`).
* So a child of the scope is a type of one node, a class whose members are leaves, or the reader of
  a group (`TopLevel`), and no number is given twice (`nodup_ids_tree`).
-/

set_option autoImplicit false

namespace SchemaGen

open SchemaGen.Text (namespaceName headerName)

/-! ## Groups -/

theorem exists_mem_left_of_forall₂ {α β : Type} {R : α → β → Prop} {as : List α} {bs : List β}
    (h : List.Forall₂ R as bs) {a : α} (ha : a ∈ as) : ∃ b ∈ bs, R a b := by
  induction h with
  | nil => cases ha
  | @cons a' b as bs hab _ ih =>
    rcases List.mem_cons.mp ha with rfl | ha
    · exact ⟨b, List.mem_cons_self, hab⟩
    · obtain ⟨b', hb', hR⟩ := ih ha
      exact ⟨b', List.mem_cons_of_mem _ hb', hR⟩

theorem exists_mem_right_of_forall₂ {α β : Type} {R : α → β → Prop} {as : List α} {bs : List β}
    (h : List.Forall₂ R as bs) {b : β} (hb : b ∈ bs) : ∃ a ∈ as, R a b :=
  exists_mem_left_of_forall₂ (List.Forall₂.flip h) hb

/-- The class of a group with these members. -/
def classTree (o : DeclOptions) (rootGroup : String) (group : SchemaObject)
    (members : List MemberDecl) : Tree Decl :=
  .node (.struct (groupStruct o (group.name = rootGroup) group))
    ((groupMembers (group.name = rootGroup) group members).map .leaf)

/-- A tree is the class of a group whose members it resolved. -/
def IsClassOf (o : DeclOptions) (r : TypeExpr.Resolver) (rootGroup : String)
    (group : SchemaObject) (t : Tree Decl) : Prop :=
  ∃ members, resolveMembers r group group.elements = .ok members ∧
    t = classTree o rootGroup group members

theorem isClassOf_of_buildGroup {o : DeclOptions} {r : TypeExpr.Resolver} {rootGroup : String}
    {group : SchemaObject} {t : Tree Decl} {headers : List String}
    (h : buildGroup o r (group.name = rootGroup) group = .ok (t, headers)) :
    IsClassOf o r rootGroup group t := by
  unfold buildGroup at h
  cases hm : resolveMembers r group group.elements with
  | error fault => simp [hm] at h
  | ok members =>
    simp only [hm, Except.ok.injEq, Prod.mk.injEq] at h
    exact ⟨members, hm, h.1.symm⟩

/-- Building groups gives a class for each, in the same order. -/
theorem forall₂_of_buildGroups {o : DeclOptions} {r : TypeExpr.Resolver} {rootGroup : String} :
    ∀ {groups : List SchemaObject} {trees : List (Tree Decl)} {headers : List String},
      buildGroups o r rootGroup groups = .ok (trees, headers) →
        List.Forall₂ (IsClassOf o r rootGroup) groups trees
  | [], _, _, h => by
    simp only [buildGroups, Except.ok.injEq, Prod.mk.injEq] at h
    rw [← h.1]
    exact .nil
  | group :: rest, trees, headers, h => by
    unfold buildGroups at h
    cases hg : buildGroup o r (group.name = rootGroup) group with
    | error fault => simp [hg] at h
    | ok first =>
      obtain ⟨tree, more⟩ := first
      cases hrest : buildGroups o r rootGroup rest with
      | error fault => simp [hg, hrest] at h
      | ok others =>
        obtain ⟨trees', more'⟩ := others
        simp only [hg, hrest, Except.ok.injEq, Prod.mk.injEq] at h
        rw [← h.1]
        exact .cons (isClassOf_of_buildGroup hg) (forall₂_of_buildGroups hrest)

/-! ## Overloads -/

/-- The overload that is due to a declaration. -/
def dueOverload? (classes : List ClassView) : Decl → Option Decl
  | .struct s =>
    if s.role = .performanceMap then
      match partners classes s.name with
      | (some grid, some lookup) => some (performanceOverload grid lookup)
      | _ => none
    else none
  | _ => none

/-- That overload as a numbered declaration; none if none is due. -/
def overloadLeaves (classes : List ClassView) (id : NodeId) (t : Tree (Tree.Numbered Decl)) :
    List (Tree (Tree.Numbered Decl)) :=
  (dueOverload? classes t.label.value).toList.map fun d => .leaf ⟨id, d⟩

theorem addOverload_result (schema : String) (classes : List ClassView) (id : NodeId)
    (t : Tree (Tree.Numbered Decl)) :
    (addOverload schema classes id t).result = .ok (t.extend (overloadLeaves classes id t)) := by
  unfold addOverload overloadLeaves dueOverload?
  cases t.label.value with
  | struct s =>
    by_cases hrole : s.role = .performanceMap
    · simp only [hrole, if_true]
      cases partners classes s.name with
      | mk grid lookup =>
        cases grid with
        | none => simp [Report.say, Except.bind]
        | some grid => cases lookup <;> simp [Report.say, Except.bind]
    · simp [hrole]
  | _ => simp

/-- Declarations with the overloads due to them, numbered from `next` on. -/
def withOverloads (classes : List ClassView) : NodeId → List (Tree (Tree.Numbered Decl)) →
    List (Tree (Tree.Numbered Decl))
  | _, [] => []
  | next, t :: ts => t.extend (overloadLeaves classes next t) :: withOverloads classes (next + 1) ts

theorem addOverloads_result (schema : String) (classes : List ClassView) :
    ∀ (ts : List (Tree (Tree.Numbered Decl))) (next : NodeId),
      (addOverloads schema classes next ts).result = .ok (withOverloads classes next ts)
  | [], _ => rfl
  | t :: ts, next => by
    rw [addOverloads, Report.result_andThen, addOverload_result]
    simp only [Except.bind, Report.result_andThen, addOverloads_result schema classes ts,
      Report.result_done, withOverloads]

@[simp] theorem length_withOverloads (classes : List ClassView) :
    ∀ (ts : List (Tree (Tree.Numbered Decl))) (next : NodeId),
      (withOverloads classes next ts).length = ts.length
  | [], _ => rfl
  | t :: ts, next => by simp [withOverloads, length_withOverloads classes ts]

/-- Overloads are added at the end of a declaration and move none. -/
theorem getElem?_withOverloads (classes : List ClassView) :
    ∀ (ts : List (Tree (Tree.Numbered Decl))) (next : NodeId) (k : Nat),
      (withOverloads classes next ts)[k]? =
        ts[k]?.map fun t => t.extend (overloadLeaves classes (next + k) t)
  | [], _, k => by simp [withOverloads]
  | t :: ts, next, 0 => by simp [withOverloads]
  | t :: ts, next, k + 1 => by
    rw [withOverloads, List.getElem?_cons_succ, List.getElem?_cons_succ,
      getElem?_withOverloads classes ts, Nat.add_right_comm, Nat.add_assoc]

/-! ## The scope -/

/-- What follows the ordered declarations: JSON strings of enumerations, then readers of groups. -/
def trailingDecls (s : Schema) : List Decl :=
  enumSerializations s ++ s.groups.map fun g => .fromJson g.name

/-- The ordered declarations with numbers and overloads. -/
def numberedDecls (ordered : List (Tree Decl)) : List (Tree (Tree.Numbered Decl)) :=
  withOverloads ((Tree.numberAll 1 ordered).1.filterMap classView?) (Tree.numberAll 1 ordered).2
    (Tree.numberAll 1 ordered).1

/-- The first number after those of the ordered declarations and their overloads. -/
def trailingStart (ordered : List (Tree Decl)) : NodeId :=
  (Tree.numberAll 1 ordered).2 + (Tree.numberAll 1 ordered).1.length

/-- The namespace of a schema with these ordered declarations. -/
def scopeTree (s : Schema) (ordered : List (Tree Decl)) : Tree (Tree.Numbered Decl) :=
  .node ⟨0, .scope (namespaceName s.name)⟩
    (numberedDecls ordered ++ numberLeaves (trailingStart ordered) (trailingDecls s))

theorem finishScope_result (s : Schema) (ordered : List (Tree Decl)) :
    (finishScope s ordered).result =
      .ok (scopeTree s ordered, trailingStart ordered + (trailingDecls s).length) := by
  unfold finishScope
  simp only [Report.result_andThen, addOverloads_result, Except.bind, Report.result_done]
  rfl

/-- **What finished declarations are.** -/
theorem exists_of_buildDeclarations {c : Catalog} {s : Schema} {o : DeclOptions}
    {d : Declarations} (h : (buildDeclarations c s o).result = .ok d) :
    ∃ groups headers ordered,
      buildGroups o ⟨c, s⟩ s.rootGroup s.groups = .ok (groups, headers) ∧
      (orderTrees (namespaceName s.name) (leadingTrees s ++ groups)).result = .ok ordered ∧
      d = { container := if o.container = "" ∨ o.container = s.name then none
              else some (trailingStart ordered + (trailingDecls s).length, o.container)
            scope := scopeTree s ordered
            rootGroup := s.rootGroup
            header := ({} : Preamble).addHeaders
              (s.references.map headerName ++ standardHeaders ++ headers) } := by
  unfold buildDeclarations at h
  cases hg : buildGroups o ⟨c, s⟩ s.rootGroup s.groups with
  | error fault => simp [hg] at h
  | ok built =>
    obtain ⟨groups, headers⟩ := built
    simp only [hg, Report.result_andThen, Report.say, Except.bind] at h
    cases ho : (orderTrees (namespaceName s.name) (leadingTrees s ++ groups)).result with
    | error fault => simp [ho] at h
    | ok ordered =>
      simp only [ho, finishScope_result, Report.result_done, Except.ok.injEq] at h
      exact ⟨groups, headers, ordered, rfl, ho, h.symm⟩

/-! ## Kinds of children -/

/-- The declarations of types that have no children. -/
def Decl.isType : Decl → Bool
  | .typedef .. | .enumeration .. | .enumSerialization .. => true
  | _ => false

/-- The declarations of a class that are no functions. -/
def Decl.isDatum : Decl → Bool
  | .member _ | .isSet _ | .metaInfo .. | .stored .. | .counter _ => true
  | _ => false

/-- What a class may declare. -/
inductive ClassMember : Decl → Prop where
  | datum {d : Decl} (h : d.isDatum = true) : ClassMember d
  | override {d : Decl} (role : Role) (h : d ∈ overrides role) : ClassMember d
  | overload (grid lookup : ClassView) : ClassMember (performanceOverload grid lookup)

/-- What the namespace of a schema may declare. -/
inductive TopLevel (s : Schema) : Tree Decl → Prop where
  | typeDecl {d : Decl} (h : d.isType = true) : TopLevel s (.leaf d)
  | classDecl {c : StructDecl} (members : List Decl) (h : ∀ d ∈ members, ClassMember d) :
      TopLevel s (.node (.struct c) (members.map .leaf))
  | readerDecl {g : SchemaObject} (h : g ∈ s.groups) : TopLevel s (.leaf (.fromJson g.name))

theorem classMember_of_mem_groupMembers {isRoot : Bool} {group : SchemaObject}
    {members : List MemberDecl} {d : Decl} (h : d ∈ groupMembers isRoot group members) :
    ClassMember d := by
  unfold groupMembers at h
  simp only [List.mem_append] at h
  rcases h with ((((((hover | hlog) | hcount) | hmember) | hset) | hunits) | hdesc) | hname
  · exact .override _ hover
  · refine .datum ?_
    split at hlog
    · rw [List.mem_singleton.mp hlog]; rfl
    · cases hlog
  · refine .datum ?_
    split at hcount
    · rw [List.mem_singleton.mp hcount]; rfl
    · cases hcount
  all_goals
    refine .datum ?_
    obtain ⟨e, -, rfl⟩ := List.mem_map.mp ‹_›
    rfl

theorem topLevel_of_isClassOf {o : DeclOptions} {r : TypeExpr.Resolver} {rootGroup : String}
    (s : Schema) {group : SchemaObject} {t : Tree Decl} (h : IsClassOf o r rootGroup group t) :
    TopLevel s t := by
  obtain ⟨members, -, rfl⟩ := h
  exact .classDecl _ fun d hd => classMember_of_mem_groupMembers hd

theorem topLevel_of_mem_leadingTrees {s : Schema} {t : Tree Decl} (h : t ∈ leadingTrees s) :
    TopLevel s t := by
  unfold leadingTrees at h
  simp only [List.mem_append] at h
  rcases h with ((htypedef | henum) | hmeta) | hholder
  · obtain ⟨o, -, rfl⟩ := List.mem_map.mp htypedef
    exact .typeDecl rfl
  · obtain ⟨o, -, rfl⟩ := List.mem_map.mp henum
    exact .typeDecl rfl
  · obtain ⟨o, -, rfl⟩ := List.mem_map.mp hmeta
    refine .classDecl [.metaInfo _ _, .metaInfo _ _, .metaInfo _ _] fun d hd => ?_
    simp only [List.mem_cons, List.not_mem_nil, or_false] at hd
    rcases hd with rfl | rfl | rfl <;> exact .datum rfl
  · unfold loggerHolder at hholder
    split at hholder
    · cases hholder
    · rw [List.mem_singleton.mp hholder]
      refine .classDecl [loggerDecl] fun d hd => ?_
      rw [List.mem_singleton.mp hd]
      exact .datum rfl

/-- All that is put in order may stand in a namespace. -/
theorem topLevel_of_mem_unordered {o : DeclOptions} {r : TypeExpr.Resolver} {s : Schema}
    {groups : List (Tree Decl)} {headers : List String}
    (h : buildGroups o r s.rootGroup s.groups = .ok (groups, headers)) {t : Tree Decl}
    (ht : t ∈ leadingTrees s ++ groups) : TopLevel s t := by
  rcases List.mem_append.mp ht with hlead | hgroup
  · exact topLevel_of_mem_leadingTrees hlead
  · obtain ⟨group, -, hclass⟩ := exists_mem_right_of_forall₂ (forall₂_of_buildGroups h) hgroup
    exact topLevel_of_isClassOf s hclass

/-- What is due to a declaration is a performance overload, and the declaration is a class. -/
theorem eq_of_dueOverload {classes : List ClassView} {d overload : Decl}
    (h : dueOverload? classes d = some overload) :
    (∃ s, d = .struct s) ∧ ∃ grid lookup, overload = performanceOverload grid lookup := by
  unfold dueOverload? at h
  split at h
  next s =>
    split at h
    · split at h
      next grid lookup _ =>
        cases h
        exact ⟨⟨s, rfl⟩, grid, lookup, rfl⟩
      next => cases h
    · cases h
  next => cases h

theorem topLevel_extend_due {s : Schema} (classes : List ClassView) {t : Tree Decl}
    (h : TopLevel s t) :
    TopLevel s (t.extend ((dueOverload? classes t.label).toList.map .leaf)) := by
  cases hdue : dueOverload? classes t.label with
  | none => simpa using h
  | some overload =>
    obtain ⟨⟨decl, hdecl⟩, grid, lookup, rfl⟩ := eq_of_dueOverload hdue
    cases h with
    -- only a class gets an overload
    | @typeDecl d htype =>
      have hd : d = .struct decl := hdecl
      rw [hd] at htype
      cases htype
    | readerDecl hg => cases hdecl
    | @classDecl decl' members hmembers =>
      have hextend : (Tree.node (Decl.struct decl') (members.map Tree.leaf)).extend
          ((some (performanceOverload grid lookup)).toList.map Tree.leaf) =
            .node (.struct decl') ((members ++ [performanceOverload grid lookup]).map .leaf) := by
        rw [List.map_append]
        rfl
      rw [hextend]
      refine .classDecl _ fun d hd => ?_
      rcases List.mem_append.mp hd with hd | hd
      · exact hmembers d hd
      · rw [List.mem_singleton.mp hd]
        exact .overload grid lookup

theorem map_value_extend_overloadLeaves (classes : List ClassView) (id : NodeId)
    (t : Tree (Tree.Numbered Decl)) :
    (t.extend (overloadLeaves classes id t)).map (·.value) =
      (t.map (·.value)).extend
        ((dueOverload? classes (t.map (·.value)).label).toList.map .leaf) := by
  rw [Tree.map_extend, Tree.label_map, overloadLeaves, List.map_map]
  rfl

theorem exists_of_mem_withOverloads {classes : List ClassView} :
    ∀ {ts : List (Tree (Tree.Numbered Decl))} {next : NodeId} {t : Tree (Tree.Numbered Decl)},
      t ∈ withOverloads classes next ts →
        ∃ t' ∈ ts, ∃ id, t = t'.extend (overloadLeaves classes id t')
  | [], _, _, h => by cases h
  | t' :: ts, next, t, h => by
    rcases List.mem_cons.mp h with rfl | h
    · exact ⟨t', List.mem_cons_self, next, rfl⟩
    · obtain ⟨t'', ht'', hid⟩ := exists_of_mem_withOverloads h
      exact ⟨t'', List.mem_cons_of_mem _ ht'', hid⟩

theorem map_value_numbered (ordered : List (Tree Decl)) (next : NodeId) :
    (Tree.numberAll next ordered).1.map (Tree.map (·.value)) = ordered := by
  rw [← Tree.mapAll_eq_map, Tree.mapAll_value_numberAll]

theorem exists_of_mem_numberLeaves {next : NodeId} {ds : List Decl}
    {t : Tree (Tree.Numbered Decl)} (h : t ∈ numberLeaves next ds) :
    ∃ id, ∃ d ∈ ds, t = .leaf ⟨id, d⟩ := by
  obtain ⟨⟨d, i⟩, hd, rfl⟩ := List.mem_map.mp h
  exact ⟨next + i, d, (List.mem_zipIdx' hd).2 ▸ List.getElem_mem _, rfl⟩

theorem exists_of_mem_trailingDecls {s : Schema} {d : Decl} (h : d ∈ trailingDecls s) :
    d.isType = true ∨ ∃ g ∈ s.groups, d = .fromJson g.name := by
  rcases List.mem_append.mp h with h | h
  · obtain ⟨o, -, rfl⟩ := List.mem_map.mp h
    exact Or.inl rfl
  · obtain ⟨g, hg, rfl⟩ := List.mem_map.mp h
    exact Or.inr ⟨g, hg, rfl⟩

/-- **The children of a finished scope.** Without their numbers they are declarations that may stand
in a namespace. -/
theorem topLevel_of_mem_scopeTree {s : Schema} {ordered : List (Tree Decl)}
    (h : ∀ t ∈ ordered, TopLevel s t) {t : Tree (Tree.Numbered Decl)}
    (ht : t ∈ (scopeTree s ordered).children) : TopLevel s (t.map (·.value)) := by
  rcases List.mem_append.mp ht with ht | ht
  · obtain ⟨t', ht', id, rfl⟩ := exists_of_mem_withOverloads ht
    rw [map_value_extend_overloadLeaves]
    refine topLevel_extend_due _ (h _ ?_)
    rw [← map_value_numbered ordered 1]
    exact List.mem_map_of_mem ht'
  · obtain ⟨id, d, hd, rfl⟩ := exists_of_mem_numberLeaves ht
    rcases exists_of_mem_trailingDecls hd with htype | ⟨g, hg, rfl⟩
    · exact .typeDecl htype
    · exact .readerDecl hg

/-! ## Numbers -/

/-- Overloads get numbers of their own, next to those that the declarations have. -/
theorem idsOf_withOverloads (classes : List ClassView) :
    ∀ (ts : List (Tree (Tree.Numbered Decl))) (next : NodeId),
      ∃ extra, extra.Sublist (List.range' next ts.length) ∧
        (Tree.idsOf (withOverloads classes next ts)).Perm (Tree.idsOf ts ++ extra)
  | [], _ => ⟨[], by simp, by simp [withOverloads, Tree.idsOf]⟩
  | t :: ts, next => by
    obtain ⟨extra, hsub, hperm⟩ := idsOf_withOverloads classes ts (next + 1)
    have hleaves : ((overloadLeaves classes next t).flatMap Tree.labels).map (·.id) =
        (dueOverload? classes t.label.value).toList.map fun _ => next := by
      unfold overloadLeaves
      cases dueOverload? classes t.label.value <;> rfl
    have hids : Tree.idsOf (withOverloads classes next (t :: ts)) = t.labels.map (·.id) ++
        ((dueOverload? classes t.label.value).toList.map (fun _ => next) ++
          Tree.idsOf (withOverloads classes (next + 1) ts)) := by
      rw [withOverloads, Tree.idsOf, List.flatMap_cons, Tree.labels_extend, List.map_append,
        List.map_append, hleaves, List.append_assoc, Tree.idsOf]
    rw [hids, List.length_cons, List.range'_succ,
      show Tree.idsOf (t :: ts) = t.labels.map (·.id) ++ Tree.idsOf ts by simp [Tree.idsOf]]
    cases dueOverload? classes t.label.value with
    -- the number is set aside for the declaration whether an overload is due to it or not
    | none =>
      refine ⟨extra, hsub.cons next, ?_⟩
      rw [List.append_assoc]
      exact (hperm.append_left _)
    | some overload =>
      refine ⟨next :: extra, hsub.cons_cons next, ?_⟩
      rw [List.append_assoc]
      refine List.Perm.append_left _ ?_
      exact (hperm.cons next).trans List.perm_middle.symm

theorem idsOf_numberLeaves (next : NodeId) (ds : List Decl) :
    Tree.idsOf (numberLeaves next ds) = List.range' next ds.length := by
  have hleaves : numberLeaves next ds =
      (ds.zipIdx.map fun p => (⟨next + p.2, p.1⟩ : Tree.Numbered Decl)).map Tree.leaf := by
    rw [List.map_map]
    rfl
  have hids : Tree.idsOf (numberLeaves next ds) = (ds.zipIdx.map Prod.snd).map (next + ·) := by
    rw [Tree.idsOf, hleaves, Tree.flatMap_labels_leaves, List.map_map, List.map_map]
    rfl
  rw [hids, List.zipIdx_map_snd, List.map_add_range', Nat.add_zero]

/-- The numbers of a scope are among those below the first that is not used, each once. -/
theorem ids_scopeTree (s : Schema) (ordered : List (Tree Decl)) :
    ∃ ids, ids.Sublist (List.range' 0 (trailingStart ordered + (trailingDecls s).length)) ∧
      ((scopeTree s ordered).labels.map (·.id)).Perm ids := by
  obtain ⟨hnumbers, hnext⟩ := Tree.ids_numberAll ordered 1
  obtain ⟨extra, hsub, hperm⟩ := idsOf_withOverloads
    ((Tree.numberAll 1 ordered).1.filterMap classView?) (Tree.numberAll 1 ordered).1
    (Tree.numberAll 1 ordered).2
  rw [Tree.idsOf_numberAll] at hperm
  refine ⟨0 :: (List.range' 1 (Tree.labelsOf ordered).length ++ extra) ++
    List.range' (trailingStart ordered) (trailingDecls s).length, ?_, ?_⟩
  · -- the four runs of numbers stand one behind the other
    have hrange : List.range' 0 (trailingStart ordered + (trailingDecls s).length) =
        0 :: (List.range' 1 (Tree.labelsOf ordered).length ++
          List.range' (Tree.numberAll 1 ordered).2 (Tree.numberAll 1 ordered).1.length) ++
        List.range' (trailingStart ordered) (trailingDecls s).length := by
      have hstart : trailingStart ordered =
          (Tree.labelsOf ordered).length + (Tree.numberAll 1 ordered).1.length + 1 := by
        rw [trailingStart, hnext, Nat.add_assoc, Nat.add_comm 1]
      rw [← List.range'_append_1, Nat.zero_add, hnext, List.range'_append_1]
      conv_lhs => rw [hstart, List.range'_succ, Nat.zero_add]
      rw [hstart]
    rw [hrange]
    exact ((hsub.append_left _).cons_cons 0).append_right _
  · rw [scopeTree, Tree.labels_node, List.flatMap_append, List.map_cons, List.map_append]
    have htrailing := idsOf_numberLeaves (trailingStart ordered) (trailingDecls s)
    rw [Tree.idsOf] at htrailing
    rw [htrailing]
    exact ((hperm.append_right _).cons 0)

theorem nodup_ids_scopeTree (s : Schema) (ordered : List (Tree Decl)) :
    ((scopeTree s ordered).labels.map (·.id)).Nodup := by
  obtain ⟨ids, hsub, hperm⟩ := ids_scopeTree s ordered
  exact hperm.nodup_iff.mpr (hsub.nodup List.nodup_range')

theorem lt_of_mem_ids_scopeTree {s : Schema} {ordered : List (Tree Decl)} {id : NodeId}
    (h : id ∈ (scopeTree s ordered).labels.map (·.id)) :
    id < trailingStart ordered + (trailingDecls s).length := by
  obtain ⟨ids, hsub, hperm⟩ := ids_scopeTree s ordered
  have hmem := hsub.subset (hperm.mem_iff.mp h)
  simpa using (List.mem_range'_1.mp hmem).2

/-- **Numbers tell the declarations of a schema apart.** -/
theorem nodup_ids_tree {c : Catalog} {s : Schema} {o : DeclOptions} {d : Declarations}
    (h : (buildDeclarations c s o).result = .ok d) : (d.tree.labels.map (·.id)).Nodup := by
  obtain ⟨groups, headers, ordered, -, -, rfl⟩ := exists_of_buildDeclarations h
  unfold Declarations.tree
  dsimp only
  by_cases hnone : o.container = "" ∨ o.container = s.name
  · rw [if_pos hnone]
    exact nodup_ids_scopeTree s ordered
  · rw [if_neg hnone]
    simp only [Tree.labels_node, List.flatMap_cons, List.flatMap_nil, List.append_nil,
      List.map_cons]
    refine List.nodup_cons.mpr ⟨fun hmem => ?_, nodup_ids_scopeTree s ordered⟩
    exact Nat.lt_irrefl _ (lt_of_mem_ids_scopeTree hmem)

/-! ## Groups and their classes -/

/-- The ordered declarations are those that were to be ordered. -/
theorem mem_ordered_iff {s : Schema} {groups ordered : List (Tree Decl)}
    (h : (orderTrees (namespaceName s.name) (leadingTrees s ++ groups)).result = .ok ordered)
    {t : Tree Decl} : t ∈ ordered ↔ t ∈ leadingTrees s ++ groups :=
  (sortedFrom_of_orderTrees h).1.mem_iff

/-- All that a schema declares may stand in its namespace. -/
theorem topLevel_of_mem_scope {c : Catalog} {s : Schema} {o : DeclOptions} {d : Declarations}
    (h : (buildDeclarations c s o).result = .ok d) {t : Tree (Tree.Numbered Decl)}
    (ht : t ∈ d.scope.children) : TopLevel s (t.map (·.value)) := by
  obtain ⟨groups, headers, ordered, hgroups, hordered, rfl⟩ := exists_of_buildDeclarations h
  refine topLevel_of_mem_scopeTree (fun t' ht' => ?_) ht
  exact topLevel_of_mem_unordered hgroups ((mem_ordered_iff hordered).mp ht')

/-- Where an ordered declaration stands, the scope has it with numbers and the overload due. -/
theorem getElem?_scopeTree {s : Schema} {ordered : List (Tree Decl)} {k : Nat} {t : Tree Decl}
    (h : ordered[k]? = some t) :
    ∃ (t' : Tree (Tree.Numbered Decl)) (classes : List ClassView) (id : NodeId),
      t'.map (·.value) = t ∧
      (scopeTree s ordered).children[k]? = some (t'.extend (overloadLeaves classes id t')) := by
  have hnumbered : ((Tree.numberAll 1 ordered).1[k]?).map (Tree.map (·.value)) = some t := by
    rw [← List.getElem?_map, map_value_numbered, h]
  obtain ⟨t', ht', hmap⟩ := Option.map_eq_some_iff.mp hnumbered
  have hlt : k < (numberedDecls ordered).length := by
    rw [numberedDecls, length_withOverloads]
    exact (List.getElem?_eq_some_iff.mp ht').1
  refine ⟨t', (Tree.numberAll 1 ordered).1.filterMap classView?,
    (Tree.numberAll 1 ordered).2 + k, hmap, ?_⟩
  rw [scopeTree, Tree.children_node, List.getElem?_append_left hlt, numberedDecls,
    getElem?_withOverloads, ht']
  rfl

/-- What does not follow the ordered declarations stands where it was put in order. -/
theorem exists_ordered_of_not_mem_trailingDecls {s : Schema} {ordered : List (Tree Decl)} {k : Nat}
    {t : Tree (Tree.Numbered Decl)} (h : (scopeTree s ordered).children[k]? = some t)
    (hnot : t.label.value ∉ trailingDecls s) :
    ∃ t', ordered[k]? = some t' ∧ t'.label = t.label.value := by
  cases hk : ordered[k]? with
  | some t' =>
    obtain ⟨t'', classes, id, rfl, hchild⟩ := getElem?_scopeTree (s := s) hk
    cases h.symm.trans hchild
    exact ⟨_, rfl, Tree.label_map _ _⟩
  | none =>
    exfalso
    have hlen : (numberedDecls ordered).length ≤ k := by
      have hmap := congrArg List.length (map_value_numbered ordered 1)
      rw [numberedDecls, length_withOverloads, ← List.length_map, hmap]
      exact List.getElem?_eq_none_iff.mp hk
    rw [scopeTree, Tree.children_node, List.getElem?_append_right hlen] at h
    obtain ⟨id, d, hd, rfl⟩ := exists_of_mem_numberLeaves (List.mem_of_getElem? h)
    exact hnot hd

/-- The classes of a scope stand where they were put in order. -/
theorem exists_ordered_of_struct {s : Schema} {ordered : List (Tree Decl)} {k : Nat}
    {t : Tree (Tree.Numbered Decl)} {decl : StructDecl}
    (h : (scopeTree s ordered).children[k]? = some t) (hlabel : t.label.value = .struct decl) :
    ∃ t', ordered[k]? = some t' := by
  obtain ⟨t', ht', -⟩ := exists_ordered_of_not_mem_trailingDecls h fun hmem => by
    -- behind the ordered declarations there are strings of enumerations and readers only
    rcases exists_of_mem_trailingDecls (hlabel ▸ hmem) with htype | ⟨g, -, hreader⟩
    · cases htype
    · cases hreader
  exact ⟨t', ht'⟩

/-- Every group has its class in the scope. -/
theorem exists_class_of_group {c : Catalog} {s : Schema} {o : DeclOptions} {d : Declarations}
    (h : (buildDeclarations c s o).result = .ok d) {g : SchemaObject} (hg : g ∈ s.groups) :
    ∃ t ∈ d.scope.children, ∃ decl, t.label.value = .struct decl ∧ decl.name = g.name := by
  obtain ⟨groups, headers, ordered, hgroups, hordered, rfl⟩ := exists_of_buildDeclarations h
  obtain ⟨t, ht, members, -, rfl⟩ :=
    exists_mem_left_of_forall₂ (forall₂_of_buildGroups hgroups) hg
  obtain ⟨k, hk⟩ := List.getElem?_of_mem
    ((mem_ordered_iff hordered).mpr (List.mem_append_right _ ht))
  obtain ⟨t', classes, id, hmap, hchild⟩ := getElem?_scopeTree (s := s) hk
  refine ⟨_, List.mem_of_getElem? hchild, groupStruct o (g.name = s.rootGroup) g, ?_, rfl⟩
  have hlabel := congrArg Tree.label hmap
  rw [Tree.label_map] at hlabel
  rw [Tree.label_extend, hlabel]
  rfl

end SchemaGen
