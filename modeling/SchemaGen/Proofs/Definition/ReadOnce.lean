import Mathlib.Data.List.Pairwise
import SchemaGen.Proofs.Declaration.BeforeUse
import SchemaGen.Proofs.Definition.Bodies

/-!
# Every element is read exactly once

Two places decide which function reads a group. The declarations give a class an `initialize` by its
role; the definitions ask whether the class has one, and look the class up by its name. They have to
agree, or a group is read twice, never, or into the wrong class.

They do (`read_exactly_once`) where no two objects share a name: names then lead to one class each,
and to one free reader each (`exists_filter_isReaderFor`), and numbers tell all members apart. A
class has at most one `initialize`, and its role says whether (`countP_isInitialize`).
-/

set_option autoImplicit false

namespace SchemaGen

/-! ## Numbers -/

theorem id_mem_of_mem_children {t u : Tree (Tree.Numbered Decl)} (h : u ∈ t.children) :
    u.label.id ∈ t.labels.map (·.id) :=
  List.mem_map_of_mem (Tree.mem_labels_of_mem_children h (Tree.mem_labels_self u))

theorem id_mem_of_mem_members {t : Tree (Tree.Numbered Decl)} {member : NodeId}
    (h : member ∈ (numberedMembers t).map (·.1)) : member ∈ t.labels.map (·.id) := by
  obtain ⟨m, hm, rfl⟩ := List.mem_map.mp h
  obtain ⟨u, hu, hmap⟩ := List.mem_filterMap.mp hm
  obtain ⟨decl, -, rfl⟩ := Option.map_eq_some_iff.mp hmap
  exact id_mem_of_mem_children hu

/-- Two declarations of a namespace share no number. -/
theorem eq_of_mem_ids {c : Catalog} {s : Schema} {o : DeclOptions} {d : Declarations}
    (h : (buildDeclarations c s o).result = .ok d) {u v : Tree (Tree.Numbered Decl)}
    (hu : u ∈ d.scope.children) (hv : v ∈ d.scope.children) {id : NodeId}
    (hidu : id ∈ u.labels.map (·.id)) (hidv : id ∈ v.labels.map (·.id)) : u = v := by
  obtain ⟨groups, headers, ordered, -, -, rfl⟩ := exists_of_buildDeclarations h
  have hnodup := nodup_ids_scopeTree s ordered
  rw [scopeTree, Tree.labels_node, List.map_cons, List.map_flatMap] at hnodup
  have hpairwise := (List.nodup_flatMap.mp (List.nodup_cons.mp hnodup).2).2
  have hsymm : Std.Symm (Function.onFun List.Disjoint
      fun t : Tree (Tree.Numbered Decl) => t.labels.map (·.id)) :=
    ⟨fun _ _ hdisjoint => hdisjoint.symm⟩
  by_contra hne
  exact hpairwise.forall hu hv hne hidu hidv

/-! ## Free readers -/

/-- The group that a free function reads, if it is such a function. -/
def readerTarget? (d : Decl) : Option String :=
  d.function?.bind fun f => if f.kind = .serialization then some f.target else none

/-- Whether a declaration is the free reader of the group of this name. -/
def isReaderFor (name : String) (t : Tree (Tree.Numbered Decl)) : Bool :=
  readerTarget? t.label.value = some name

/-- Every group has its free reader, in file order. -/
theorem filterMap_readerTarget? {c : Catalog} {s : Schema} {o : DeclOptions} {d : Declarations}
    (h : (buildDeclarations c s o).result = .ok d) :
    d.scope.children.filterMap (readerTarget? ·.label.value) = s.groups.map (·.name) := by
  obtain ⟨groups, headers, ordered, hgroups, hordered, rfl⟩ := exists_of_buildDeclarations h
  -- what is put in order introduces types, and a reader does not
  have hleading : (numberedDecls ordered).filterMap (readerTarget? ·.label.value) = [] := by
    rw [List.filterMap_eq_nil_iff]
    intro t ht
    obtain ⟨t', ht', id, rfl⟩ := exists_of_mem_withOverloads ht
    have hmem : t'.map (·.value) ∈ ordered := by
      rw [← map_value_numbered ordered 1]
      exact List.mem_map_of_mem ht'
    have htype := (introducesType_of_mem_unordered hgroups ((mem_ordered_iff hordered).mp hmem)).1
    rw [Tree.label_map] at htype
    rw [Tree.label_extend]
    cases hvalue : t'.label.value with
    | function f =>
      rw [hvalue] at htype
      cases htype
    | _ => rfl
  have htrailing : (numberLeaves (trailingStart ordered) (trailingDecls s)).filterMap
      (readerTarget? ·.label.value) = (trailingDecls s).filterMap readerTarget? := by
    conv_rhs => rw [← List.zipIdx_map_fst 0 (trailingDecls s)]
    rw [numberLeaves, List.filterMap_map, List.filterMap_map]
    rfl
  have henums : (enumSerializations s).filterMap readerTarget? = [] := by
    rw [enumSerializations, List.filterMap_map, List.filterMap_eq_nil_iff]
    exact fun _ _ => rfl
  have hreaders : (s.groups.map fun g => Decl.fromJson g.name).filterMap readerTarget? =
      s.groups.map (·.name) := by
    rw [List.filterMap_map]
    exact congrFun List.filterMap_eq_map _
  rw [scopeTree, Tree.children_node, List.filterMap_append, hleading, List.nil_append, htrailing,
    trailingDecls, List.filterMap_append, henums, List.nil_append, hreaders]

theorem exists_filter_isReaderFor {c : Catalog} {s : Schema} {o : DeclOptions} {d : Declarations}
    (h : (buildDeclarations c s o).result = .ok d) (hnames : (s.objects.map (·.name)).Nodup)
    {g : SchemaObject} (hg : g ∈ s.groups) :
    ∃ u, d.scope.children.filter (isReaderFor g.name) = [u] := by
  refine exists_filter_of_count ?_
  rw [filterMap_readerTarget? h]
  exact List.count_eq_one_of_mem ((List.filter_sublist.map _).nodup hnames)
    (List.mem_map_of_mem hg)

/-! ## Reading from inside -/

/-- Whether a class is to be read by a function of its own. -/
def readsItself (t : Tree (Tree.Numbered Decl)) : Bool :=
  roleOf t = .root ∨ roleOf t = .performanceMap

theorem countP_isInitialize_overloadsOf (d : Declarations) (decl : StructDecl) :
    ((overloadsOf d decl).filterMap Decl.function?).countP (·.isInitialize) = 0 := by
  rw [List.countP_eq_zero]
  intro f hf
  simp [FunctionDecl.isInitialize, kind_of_mem_overloadsOf hf]

/-- **Who reads is decided once.** The class of a group has one `initialize` if its role asks for
it, and none otherwise. -/
theorem countP_isInitialize {s : Schema} {o : DeclOptions} {d : Declarations}
    {t : Tree (Tree.Numbered Decl)} {g : SchemaObject} {members : List MemberDecl}
    (hlabel : t.label.value = .struct (groupStruct o (g.name = s.rootGroup) g))
    (hvalues : childValues t = groupMembers (g.name = s.rootGroup) g members ++
      overloadsOf d (groupStruct o (g.name = s.rootGroup) g)) :
    (numberedFunctions t).countP (·.2.isInitialize) = if readsItself t then 1 else 0 := by
  have hcount : (numberedFunctions t).countP (·.2.isInitialize) =
      ((overrides (roleOf t)).filterMap Decl.function?).countP (·.isInitialize) := by
    rw [show (fun f : NodeId × FunctionDecl => f.2.isInitialize) =
        (·.isInitialize) ∘ (·.2) from rfl, ← List.countP_map, functions_group hlabel hvalues,
      List.countP_append, countP_isInitialize_overloadsOf, Nat.add_zero]
  rw [hcount, readsItself]
  cases roleOf t <;> rfl

/-- So the two places agree. -/
theorem any_isInitialize {t : Tree (Tree.Numbered Decl)}
    (h : (numberedFunctions t).countP (·.2.isInitialize) = if readsItself t then 1 else 0) :
    (numberedFunctions t).any (·.2.isInitialize) = readsItself t := by
  rw [Bool.eq_iff_iff, List.any_eq_true, ← List.countP_pos_iff, h]
  cases readsItself t <;> simp

/-! ## The readers of a group -/

/-- Whether a body is that of a free reader of the group of this name. -/
def isFreeReaderOf (siblings : List (Tree (Tree.Numbered Decl))) (name : String) (b : Body) :
    Bool :=
  b.owner = none ∧ ∃ u ∈ siblings, u.label.id = b.decl ∧ isReaderFor name u

/-- Whether a body is the one that is to read the group of the class `t`. -/
def isReaderOf (siblings : List (Tree (Tree.Numbered Decl))) (name : String)
    (t : Tree (Tree.Numbered Decl)) (b : Body) : Bool :=
  if readsItself t then isBodyOf t (·.isInitialize) b else isFreeReaderOf siblings name b

/-- How the reader of a class reaches its members. -/
def readerAccess (t : Tree (Tree.Numbered Decl)) : Access :=
  if readsItself t then .inside else .outside

section Readers

variable {c : Catalog} {s : Schema} {o : DeclOptions} {d : Declarations} {i : Definitions}

/-- The free reader of a group has one body. -/
theorem filter_isFreeReaderOf (hd : (buildDeclarations c s o).result = .ok d)
    (hi : (buildDefinitions c s.name (d.container.map Prod.fst) d.scope).result = .ok i)
    {name : String} {t u : Tree (Tree.Numbered Decl)}
    (hclass : d.scope.children.filter (isClassNamed name) = [t])
    (hreader : d.scope.children.filter (isReaderFor name) = [u]) :
    (bodies i.tree).filter (isFreeReaderOf d.scope.children name) =
      [⟨u.label.id, none, readerStatements c u.label.id t⟩] := by
  obtain ⟨hu, htarget⟩ := mem_of_filter_eq_singleton hreader
  refine filter_bodies_eq hd hi ((mem_bodies_iff hi).mpr ⟨u, hu, ?_⟩)
    (decide_eq_true ⟨rfl, u, hu, rfl, htarget⟩) fun b hb => ?_
  · rw [mem_bodiesFor_iff]
    right
    obtain ⟨f, hf, hkind⟩ := Option.bind_eq_some_iff.mp (of_decide_eq_true htarget)
    split at hkind
    next hserialization =>
      cases hkind
      exact ⟨f, Decl.function?_eq_some.mp hf, hserialization, t, classNamed?_eq hclass, rfl⟩
    next => cases hkind
  · obtain ⟨-, v, hv, hid, hvtarget⟩ := of_decide_eq_true hb
    rw [← hid, eq_of_filter_eq_singleton hreader hv hvtarget]

/-- A group has one reader, and it reads the group. -/
theorem exists_reader (hd : (buildDeclarations c s o).result = .ok d)
    (hi : (buildDefinitions c s.name (d.container.map Prod.fst) d.scope).result = .ok i)
    {name : String} {t u : Tree (Tree.Numbered Decl)} {decl : StructDecl}
    (hclass : d.scope.children.filter (isClassNamed name) = [t])
    (hdecl : t.label.value = .struct decl)
    (hreader : d.scope.children.filter (isReaderFor name) = [u])
    (hcount : (numberedFunctions t).countP (·.2.isInitialize) = if readsItself t then 1 else 0) :
    ∃ reader, (bodies i.tree).filter (isReaderOf d.scope.children name t) = [reader] ∧
      reader.statements = readStatements c t (readerAccess t) := by
  have hany := any_isInitialize hcount
  unfold isReaderOf readerAccess
  cases hreads : readsItself t with
  | true =>
    rw [hreads, if_pos rfl, List.countP_eq_length_filter] at hcount
    obtain ⟨f, hf⟩ := List.length_eq_one_iff.mp hcount
    have ht := (mem_of_filter_eq_singleton hclass).1
    have hinit := (mem_of_filter_eq_singleton hf).2
    exact ⟨_, filter_isBodyOf hd hi ht hdecl hf (if_pos hinit), rfl⟩
  | false =>
    rw [hreads] at hany
    refine ⟨_, filter_isFreeReaderOf hd hi hclass hreader, if_neg ?_⟩
    rw [hany]
    exact Bool.false_ne_true

/-- **Nothing else reads a group.** A body that reads a member of a class is the reader of its
group. -/
theorem isReaderOf_of_reads (hd : (buildDeclarations c s o).result = .ok d)
    (hi : (buildDefinitions c s.name (d.container.map Prod.fst) d.scope).result = .ok i)
    {name : String} {t : Tree (Tree.Numbered Decl)}
    (hclass : d.scope.children.filter (isClassNamed name) = [t])
    (hany : (numberedFunctions t).any (·.2.isInitialize) = readsItself t) {b : Body}
    (hb : b ∈ bodies i.tree) {statement : Defn} (hstatement : statement ∈ b.statements)
    {member : NodeId} (hmember : member ∈ (numberedMembers t).map (·.1))
    (hread : statement.reads? = some member) :
    isReaderOf d.scope.children name t b = true := by
  obtain ⟨u, hu, hb⟩ := (mem_bodies_iff hi).mp hb
  have ht := (mem_of_filter_eq_singleton hclass).1
  unfold isReaderOf
  rcases exists_of_reads hb hstatement hread with ⟨decl, -, hown, f, hf, hinit, rfl⟩ |
    ⟨f, target, hvalue, hkind, htarget, hown, hnone, rfl⟩
  · -- a class that reads the member has it, so it is this one
    cases eq_of_mem_ids hd ht hu (id_mem_of_mem_members hmember) (id_mem_of_mem_members hown)
    rw [if_pos (hany.symm.trans (List.any_eq_true.mpr ⟨f, hf, hinit⟩))]
    exact decide_eq_true ⟨rfl, f, hf, rfl, hinit⟩
  · -- a free reader reads into the class that has its target for a name, so that is this one
    obtain ⟨htargetMem, htargetName⟩ := mem_of_classNamed? htarget
    cases eq_of_mem_ids hd ht htargetMem (id_mem_of_mem_members hmember)
      (id_mem_of_mem_members hown)
    rw [if_neg (by rw [← hany, hnone]; exact Bool.false_ne_true)]
    refine decide_eq_true ⟨rfl, u, hu, rfl, decide_eq_true ?_⟩
    have hname := of_decide_eq_true (mem_of_filter_eq_singleton hclass).2
    rw [readerTarget?, hvalue, ← hname, htargetName]
    exact if_pos hkind

/-- **Every element is read exactly once.** Take any group of a schema in which no two objects share
a name. It has one class, whose members are its elements in order, and one reader: the `initialize`
of the class if its role is that of a root or a performance map, and the free function otherwise.
No other body reads a member of the class; the reader reads each once and in order, making an
object for each selected one. Where a class reads itself, the free function only passes on to it. -/
theorem read_exactly_once (hd : (buildDeclarations c s o).result = .ok d)
    (hi : (buildDefinitions c s.name (d.container.map Prod.fst) d.scope).result = .ok i)
    (hnames : (s.objects.map (·.name)).Nodup) {g : SchemaObject} (hg : g ∈ s.groups) :
    ∃ t reader, d.scope.children.filter (isClassNamed g.name) = [t] ∧
      List.Forall₂ (fun e m => IsMemberFor ⟨c, s⟩ g e m.2) g.elements (numberedMembers t) ∧
      (bodies i.tree).filter (isReaderOf d.scope.children g.name t) = [reader] ∧
      (∀ b ∈ bodies i.tree, ∀ statement ∈ b.statements, ∀ m ∈ numberedMembers t,
        statement.reads? = some m.1 → b = reader) ∧
      reader.statements.filter (·.reads?.isSome) = (numberedMembers t).map (fun m =>
        if m.2.type.kind = .selector then .owned m.1 (readerAccess t)
        else .fetch m.1 (readerAccess t)) ∧
      (readerAccess t).accessor = (if readsItself t then "" else "x.") ∧
      (readsItself t = true → ∃ free,
        (bodies i.tree).filter (isFreeReaderOf d.scope.children g.name) = [free] ∧
          free.statements = [.initDelegation free.decl]) := by
  obtain ⟨t, hclass⟩ := exists_filter_isClassNamed hd hnames hg
  obtain ⟨u, hreader⟩ := exists_filter_isReaderFor hd hnames hg
  obtain ⟨t', ht', members, hlabel, hmembers, hvalues⟩ := exists_groupClass hd hg
  -- the class that the group was made into is the one that its name finds
  have htt : t' = t := eq_of_filter_eq_singleton hclass ht'
    (decide_eq_true (by rw [className?, hlabel]; rfl))
  rw [htt] at ht' hlabel hvalues
  have hcount := countP_isInitialize hlabel hvalues
  have hany := any_isInitialize hcount
  obtain ⟨reader, hunique, hstatements⟩ := exists_reader hd hi hclass hlabel hreader hcount
  refine ⟨t, reader, hclass, forall₂_numberedMembers hmembers hvalues, hunique, ?_, ?_, ?_, ?_⟩
  · intro b hb statement hstatement m hm hread
    exact eq_of_filter_eq_singleton hunique hb
      (isReaderOf_of_reads hd hi hclass hany hb hstatement (List.mem_map_of_mem hm) hread)
  · rw [hstatements, filter_reads_readStatements]
    refine List.map_congr_left fun m _ => ?_
    simp [readStatement, TypeDescriptor.isOwning]
  · unfold readerAccess
    split <;> rfl
  · intro hitself
    exact ⟨_, filter_isFreeReaderOf hd hi hclass hreader, if_pos (hany.trans hitself)⟩

end Readers

/-! ## A group with a choice -/

/-- An enumeration and two groups to choose between, the first with the elements `others`, and the
group `G` with these elements. -/
def choiceSchema (others elements : List DataElement) : Schema where
  name := "S"
  objects :=
    [{ name := "E", type := .enumeration, enumerators := [{ value := "P" }, { value := "Q" }] },
      { name := "A", type := .dataGroup, elements := others },
      { name := "B", type := .dataGroup },
      { name := "G", type := .dataGroup, elements }]

/-- The element that chooses. -/
def keyElement : DataElement := { name := "k", dataType := "<E>" }

/-- The element that is chosen for. -/
def choiceElement : DataElement :=
  { name := "x", dataType := "(\x7bA\x7d, \x7bB\x7d)", constraints := ["k(P, Q)"] }

/-- What comes of a schema that refers to no other. -/
def translation? (s : Schema) : Option (Catalog × Declarations × Definitions) :=
  (Catalog.build (SchemaSet.loader {}) false s).result.toOption.bind fun c =>
    (buildDeclarations c s {}).result.toOption.bind fun d =>
      (buildDefinitions c s.name (d.container.map Prod.fst) d.scope).result.toOption.map (c, d, ·)

theorem of_translation? {s : Schema} {c : Catalog} {d : Declarations} {i : Definitions}
    (h : translation? s = some (c, d, i)) :
    (Catalog.build (SchemaSet.loader {}) false s).result = .ok c ∧
      (buildDeclarations c s {}).result = .ok d ∧
      (buildDefinitions c s.name (d.container.map Prod.fst) d.scope).result = .ok i := by
  obtain ⟨c, hc, h⟩ := Option.bind_eq_some_iff.mp h
  obtain ⟨d, hd, h⟩ := Option.bind_eq_some_iff.mp h
  obtain ⟨i, hi, h⟩ := Option.map_eq_some_iff.mp h
  cases h
  exact ⟨eq_ok_of_toOption hc, eq_ok_of_toOption hd, eq_ok_of_toOption hi⟩

/-- The free reader of `G` fetches the one element and makes an object for the other. -/
theorem read_exactly_once_choice :
    ∃ c d i t reader, translation? (choiceSchema [] [keyElement, choiceElement]) = some (c, d, i) ∧
      d.scope.children.filter (isClassNamed "G") = [t] ∧ (numberedMembers t).length = 2 ∧
      (bodies i.tree).filter (isReaderOf d.scope.children "G" t) = [reader] ∧
      reader.statements.filter (·.reads?.isSome) = (numberedMembers t).map fun m =>
        if m.2.type.kind = .selector then .owned m.1 (readerAccess t)
        else .fetch m.1 (readerAccess t) := by
  have hsome : (translation? (choiceSchema [] [keyElement, choiceElement])).isSome = true := by
    decide +kernel
  obtain ⟨⟨c, d, i⟩, h⟩ := Option.isSome_iff_exists.mp hsome
  obtain ⟨-, hd, hi⟩ := of_translation? h
  obtain ⟨t, reader, hclass, helements, hunique, -, hreads, -⟩ := read_exactly_once hd hi
    (by decide) (g := { name := "G", type := .dataGroup, elements := [keyElement, choiceElement] })
    (by decide)
  exact ⟨c, d, i, t, reader, h, hclass, helements.length_eq.symm, hunique, hreads⟩

end SchemaGen
