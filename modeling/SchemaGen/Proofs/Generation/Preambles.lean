import SchemaGen.Proofs.Definition.Selection
import SchemaGen.Proofs.Generation.Includes

/-!
# What the two preambles include

Headers are asked for while classes are built and while definitions are made, and a preamble keeps
each line once. So a preamble is known by what was asked for. For the header that is read off the
elements of the groups (`mem_header_iff`). For the source it is read off the definitions: whatever
makes an object for a member asks for the factory of that member (`Creates`).

A class asks for the header of a sub-selection where that is the type of a member, and not where it
is the type of what an array holds. `includes_complete_iff` says which schemas have all their
includes nevertheless.
-/

set_option autoImplicit false

namespace SchemaGen

open SchemaGen.Text (headerName selectorBase)
open TypeExpr (Resolver)

/-! ## Preambles -/

namespace Preamble

theorem nodup_addHeader {p : Preamble} (h : p.lines.Nodup) (header : String) :
    (p.addHeader header).lines.Nodup := by
  unfold addHeader add
  split
  next => exact h
  next hnew =>
    have hnot := mt List.contains_iff_mem.mpr hnew
    rw [← List.concat_eq_append]
    exact (List.nodup_concat _ _).mpr ⟨hnot, h⟩

/-- No line stands twice in a preamble. -/
theorem nodup_addHeaders (headers : List String) {p : Preamble} (h : p.lines.Nodup) :
    (p.addHeaders headers).lines.Nodup := by
  unfold addHeaders
  induction headers generalizing p with
  | nil => exact h
  | cons header headers ih => exact ih (nodup_addHeader h header)

theorem head?_addHeader {p : Preamble} {line : String} (h : p.lines.head? = some line)
    (header : String) : (p.addHeader header).lines.head? = some line := by
  unfold addHeader add
  split
  next => exact h
  next =>
    obtain ⟨more, hlines⟩ := List.head?_eq_some_iff.mp h
    rw [hlines]
    rfl

/-- What is asked for later stands behind. -/
theorem head?_addHeaders {line : String} (headers : List String) {p : Preamble}
    (h : p.lines.head? = some line) : (p.addHeaders headers).lines.head? = some line := by
  unfold addHeaders
  induction headers generalizing p with
  | nil => exact h
  | cons header headers ih => exact ih (head?_addHeader h header)

end Preamble

theorem includeLine_inj {a b : String} : includeLine a = includeLine b ↔ a = b := by
  simp [includeLine]

/-! ## The header -/

/-- A sub-selection of this value stands in a type, inside of as many arrays. -/
inductive SubSelects : TypeDescriptor → (depth : Nat) → (value : String) → Prop where
  | here {d : TypeDescriptor} (h : d.kind = .nested) : SubSelects d 0 d.subValue
  | within {d elem : TypeDescriptor} {depth : Nat} {value : String} (hkind : d.kind = .array)
      (helem : d.elem = some elem) (h : SubSelects elem depth value) :
      SubSelects d (depth + 1) value

/-- An element of a group of the schema, and what its type resolves to. -/
structure Typed (r : Resolver) (group : SchemaObject) (e : DataElement) (type : TypeDescriptor) :
    Prop where
  inSchema : group ∈ r.schema.groups
  inGroup : e ∈ group.elements
  resolves : r.resolve group e = .ok type

/-- The headers that a schema asks for. -/
inductive Asked (o : DeclOptions) (r : Resolver) : String → Prop where
  | reference {identifier : String} (h : identifier ∈ r.schema.references) :
      Asked o r (headerName identifier)
  | standard {header : String} (h : header ∈ standardHeaders) : Asked o r header
  | superclass {g : SchemaObject} (hg : g ∈ r.schema.groups)
      (h : (groupStruct o (g.name = r.schema.rootGroup) g).superclass ≠ "") :
      Asked o r (headerName (groupStruct o (g.name = r.schema.rootGroup) g).superclass)
  | choice {g : SchemaObject} {e : DataElement} {type : TypeDescriptor} (h : Typed r g e type)
      (hkind : type.kind = .selector) : Asked o r (headerName (selectorBase e.name))
  | subSelection {g : SchemaObject} {e : DataElement} {type : TypeDescriptor} {value : String}
      (h : Typed r g e type) (hvalue : SubSelects type 0 value) : Asked o r (headerName value)

variable {o : DeclOptions} {r : Resolver}

theorem headers_of_buildGroup {rootGroup : String} {group : SchemaObject} {t : Tree Decl}
    {headers : List String}
    (h : buildGroup o r (group.name = rootGroup) group = .ok (t, headers)) :
    ∃ members, resolveMembers r group group.elements = .ok members ∧
      headers = groupHeaders (groupStruct o (group.name = rootGroup) group) members := by
  unfold buildGroup at h
  cases hm : resolveMembers r group group.elements with
  | error fault => simp [hm] at h
  | ok members =>
    simp only [hm, Except.ok.injEq, Prod.mk.injEq] at h
    exact ⟨members, rfl, h.2.symm⟩

/-- The headers of classes are those that each of them needs. -/
theorem mem_headers_of_buildGroups {rootGroup header : String} :
    ∀ {groups : List SchemaObject} {trees : List (Tree Decl)} {headers : List String},
      buildGroups o r rootGroup groups = .ok (trees, headers) →
        (header ∈ headers ↔ ∃ g ∈ groups, ∃ members,
          resolveMembers r g g.elements = .ok members ∧
            header ∈ groupHeaders (groupStruct o (g.name = rootGroup) g) members)
  | [], _, _, h => by
    simp only [buildGroups, Except.ok.injEq, Prod.mk.injEq] at h
    rw [← h.2]
    simp
  | group :: rest, trees, headers, h => by
    unfold buildGroups at h
    cases hg : buildGroup o r (group.name = rootGroup) group with
    | error fault => simp [hg] at h
    | ok first =>
      cases hrest : buildGroups o r rootGroup rest with
      | error fault => simp [hg, hrest] at h
      | ok others =>
        simp only [hg, hrest, Except.ok.injEq, Prod.mk.injEq] at h
        obtain ⟨members, hmembers, hfirst⟩ := headers_of_buildGroup hg
        have hone : header ∈ first.2 ↔ ∃ members, resolveMembers r group group.elements =
            .ok members ∧ header ∈ groupHeaders
              (groupStruct o (group.name = rootGroup) group) members := by
          simp [hfirst, hmembers]
        rw [← h.2, List.mem_append, hone, mem_headers_of_buildGroups hrest]
        simp only [List.mem_cons, exists_eq_or_imp]

/-- The class of a group is built from the types of its elements. -/
theorem exists_members_of_buildGroups {rootGroup : String} {trees : List (Tree Decl)}
    {headers : List String} (h : buildGroups o r rootGroup r.schema.groups = .ok (trees, headers))
    {g : SchemaObject} (hg : g ∈ r.schema.groups) :
    ∃ members, resolveMembers r g g.elements = .ok members ∧
      ∀ {e type}, Typed r g e type → ∃ m ∈ members, m.name = e.name ∧ m.type = type := by
  obtain ⟨-, -, members, hmembers, -⟩ :=
    exists_mem_left_of_forall₂ (forall₂_of_buildGroups h) hg
  refine ⟨members, hmembers, fun htyped => ?_⟩
  obtain ⟨m, hm, hname, -, htype⟩ :=
    exists_mem_left_of_forall₂ (forall₂_resolveMembers hmembers) htyped.inGroup
  exact ⟨m, hm, hname, Except.ok.inj (htype.symm.trans htyped.resolves)⟩

theorem mem_groupHeaders_iff {decl : StructDecl} {members : List MemberDecl} {header : String} :
    header ∈ groupHeaders decl members ↔
      (decl.superclass ≠ "" ∧ header = headerName decl.superclass) ∨
      ∃ m ∈ members, (m.type.kind = .selector ∧ header = headerName (selectorBase m.name)) ∨
        (m.type.kind = .nested ∧ header = headerName m.type.subValue) := by
  unfold groupHeaders
  rw [List.mem_append, List.mem_filterMap]
  refine or_congr ?_ (exists_congr fun m => and_congr_right fun _ => ?_)
  · split <;> simp_all
  · cases m.type.kind <;> simp [eq_comm]

/-- What a class needs is asked for. -/
theorem asked_of_mem_groupHeaders {g : SchemaObject} (hg : g ∈ r.schema.groups)
    {members : List MemberDecl} (hmembers : resolveMembers r g g.elements = .ok members)
    {header : String}
    (h : header ∈ groupHeaders (groupStruct o (g.name = r.schema.rootGroup) g) members) :
    Asked o r header := by
  rcases mem_groupHeaders_iff.mp h with ⟨hbase, rfl⟩ | ⟨m, hm, hkind⟩
  · exact .superclass hg hbase
  · obtain ⟨e, he, hname, -, htype⟩ :=
      exists_mem_right_of_forall₂ (forall₂_resolveMembers hmembers) hm
    have htyped : Typed r g e m.type := ⟨hg, he, htype⟩
    rcases hkind with ⟨hkind, rfl⟩ | ⟨hkind, rfl⟩
    · rw [hname]
      exact .choice htyped hkind
    · exact .subSelection htyped (.here hkind)

/-- **What is asked for** is what the references, the libraries and the classes need. -/
theorem asked_iff {trees : List (Tree Decl)} {headers : List String}
    (hgroups : buildGroups o r r.schema.rootGroup r.schema.groups = .ok (trees, headers))
    {header : String} :
    Asked o r header ↔
      header ∈ r.schema.references.map headerName ++ standardHeaders ++ headers := by
  rw [List.mem_append, List.mem_append, mem_headers_of_buildGroups hgroups]
  constructor
  · intro hasked
    cases hasked with
    | reference hid => exact .inl (.inl (List.mem_map_of_mem hid))
    | standard hstandard => exact .inl (.inr hstandard)
    | superclass hg hbase =>
      obtain ⟨members, hmembers, -⟩ := exists_members_of_buildGroups hgroups hg
      exact .inr ⟨_, hg, members, hmembers, mem_groupHeaders_iff.mpr (.inl ⟨hbase, rfl⟩)⟩
    | choice htyped hkind =>
      obtain ⟨members, hmembers, htypes⟩ :=
        exists_members_of_buildGroups hgroups htyped.inSchema
      obtain ⟨m, hm, hname, htype⟩ := htypes htyped
      refine .inr ⟨_, htyped.inSchema, members, hmembers, mem_groupHeaders_iff.mpr (.inr ?_)⟩
      exact ⟨m, hm, .inl ⟨htype ▸ hkind, by rw [hname]⟩⟩
    | subSelection htyped hvalue =>
      obtain ⟨members, hmembers, htypes⟩ :=
        exists_members_of_buildGroups hgroups htyped.inSchema
      obtain ⟨m, hm, -, htype⟩ := htypes htyped
      refine .inr ⟨_, htyped.inSchema, members, hmembers, mem_groupHeaders_iff.mpr (.inr ?_)⟩
      cases hvalue with
      | here hkind => exact ⟨m, hm, .inr ⟨htype ▸ hkind, by rw [htype]⟩⟩
  · rintro ((href | hstandard) | ⟨g, hg, members, hmembers, hneeded⟩)
    · obtain ⟨identifier, hid, rfl⟩ := List.mem_map.mp href
      exact .reference hid
    · exact .standard hstandard
    · exact asked_of_mem_groupHeaders hg hmembers hneeded

/-- **What a header includes.** -/
theorem mem_header_iff {c : Catalog} {s : Schema} {d : Declarations}
    (h : (buildDeclarations c s o).result = .ok d) {line : String} :
    line ∈ d.header.lines ↔ ∃ header, Asked o ⟨c, s⟩ header ∧ line = includeLine header := by
  obtain ⟨groups, headers, ordered, hgroups, -, rfl⟩ := exists_of_buildDeclarations h
  simp only [Preamble.mem_addHeaders_iff, asked_iff hgroups]
  exact or_iff_right List.not_mem_nil

/-- What a header is to include: everything that its classes name, where sub-selections count up to
a depth of arrays. -/
structure HeaderComplete (r : Resolver) (d : Declarations) (counts : Nat → Prop) : Prop where
  distinct : d.header.lines.Nodup
  superclass : ∀ t ∈ d.scope.children, ∀ decl, t.label.value = .struct decl →
    decl.superclass ≠ "" → d.header.lines.count (includeLine (headerName decl.superclass)) = 1
  choice : ∀ g e type, Typed r g e type → type.kind = .selector →
    d.header.lines.count (includeLine (headerName (selectorBase e.name))) = 1
  subSelection : ∀ g e type, Typed r g e type → ∀ depth value, counts depth →
    SubSelects type depth value → d.header.lines.count (includeLine (headerName value)) = 1

section Header

variable {c : Catalog} {s : Schema} {d : Declarations}

theorem nodup_header (h : (buildDeclarations c s o).result = .ok d) : d.header.lines.Nodup := by
  obtain ⟨groups, headers, ordered, -, -, rfl⟩ := exists_of_buildDeclarations h
  exact Preamble.nodup_addHeaders _ List.nodup_nil

/-- A header is included once or not at all. -/
theorem count_header_iff (h : (buildDeclarations c s o).result = .ok d) {header : String} :
    d.header.lines.count (includeLine header) = 1 ↔ Asked o ⟨c, s⟩ header := by
  have hasked : includeLine header ∈ d.header.lines ↔ Asked o ⟨c, s⟩ header := by
    rw [mem_header_iff h]
    constructor
    · rintro ⟨other, hother, heq⟩
      rwa [includeLine_inj.mp heq]
    · exact fun hheader => ⟨header, hheader, rfl⟩
  rw [← hasked]
  constructor
  · exact fun hcount => List.count_pos_iff.mp (hcount ▸ Nat.one_pos)
  · exact List.count_eq_one_of_mem (nodup_header h)

/-- A class with a base class is that of a group. -/
theorem exists_group_of_superclass (h : (buildDeclarations c s o).result = .ok d)
    {t : Tree (Tree.Numbered Decl)} (ht : t ∈ d.scope.children) {decl : StructDecl}
    (hdecl : t.label.value = .struct decl) (hbase : decl.superclass ≠ "") :
    ∃ g ∈ s.groups, decl = groupStruct o (g.name = s.rootGroup) g := by
  obtain ⟨values, hdeclared, -⟩ := class_cases h ht hdecl
  cases hdeclared with
  | group hg => exact ⟨_, hg, rfl⟩
  | metadata => exact absurd rfl hbase
  | holder => exact absurd rfl hbase

theorem headerComplete_iff (h : (buildDeclarations c s o).result = .ok d) {counts : Nat → Prop} :
    HeaderComplete ⟨c, s⟩ d counts ↔
      ∀ g e type, Typed ⟨c, s⟩ g e type → ∀ depth value, counts depth →
        SubSelects type depth value → Asked o ⟨c, s⟩ (headerName value) := by
  constructor
  · intro hcomplete g e type htyped depth value hcounts hvalue
    exact (count_header_iff h).mp
      (hcomplete.subSelection g e type htyped depth value hcounts hvalue)
  · intro hasked
    refine
      { distinct := nodup_header h
        superclass := fun t ht decl hdecl hbase => ?_
        choice := fun g e type htyped hkind => (count_header_iff h).mpr (.choice htyped hkind)
        subSelection := fun g e type htyped depth value hcounts hvalue =>
          (count_header_iff h).mpr (hasked g e type htyped depth value hcounts hvalue) }
    obtain ⟨g, hg, rfl⟩ := exists_group_of_superclass h ht hdecl hbase
    exact (count_header_iff h).mpr (.superclass hg hbase)

/-- **A header is complete** but for sub-selections in arrays. -/
theorem headerComplete (h : (buildDeclarations c s o).result = .ok d) :
    HeaderComplete ⟨c, s⟩ d (· = 0) := by
  refine (headerComplete_iff h).mpr fun g e type htyped depth value hdepth hvalue => ?_
  rw [hdepth] at hvalue
  exact .subSelection htyped hvalue

end Header

/-! ## The source -/

/-- The member that a definition makes an object for. -/
def Defn.owned? : Defn → Option NodeId
  | .owned member _ => some member
  | _ => none

/-- The members that definitions make objects for, in order. -/
def ownedIn (ts : List (Tree Defn)) : List NodeId :=
  (ts.flatMap Tree.labels).filterMap Defn.owned?

/-- The definitions of a batch make objects for these members and ask for their factories. -/
structure Creates (siblings : List (Tree (Tree.Numbered Decl))) (trees : List (Tree Defn))
    (headers : List String) (members : List (NodeId × MemberDecl)) : Prop where
  owned : ownedIn trees = members.map (·.1)
  factories : headers = members.map (·.2.name ++ "_factory.h")
  declared : ∀ m ∈ members, ∃ t ∈ siblings, m ∈ numberedMembers t

variable {siblings : List (Tree (Tree.Numbered Decl))}

theorem Creates.of_ownedIn_eq_nil {trees : List (Tree Defn)} (h : ownedIn trees = []) :
    Creates siblings trees [] [] :=
  ⟨h, rfl, fun _ hm => absurd hm List.not_mem_nil⟩

theorem Creates.append {trees trees' : List (Tree Defn)} {headers headers' : List String}
    {members members' : List (NodeId × MemberDecl)} (h : Creates siblings trees headers members)
    (h' : Creates siblings trees' headers' members') :
    Creates siblings (trees ++ trees') (headers ++ headers') (members ++ members') where
  owned := by
    rw [ownedIn, List.flatMap_append, List.filterMap_append, List.map_append, ← h.owned,
      ← h'.owned, ownedIn, ownedIn]
  factories := by rw [h.factories, h'.factories, List.map_append]
  declared m hm := (List.mem_append.mp hm).elim (h.declared m) (h'.declared m)

theorem ownedIn_functionTree (decl : NodeId) (owner : Option NodeId) (body : List Defn) :
    ownedIn [functionTree decl owner body] = body.filterMap Defn.owned? := by
  rw [ownedIn, List.flatMap_singleton, functionTree, Tree.labels_node, Tree.flatMap_labels_leaves]
  rfl

theorem filterMap_owned?_readStatements (c : Catalog) (t : Tree (Tree.Numbered Decl))
    (access : Access) :
    (readStatements c t access).filterMap Defn.owned? =
      ((numberedMembers t).filter (·.2.type.isOwning)).map (·.1) := by
  have hread : ((numberedMembers t).map (readStatement access)).filterMap Defn.owned? =
      ((numberedMembers t).filter (·.2.type.isOwning)).map (·.1) := by
    rw [List.filterMap_map, ← List.filterMap_eq_filter, List.map_filterMap]
    refine List.filterMap_congr fun m _ => ?_
    rw [Function.comp_apply, readStatement, Option.guard]
    split <;> rfl
  have hpopulate (members : List (NodeId × MemberDecl)) :
      (members.map (Defn.populate ·.1 access)).filterMap Defn.owned? = [] := by
    rw [List.filterMap_map]
    exact List.filterMap_none _
  rw [readStatements, List.filterMap_append, hread]
  split
  · rw [hpopulate, List.append_nil]
  · rw [List.filterMap_nil, List.append_nil]

theorem filterMap_owned?_populateStatements (t : Tree (Tree.Numbered Decl)) (function : NodeId) :
    (populateStatements t function).filterMap Defn.owned? = [] :=
  List.filterMap_eq_nil_iff.mpr
    (forall_mem_populateStatements (fun _ => rfl) (fun _ => rfl) rfl)

/-- Reading a group makes objects for its selected members. -/
theorem creates_readStatements {c : Catalog} {t : Tree (Tree.Numbered Decl)} (ht : t ∈ siblings)
    (decl : NodeId) (owner : Option NodeId) (access : Access) :
    Creates siblings [functionTree decl owner (readStatements c t access)] (readHeaders t)
      ((numberedMembers t).filter (·.2.type.isOwning)) where
  owned := by rw [ownedIn_functionTree, filterMap_owned?_readStatements]
  factories := rfl
  declared m hm := ⟨t, ht, (List.mem_filter.mp hm).1⟩

theorem creates_defineFunction? {c : Catalog} {t : Tree (Tree.Numbered Decl)} (ht : t ∈ siblings)
    {f : NodeId × FunctionDecl} {defined : Tree Defn × List String}
    (h : defineFunction? c t f = some defined) :
    ∃ members, Creates siblings [defined.1] defined.2 members := by
  unfold defineFunction? at h
  dsimp only at h
  split at h
  · cases h
    exact ⟨_, creates_readStatements ht _ _ _⟩
  · split at h
    · cases h
      refine ⟨[], .of_ownedIn_eq_nil ?_⟩
      rw [ownedIn_functionTree, filterMap_owned?_populateStatements]
    · split at h
      · cases h
        exact ⟨[], .of_ownedIn_eq_nil rfl⟩
      · cases h

theorem creates_all : ∀ {defined : List (Tree Defn × List String)},
    (∀ p ∈ defined, ∃ members, Creates siblings [p.1] p.2 members) →
      ∃ members, Creates siblings (defined.map (·.1)) (defined.flatMap (·.2)) members
  | [], _ => ⟨[], .of_ownedIn_eq_nil rfl⟩
  | p :: defined, h => by
    obtain ⟨first, hfirst⟩ := h p List.mem_cons_self
    obtain ⟨rest, hrest⟩ := creates_all fun q hq => h q (List.mem_cons_of_mem _ hq)
    exact ⟨first ++ rest, hfirst.append hrest⟩

theorem ownedIn_staticDefinitions (t : Tree (Tree.Numbered Decl)) :
    ownedIn (staticDefinitions t) = [] := by
  rw [ownedIn, List.filterMap_eq_nil_iff]
  intro label hlabel
  obtain ⟨u, hu, hlabel⟩ := List.mem_flatMap.mp hlabel
  obtain ⟨child, -, hchild⟩ := List.mem_filterMap.mp hu
  split at hchild
  · cases hchild
    rw [List.mem_singleton.mp hlabel]
    rfl
  · cases hchild
    rw [List.mem_singleton.mp hlabel]
    rfl
  · cases hchild

theorem creates_defineClass {c : Catalog} {t : Tree (Tree.Numbered Decl)} (ht : t ∈ siblings) :
    ∃ members, Creates siblings (defineClass c t).trees (defineClass c t).headers members := by
  have hstatic : Creates siblings (staticDefinitions t) [] [] :=
    .of_ownedIn_eq_nil (ownedIn_staticDefinitions t)
  have hdefined : ∀ p ∈ (numberedFunctions t).filterMap (defineFunction? c t),
      ∃ members, Creates siblings [p.1] p.2 members := by
    intro p hp
    obtain ⟨f, -, hf⟩ := List.mem_filterMap.mp hp
    exact creates_defineFunction? ht hf
  obtain ⟨members, hmembers⟩ := creates_all hdefined
  exact ⟨_, hstatic.append hmembers⟩

theorem creates_defineReader {c : Catalog} {function : NodeId} {target : Tree (Tree.Numbered Decl)}
    (htarget : target ∈ siblings) :
    ∃ members, Creates siblings (defineReader c function target).trees
      (defineReader c function target).headers members := by
  unfold defineReader
  split
  · exact ⟨[], .of_ownedIn_eq_nil rfl⟩
  · exact ⟨_, creates_readStatements htarget _ _ _⟩

theorem creates_define {c : Catalog} {t : Tree (Tree.Numbered Decl)} (ht : t ∈ siblings)
    {batch : DefinitionBatch} (h : define c siblings t = .ok batch) :
    ∃ members, Creates siblings batch.trees batch.headers members := by
  unfold define at h
  split at h
  · cases h
    exact creates_defineClass ht
  · split at h
    · split at h
      next target htarget =>
        cases h
        exact creates_defineReader (mem_of_classNamed? htarget).1
      next => cases h
    · cases h
      exact ⟨[], .of_ownedIn_eq_nil rfl⟩
  · cases h
    exact ⟨[], .of_ownedIn_eq_nil rfl⟩

/-- **Who makes objects asks for factories**, in the definitions of any declarations. -/
theorem creates_defineAll {c : Catalog} :
    ∀ {ts : List (Tree (Tree.Numbered Decl))} {batch : DefinitionBatch}, ts ⊆ siblings →
      defineAll c siblings ts = .ok batch →
        ∃ members, Creates siblings batch.trees batch.headers members
  | [], _, _, h => by
    cases h
    exact ⟨[], .of_ownedIn_eq_nil rfl⟩
  | t :: ts, batch, hsub, h => by
    obtain ⟨ht, hsub⟩ := List.cons_subset.mp hsub
    unfold defineAll at h
    cases hfirst : define c siblings t with
    | error fault => simp [hfirst] at h
    | ok first =>
      cases hrest : defineAll c siblings ts with
      | error fault => simp [hfirst, hrest] at h
      | ok rest =>
        simp only [hfirst, hrest, Except.ok.injEq] at h
        obtain ⟨members, hmembers⟩ := creates_define ht hfirst
        obtain ⟨more, hmore⟩ := creates_defineAll hsub hrest
        rw [← h]
        exact ⟨members ++ more, hmembers.append hmore⟩

/-- What a source is to include: the header of its schema first, and a factory for each member that
an object is made for, as objects are made for members only. -/
structure SourceComplete (schemaName : String) (d : Declarations) (i : Definitions) : Prop where
  distinct : i.source.lines.Nodup
  own : i.source.lines.head? = some (includeLine (headerName schemaName))
  created : ∀ id access, .owned id access ∈ i.tree.labels →
    ∃ t ∈ d.scope.children, ∃ m ∈ numberedMembers t, m.1 = id
  factory : ∀ t ∈ d.scope.children, ∀ m ∈ numberedMembers t, ∀ access,
    .owned m.1 access ∈ i.tree.labels →
      i.source.lines.count (includeLine (m.2.name ++ "_factory.h")) = 1

section Source

variable {c : Catalog} {s : Schema} {d : Declarations} {i : Definitions}

theorem ownedIn_scope (id : NodeId) (ts : List (Tree Defn)) :
    ownedIn [.node (.scope id) ts] = ownedIn ts := by
  rw [ownedIn, List.flatMap_singleton, Tree.labels_node, List.filterMap_cons_none rfl, ownedIn]

/-- **What a source includes**: its own header, and then the factories of the members that objects
are made for. -/
theorem exists_creates (h : (buildDefinitions c s.name (d.container.map Prod.fst) d.scope).result =
      .ok i) :
    ∃ members, Creates d.scope.children [i.tree] (members.map (·.2.name ++ "_factory.h")) members ∧
      i.source = ({} : Preamble).addHeaders
        (headerName s.name :: members.map (·.2.name ++ "_factory.h")) := by
  unfold buildDefinitions at h
  cases hbatch : defineAll c d.scope.children d.scope.children with
  | error fault => simp [hbatch] at h
  | ok batch =>
    simp only [hbatch, Report.result_andThen, Report.say, Except.bind, Report.result_done,
      Except.ok.injEq] at h
    obtain ⟨members, hmembers⟩ := creates_defineAll (List.Subset.refl _) hbatch
    refine ⟨members, ?_⟩
    rw [← h, ← hmembers.factories]
    refine ⟨{ hmembers with owned := ?_ }, rfl⟩
    rw [← hmembers.owned]
    cases d.container with
    | none => exact ownedIn_scope _ _
    | some id => exact (ownedIn_scope _ _).trans (ownedIn_scope _ _)

/-- Members of one number are one member. -/
theorem member_eq_of_id (hd : (buildDeclarations c s o).result = .ok d)
    {t t' : Tree (Tree.Numbered Decl)} (ht : t ∈ d.scope.children) (ht' : t' ∈ d.scope.children)
    {m m' : NodeId × MemberDecl} (hm : m ∈ numberedMembers t) (hm' : m' ∈ numberedMembers t')
    (h : m.1 = m'.1) : m = m' := by
  have hid := id_mem_of_mem_members (List.mem_map_of_mem hm)
  have hid' := id_mem_of_mem_members (List.mem_map_of_mem hm')
  obtain rfl := eq_of_mem_ids hd ht ht' hid (h ▸ hid')
  exact List.inj_on_of_nodup_map (nodup_numberedMembers hd ht) hm hm' h

/-- **A source is complete.** -/
theorem sourceComplete (hd : (buildDeclarations c s o).result = .ok d)
    (hi : (buildDefinitions c s.name (d.container.map Prod.fst) d.scope).result = .ok i) :
    SourceComplete s.name d i := by
  obtain ⟨members, hcreates, hsource⟩ := exists_creates hi
  have hdistinct : i.source.lines.Nodup := by
    rw [hsource]
    exact Preamble.nodup_addHeaders _ List.nodup_nil
  have hcreated {id access} (hmem : .owned id access ∈ i.tree.labels) :
      ∃ m ∈ members, m.1 = id := by
    rw [← List.mem_map, ← hcreates.owned, ownedIn, List.flatMap_singleton]
    exact List.mem_filterMap.mpr ⟨_, hmem, rfl⟩
  refine
    { distinct := hdistinct
      own := ?_
      created := fun id access hmem => ?_
      factory := fun t ht m hm access hmem => ?_ }
  · rw [hsource]
    exact Preamble.head?_addHeaders (p := ({} : Preamble).addHeader (headerName s.name)) _ rfl
  · obtain ⟨m, hm, hid⟩ := hcreated hmem
    obtain ⟨t, ht, hmem⟩ := hcreates.declared m hm
    exact ⟨t, ht, m, hmem, hid⟩
  · obtain ⟨m', hm', hid⟩ := hcreated hmem
    obtain ⟨t', ht', hmem'⟩ := hcreates.declared m' hm'
    obtain rfl := member_eq_of_id hd ht' ht hmem' hm hid
    refine List.count_eq_one_of_mem hdistinct ?_
    rw [hsource]
    refine Preamble.mem_addHeaders_iff.mpr (.inr ⟨_, List.mem_cons_of_mem _ ?_, rfl⟩)
    exact List.mem_map_of_mem hm'

end Source

/-! ## Both -/

/-- **Which schemas have all their includes.** The source of a schema is complete, and the header is
complete for all sub-selections that stand in no array. For those that do it is complete only if each
of them has a header that is asked for otherwise. -/
theorem includes_complete_iff {l : Loader} {plugins : Option Registry} {o : UnitOptions}
    {schema : Schema} {unit : CodeUnit} (h : (compile l plugins o schema).result = .ok unit) :
    ∃ c d i world, (Catalog.build l o.strict schema).result = .ok c ∧
      (buildDeclarations c schema o.decls).result = .ok d ∧
      (buildDefinitions c schema.name (d.container.map Prod.fst) d.scope).result = .ok i ∧
      unit = { CodeUnit.ofTrees schema d i with world } ∧
      SourceComplete schema.name d i ∧
      HeaderComplete ⟨c, schema⟩ d (· = 0) ∧
      (HeaderComplete ⟨c, schema⟩ d (fun _ => True) ↔
        ∀ g e type, Typed ⟨c, schema⟩ g e type → ∀ depth value,
          SubSelects type (depth + 1) value → Asked o.decls ⟨c, schema⟩ (headerName value)) := by
  obtain ⟨c, d, i, world, hc, hd, hi, rfl⟩ := exists_built_of_compile h
  refine ⟨c, d, i, world, hc, hd, hi, rfl, sourceComplete hd hi, headerComplete hd, ?_⟩
  rw [headerComplete_iff hd]
  constructor
  · exact fun hasked g e type htyped depth value => hasked g e type htyped _ value trivial
  · intro hasked g e type htyped depth value _ hvalue
    cases hvalue with
    | here hkind => exact .subSelection htyped (.here hkind)
    | within hkind helem hwithin =>
      exact hasked g e type htyped _ _ (.within hkind helem hwithin)

/-! ### A list of sub-selections -/

/-- A group, and another with an element of this type. -/
def partsSchema (dataType : String) : Schema where
  name := "S"
  objects :=
    [{ name := "Part", type := .dataGroup },
      { name := "G", type := .dataGroup, elements := [{ name := "parts", dataType }] }]

/-- The header of the schema that a part is chosen from is included. -/
theorem includes_complete_part :
    let s := partsSchema "\x7bPart(schema=RS0005)\x7d"
    ∃ unit c d i, (compile (SchemaSet.loader {}) none {} s).result = .ok unit ∧
      HeaderComplete ⟨c, s⟩ d (· = 0) ∧ SourceComplete "S" d i ∧
      unit.header = d.header ∧ unit.source = i.source ∧
      unit.header.lines = standardHeaders.map includeLine ++ ["#include <rs0005.h>"] := by
  intro s
  have hlines : (compile (SchemaSet.loader {}) none {} s).result.toOption.map (·.header.lines) =
      some (standardHeaders.map includeLine ++ ["#include <rs0005.h>"]) := by
    decide +kernel
  obtain ⟨unit, hunit, hlines⟩ := Option.map_eq_some_iff.mp hlines
  have hcompile := eq_ok_of_toOption hunit
  obtain ⟨c, d, i, world, -, -, -, rfl, hsource, hheader, -⟩ := includes_complete_iff hcompile
  exact ⟨_, c, d, i, hcompile, hheader, hsource, rfl, rfl, hlines⟩

/-- The header of the schema that a list of parts is chosen from is not included. -/
theorem missing_include_parts :
    let s := partsSchema "[\x7bPart(schema=RS0005)\x7d]"
    ∃ unit c d i g e type, (compile (SchemaSet.loader {}) none {} s).result = .ok unit ∧
      translation? s = some (c, d, i) ∧
      Typed ⟨c, s⟩ g e type ∧ SubSelects type 1 "RS0005" ∧
      unit.header.lines = standardHeaders.map includeLine ∧
      includeLine (headerName "RS0005") ∉ unit.header.lines ∧
      ¬ HeaderComplete ⟨c, s⟩ d (fun _ => True) := by
  intro s
  let e : DataElement := { name := "parts", dataType := "[\x7bPart(schema=RS0005)\x7d]" }
  let g : SchemaObject := { name := "G", type := .dataGroup, elements := [e] }
  have hlines : (compile (SchemaSet.loader {}) none {} s).result.toOption.map (·.header.lines) =
      some (standardHeaders.map includeLine) := by
    decide +kernel
  have hview : ((translation? s).bind fun (c, d, _) =>
      (Resolver.resolve ⟨c, s⟩ g e).toOption.bind fun type => type.elem.map fun elem =>
        (d.header.lines, type.kind, elem.kind, elem.subValue)) =
      some (standardHeaders.map includeLine, .array, .nested, "RS0005") := by
    decide +kernel
  have hnot : includeLine (headerName "RS0005") ∉ standardHeaders.map includeLine := by
    decide
  obtain ⟨unit, hunit, hlines⟩ := Option.map_eq_some_iff.mp hlines
  obtain ⟨⟨c, d, i⟩, hbuilt, hview⟩ := Option.bind_eq_some_iff.mp hview
  obtain ⟨type, htype, hview⟩ := Option.bind_eq_some_iff.mp hview
  obtain ⟨elem, helem, hview⟩ := Option.map_eq_some_iff.mp hview
  simp only [Prod.mk.injEq] at hview
  obtain ⟨hheader, hkind, hnested, hvalue⟩ := hview
  have hgroup : g ∈ s.groups := by decide
  have htyped : Typed ⟨c, s⟩ g e type :=
    ⟨hgroup, List.mem_singleton_self e, eq_ok_of_toOption htype⟩
  have hwithin : SubSelects type 1 "RS0005" := by
    rw [← hvalue]
    exact .within hkind helem (.here hnested)
  refine ⟨unit, c, d, i, g, e, type, eq_ok_of_toOption hunit, hbuilt, htyped, hwithin, hlines,
    hlines ▸ hnot, fun hcomplete => ?_⟩
  have hcount := hcomplete.subSelection g e type htyped 1 "RS0005" trivial hwithin
  rw [hheader, List.count_eq_zero.mpr hnot] at hcount
  exact absurd hcount Nat.zero_ne_one

end SchemaGen
