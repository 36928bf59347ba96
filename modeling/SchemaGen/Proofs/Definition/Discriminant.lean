import SchemaGen.Proofs.Definition.ReadOnce
import SchemaGen.Proofs.TypeExpr.Selector

/-!
# When a discriminant is read before it is tested

A selected member is made by testing another member, its key. The key is looked for in the same
group first and then anywhere, and a body reads a group in the order of its elements. So the key of
a selected member need not have been read when it is tested, and need not be a member of the group
at all (`key_tested_unfetched`).

`key_fetched_before_iff` is what does hold, of every selected member in every body: its key names an
element that has a type, and it is fetched before the test exactly if the group has, before the
selected element, an element of that name that is not selected itself.
-/

set_option autoImplicit false

namespace SchemaGen

open TypeExpr

/-! ## Selectors -/

theorem kind_ne_selector_of_resolveExpression {c : Catalog} {cs : List Char}
    {type : TypeDescriptor} (h : resolveExpression c cs = some type) : type.kind ≠ .selector := by
  unfold resolveExpression at h
  dsimp only at h
  split at h
  · obtain ⟨elem, -, rfl⟩ := Option.map_eq_some_iff.mp h
    exact TypeKind.noConfusion
  · rcases kind_of_resolveSimple h with hkind | hkind <;>
      (rw [hkind]; exact TypeKind.noConfusion)

/-- The type of a selected element: its key is that of the first constraint that is a choice, and it
names an element that has a type. -/
structure IsSelector (r : Resolver) (group : SchemaObject) (e : DataElement)
    (type : TypeDescriptor) : Prop where
  kind : type.kind = .selector
  key : ∃ text, e.constraints.findSome? selectorConstraint? = some (type.key, text)
  found : (discriminantType? r.catalog r.schema group type.key).isSome

theorem isSelector_of_resolveSelector {r : Resolver} {group : SchemaObject} {e : DataElement}
    {raw choices : String} {type : TypeDescriptor}
    (h : r.resolveSelector group e raw choices = .ok type) : IsSelector r group e type := by
  obtain ⟨key, list, keyType, -, -, hconstraint, -, -, hkey, -, -, rfl⟩ :=
    resolveSelector_eq_ok_iff.mp h
  exact ⟨rfl, ⟨list, hconstraint⟩, Option.isSome_iff_exists.mpr ⟨keyType, hkey⟩⟩

/-- Whether an element is selected can be told from its data type. -/
theorem resolve_cases {r : Resolver} {group : SchemaObject} {e : DataElement}
    {type : TypeDescriptor} (h : r.resolve group e = .ok type) :
    (selectorChoices? (Text.trim e.dataType) = none ∧ type.kind ≠ .selector) ∨
      selectorChoices? (Text.trim e.dataType) ≠ none ∧ IsSelector r group e type := by
  unfold Resolver.resolve at h
  dsimp only at h
  split at h
  · cases h
  · cases hchoices : selectorChoices? (Text.trim e.dataType) with
    | some choices =>
      rw [hchoices] at h
      exact Or.inr ⟨Option.some_ne_none choices, isSelector_of_resolveSelector h⟩
    | none =>
      rw [hchoices] at h
      cases hexpression : resolveExpression r.catalog (Text.trim e.dataType).toList with
      | none => simp [hexpression] at h
      | some descriptor =>
        simp only [hexpression, Except.ok.injEq] at h
        rw [← h]
        exact Or.inl ⟨rfl, kind_ne_selector_of_resolveExpression hexpression⟩

theorem kind_ne_selector_iff {r : Resolver} {group : SchemaObject} {e : DataElement}
    {type : TypeDescriptor} (h : r.resolve group e = .ok type) :
    type.kind ≠ .selector ↔ selectorChoices? (Text.trim e.dataType) = none := by
  rcases resolve_cases h with ⟨hnone, hkind⟩ | ⟨hsome, hselector⟩
  · exact iff_of_true hkind hnone
  · exact iff_of_false (not_not_intro hselector.kind) hsome

theorem isSelector_of_kind {r : Resolver} {group : SchemaObject} {e : DataElement}
    {type : TypeDescriptor} (h : r.resolve group e = .ok type) (hkind : type.kind = .selector) :
    IsSelector r group e type :=
  ((resolve_cases h).resolve_left fun hnone => hnone.2 hkind).2

/-- The objects that the key of a selector is looked for in, those of the same group first. -/
def keyObjects (c : Catalog) (s : Schema) (group : SchemaObject) : List SchemaObject :=
  group :: s.objects ++ c.origins.flatMap (·.objects)

theorem exists_key_of_discriminantType? {c : Catalog} {s : Schema} {group : SchemaObject}
    {key : String} (h : (discriminantType? c s group key).isSome) :
    ∃ o ∈ keyObjects c s group, ∃ e ∈ o.elements, e.name = key ∧ e.dataType ≠ "" := by
  rw [discriminantType?, Option.isSome_map] at h
  obtain ⟨type, htype⟩ := Option.isSome_iff_exists.mp h
  obtain ⟨objects, hobjects, htype⟩ := List.exists_of_findSome?_eq_some htype
  obtain ⟨o, ho, htype⟩ := List.exists_of_findSome?_eq_some htype
  obtain ⟨e, he, -⟩ := Option.map_eq_some_iff.mp htype
  have hkey := List.find?_some he
  refine ⟨o, ?_, e, List.mem_of_find?_eq_some he, of_decide_eq_true hkey⟩
  rw [keyObjects, List.cons_append, List.mem_cons, List.mem_append, List.mem_flatMap]
  rcases List.mem_cons.mp hobjects with rfl | hobjects
  · exact Or.inl (List.mem_singleton.mp ho)
  rcases List.mem_cons.mp hobjects with rfl | hobjects
  · exact Or.inr (Or.inl ho)
  · obtain ⟨origin, horigin, rfl⟩ := List.mem_map.mp hobjects
    exact Or.inr (Or.inr ⟨origin, horigin, ho⟩)

/-! ## Places -/

theorem exists_getElem?_of_forall₂ {α β : Type} {R : α → β → Prop} {as : List α} {bs : List β}
    (h : List.Forall₂ R as bs) {k : Nat} {a : α} (ha : as[k]? = some a) :
    ∃ b, bs[k]? = some b ∧ R a b := by
  induction h generalizing k with
  | nil => cases ha
  | @cons a' b as bs hab _ ih =>
    cases k with
    | zero =>
      cases ha
      exact ⟨b, rfl, hab⟩
    | succ k => exact ih ha

theorem readStatement_eq_owned {access access' : Access} {m : NodeId × MemberDecl}
    {member : NodeId} :
    readStatement access m = .owned member access' ↔
      m.2.type.kind = .selector ∧ m.1 = member ∧ access = access' := by
  by_cases hkind : m.2.type.kind = .selector <;>
    simp [readStatement, TypeDescriptor.isOwning, hkind]

theorem readStatement_eq_fetch {access access' : Access} {m : NodeId × MemberDecl}
    {member : NodeId} :
    readStatement access m = .fetch member access' ↔
      m.2.type.kind ≠ .selector ∧ m.1 = member ∧ access = access' := by
  by_cases hkind : m.2.type.kind = .selector <;>
    simp [readStatement, TypeDescriptor.isOwning, hkind]

/-- The statement that reads a member stands where the member does. -/
theorem getElem?_readStatements {c : Catalog} {t : Tree (Tree.Numbered Decl)} {access : Access}
    {k : Nat} {statement : Defn} {member : NodeId}
    (h : (readStatements c t access)[k]? = some statement)
    (hread : statement.reads? = some member) :
    ∃ m, (numberedMembers t)[k]? = some m ∧ statement = readStatement access m := by
  rw [readStatements, List.getElem?_append] at h
  split at h
  · rw [List.getElem?_map] at h
    obtain ⟨m, hm, rfl⟩ := Option.map_eq_some_iff.mp h
    exact ⟨m, hm, rfl⟩
  · -- behind the members a performance map is handed on, and nothing is read
    have hmem := List.mem_of_getElem? h
    split at hmem
    · obtain ⟨m, -, rfl⟩ := List.mem_map.mp hmem
      cases hread
    · cases hmem

theorem getElem?_readStatements_of_member {c : Catalog} {t : Tree (Tree.Numbered Decl)}
    {access : Access} {k : Nat} {m : NodeId × MemberDecl}
    (h : (numberedMembers t)[k]? = some m) :
    (readStatements c t access)[k]? = some (readStatement access m) := by
  have hlt : k < ((numberedMembers t).map (readStatement access)).length := by
    rw [List.length_map]
    exact (List.getElem?_eq_some_iff.mp h).1
  rw [readStatements, List.getElem?_append_left hlt, List.getElem?_map, h]
  rfl

/-! ## Keys -/

/-- The data member with this number. -/
def Declarations.HasMember (d : Declarations) (id : NodeId) (m : MemberDecl) : Prop :=
  ⟨id, .member m⟩ ∈ d.tree.labels

section Keys

variable {c : Catalog} {s : Schema} {o : DeclOptions} {d : Declarations} {i : Definitions}

theorem hasMember_of_mem {t : Tree (Tree.Numbered Decl)} (ht : t ∈ d.scope.children)
    {m : NodeId × MemberDecl} (hm : m ∈ numberedMembers t) : d.HasMember m.1 m.2 := by
  obtain ⟨u, hu, hmap⟩ := List.mem_filterMap.mp hm
  obtain ⟨decl, hdecl, rfl⟩ := Option.map_eq_some_iff.mp hmap
  have hlabel : u.label = ⟨u.label.id, .member decl⟩ := by
    rw [← Decl.member?_eq_some.mp hdecl]
  have hscope : u.label ∈ d.scope.labels :=
    Tree.mem_labels_of_mem_children ht (Tree.mem_labels_of_mem_children hu (Tree.mem_labels_self u))
  rw [Declarations.HasMember, ← hlabel, Declarations.tree]
  split
  · exact Tree.mem_labels_of_mem_children (List.mem_singleton_self d.scope) hscope
  · exact hscope

theorem eq_of_hasMember (hd : (buildDeclarations c s o).result = .ok d) {id : NodeId}
    {m m' : MemberDecl} (h : d.HasMember id m) (h' : d.HasMember id m') : m = m' := by
  have hlabel := List.inj_on_of_nodup_map (nodup_ids_tree hd) h h' rfl
  cases hlabel
  rfl

/-- A body that reads anything reads one group, in the order of its elements. -/
theorem exists_group_of_reads (hd : (buildDeclarations c s o).result = .ok d)
    (hi : (buildDefinitions c s.name (d.container.map Prod.fst) d.scope).result = .ok i)
    {b : Body} (hb : b ∈ bodies i.tree) {statement : Defn} (hstatement : statement ∈ b.statements)
    {member : NodeId} (hread : statement.reads? = some member) :
    ∃ g ∈ s.groups, ∃ t ∈ d.scope.children, ∃ access,
      b.statements = readStatements c t access ∧
      List.Forall₂ (fun e m => IsMemberFor ⟨c, s⟩ g e m.2) g.elements (numberedMembers t) := by
  obtain ⟨u, hu, hb⟩ := (mem_bodies_iff hi).mp hb
  rcases exists_of_reads hb hstatement hread with ⟨decl, hdecl, hmember, f, hf, hinit, rfl⟩ |
    ⟨f, target, hvalue, hkind, htarget, hmember, hnone, rfl⟩
  · obtain ⟨m, hm, -⟩ := List.mem_map.mp hmember
    obtain ⟨g, hg, -, helements⟩ := exists_group_of_member hd hu hdecl hm
    exact ⟨g, hg, u, hu, .inside, rfl, helements⟩
  · obtain ⟨m, hm, -⟩ := List.mem_map.mp hmember
    obtain ⟨htargetMem, hname⟩ := mem_of_classNamed? htarget
    obtain ⟨decl, hdecl, -⟩ := Option.map_eq_some_iff.mp hname
    obtain ⟨g, hg, -, helements⟩ :=
      exists_group_of_member hd htargetMem (Decl.struct?_eq_some.mp hdecl) hm
    exact ⟨g, hg, target, htargetMem, .outside, rfl, helements⟩

/-- **When a key is fetched before it is tested.** Take any statement of any body that makes the
object of a selected member. The body reads a group, and the statement stands where the selected
element does. The key is that of the element's first constraint that is a choice, and it names an
element that has a type: of this group, of the schema or of one that it refers to. It is fetched
earlier in the body if and only if an earlier element of the group has that name and is not selected
itself. -/
theorem key_fetched_before_iff (hd : (buildDeclarations c s o).result = .ok d)
    (hi : (buildDefinitions c s.name (d.container.map Prod.fst) d.scope).result = .ok i)
    {b : Body} (hb : b ∈ bodies i.tree) {k : Nat} {member : NodeId} {access : Access}
    (hk : b.statements[k]? = some (.owned member access)) :
    ∃ g ∈ s.groups, ∃ e m, g.elements[k]? = some e ∧ d.HasMember member m ∧
      IsMemberFor ⟨c, s⟩ g e m ∧ m.type.kind = .selector ∧
      (∃ text, e.constraints.findSome? selectorConstraint? = some (m.type.key, text)) ∧
      (∃ object ∈ keyObjects c s g, ∃ e' ∈ object.elements,
        e'.name = m.type.key ∧ e'.dataType ≠ "") ∧
      ((∃ j < k, ∃ member' m', b.statements[j]? = some (.fetch member' access) ∧
          d.HasMember member' m' ∧ m'.name = m.type.key) ↔
        ∃ j < k, ∃ e', g.elements[j]? = some e' ∧ e'.name = m.type.key ∧
          selectorChoices? (Text.trim e'.dataType) = none) := by
  obtain ⟨g, hg, t, ht, access', hstatements, helements⟩ :=
    exists_group_of_reads hd hi hb (List.mem_of_getElem? hk) rfl
  rw [hstatements] at hk ⊢
  obtain ⟨m, hm, howned⟩ := getElem?_readStatements hk rfl
  obtain ⟨hkind, rfl, rfl⟩ := readStatement_eq_owned.mp howned.symm
  obtain ⟨e, he, hem⟩ := exists_getElem?_of_forall₂ helements.flip hm
  have hselector := isSelector_of_kind hem.2.2 hkind
  refine ⟨g, hg, e, m.2, he, hasMember_of_mem ht (List.mem_of_getElem? hm), hem, hkind,
    hselector.key, exists_key_of_discriminantType? hselector.found, ?_⟩
  constructor
  · rintro ⟨j, hjk, member', m', hfetch, hm', hname⟩
    obtain ⟨m'', hj, hread⟩ := getElem?_readStatements hfetch rfl
    obtain ⟨e', he', hem'⟩ := exists_getElem?_of_forall₂ helements.flip hj
    obtain ⟨hkind', rfl, -⟩ := readStatement_eq_fetch.mp hread.symm
    -- numbers tell members apart, so the one that is fetched is the one at its place
    have heq := eq_of_hasMember hd hm' (hasMember_of_mem ht (List.mem_of_getElem? hj))
    refine ⟨j, hjk, e', he', ?_, ?_⟩
    · rw [← hem'.1, ← heq, hname]
    · exact (kind_ne_selector_iff hem'.2.2).mp hkind'
  · rintro ⟨j, hjk, e', he', hname, hnone⟩
    obtain ⟨m', hj, hem'⟩ := exists_getElem?_of_forall₂ helements he'
    have hkind' := (kind_ne_selector_iff hem'.2.2).mpr hnone
    refine ⟨j, hjk, m'.1, m'.2, ?_, hasMember_of_mem ht (List.mem_of_getElem? hj),
      hem'.1.trans hname⟩
    rw [getElem?_readStatements_of_member hj, readStatement_eq_fetch.mpr ⟨hkind', rfl, rfl⟩]

end Keys

/-! ## Groups with a choice -/

/-- Whether some body of a schema has an `owned` statement at this place. -/
def ownsAt (s : Schema) (k : Nat) : Option Bool :=
  (translation? s).map fun r => (bodies r.2.2.tree).any fun b =>
    match b.statements[k]? with
    | some (.owned ..) => true
    | _ => false

theorem exists_of_ownsAt {s : Schema} {k : Nat} (h : ownsAt s k = some true) :
    ∃ c d i b member access, translation? s = some (c, d, i) ∧ b ∈ bodies i.tree ∧
      b.statements[k]? = some (.owned member access) := by
  obtain ⟨⟨c, d, i⟩, htranslation, h⟩ := Option.map_eq_some_iff.mp h
  obtain ⟨b, hb, h⟩ := List.any_eq_true.mp h
  split at h
  next member access hk => exact ⟨c, d, i, b, member, access, htranslation, hb, hk⟩
  next => cases h

/-- Where the key stands before the selected element, it is fetched before it is tested. -/
theorem key_fetched_before_choice :
    ∃ c d i b member access m, translation? (choiceSchema [] [keyElement, choiceElement]) =
        some (c, d, i) ∧ b ∈ bodies i.tree ∧ b.statements[1]? = some (.owned member access) ∧
      d.HasMember member m ∧ m.type.key = "k" ∧
      ∃ j < 1, ∃ member' m', b.statements[j]? = some (.fetch member' access) ∧
        d.HasMember member' m' ∧ m'.name = m.type.key := by
  obtain ⟨c, d, i, b, member, access, htranslation, hb, hk⟩ := exists_of_ownsAt
    (show ownsAt (choiceSchema [] [keyElement, choiceElement]) 1 = some true by decide +kernel)
  obtain ⟨-, hd, hi⟩ := of_translation? htranslation
  obtain ⟨g, hg, e, m, he, hm, -, -, ⟨text, hkey⟩, -, hiff⟩ := key_fetched_before_iff hd hi hb hk
  -- only `G` has a second element
  have hsecond : ∀ g ∈ (choiceSchema [] [keyElement, choiceElement]).groups,
      g.elements[1]? = none ∨ g.elements = [keyElement, choiceElement] := by
    decide
  have helements := (hsecond g hg).resolve_left (by rw [he]; exact Option.some_ne_none e)
  rw [helements] at he hiff
  cases he
  have hk' : m.type.key = "k" := by
    have hchoice : choiceElement.constraints.findSome? selectorConstraint? = some ("k", "P, Q") :=
      by decide +kernel
    rw [hchoice, Option.some.injEq, Prod.mk.injEq] at hkey
    exact hkey.1.symm
  refine ⟨c, d, i, b, member, access, m, htranslation, hb, hk, hm, hk', hiff.mpr ?_⟩
  exact ⟨0, Nat.zero_lt_one, keyElement, rfl, hk'.symm, by decide +kernel⟩

/-- A schema with a body that tests a key which it has not fetched before. -/
def TestsUnfetchedKey (s : Schema) : Prop :=
  ∃ c d i b, ∃ k : Nat, ∃ member access m, translation? s = some (c, d, i) ∧
    b ∈ bodies i.tree ∧ b.statements[k]? = some (.owned member access) ∧ d.HasMember member m ∧
    ¬ ∃ j < k, ∃ member' access' m', b.statements[j]? = some (.fetch member' access') ∧
      d.HasMember member' m' ∧ m'.name = m.type.key

theorem testsUnfetchedKey_of_ownsAt {s : Schema} (h : ownsAt s 0 = some true) :
    TestsUnfetchedKey s := by
  obtain ⟨c, d, i, b, member, access, htranslation, hb, hk⟩ := exists_of_ownsAt h
  obtain ⟨-, hd, hi⟩ := of_translation? htranslation
  obtain ⟨g, -, t, ht, access', hstatements, -⟩ :=
    exists_group_of_reads hd hi hb (List.mem_of_getElem? hk) rfl
  have hread := hk
  rw [hstatements] at hread
  obtain ⟨m, hm, howned⟩ := getElem?_readStatements hread rfl
  obtain ⟨-, rfl, -⟩ := readStatement_eq_owned.mp howned.symm
  refine ⟨c, d, i, b, 0, m.1, access, m.2, htranslation, hb, hk,
    hasMember_of_mem ht (List.mem_of_getElem? hm), ?_⟩
  rintro ⟨j, hj, -⟩
  exact Nat.not_lt_zero j hj

/-- **A key may be tested before it is fetched**: where it is an element of another group, and where
it stands behind the selected element. -/
theorem key_tested_unfetched :
    TestsUnfetchedKey (choiceSchema [keyElement] [choiceElement]) ∧
      TestsUnfetchedKey (choiceSchema [] [choiceElement, keyElement]) :=
  ⟨testsUnfetchedKey_of_ownsAt (by decide +kernel), testsUnfetchedKey_of_ownsAt (by decide +kernel)⟩

end SchemaGen
