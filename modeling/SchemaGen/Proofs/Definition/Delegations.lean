import SchemaGen.Proofs.Catalog.Objects
import SchemaGen.Proofs.Definition.PerformanceMap
import SchemaGen.Proofs.Definition.Selection
import SchemaGen.Proofs.Text.Split

/-!
# Which variables a performance map is handed to

When a performance map has read its members it hands itself to those that are grid or lookup
variables, and these enter themselves through a function of their own. The two sides are decided at
different places. A class declares the function by its role, and the role of the root group goes
before that of its type; a map hands itself on by the type of the object that the catalog has for
the member's type, which it finds by what stands behind the last `::`.

So the two sides agree except in two cases. The class of the root group never declares the function
(`declaresPopulate_iff`), and a name that has colons of its own is not found under itself
(`typeName_eq_iff`). `delegations_iff` says so of every schema in which no two objects share a name;
`root_group_not_populated` has a map that calls a function which its member does not have.
-/

set_option autoImplicit false

namespace SchemaGen

/-- The member that a statement hands a performance map to. -/
def Defn.populates? : Defn → Option NodeId
  | .populate member _ => some member
  | _ => none

theorem Defn.populates?_eq_some {statement : Defn} {member : NodeId} :
    statement.populates? = some member ↔ ∃ access, statement = .populate member access := by
  cases statement <;> simp [populates?, eq_comm]

/-- An object of a type whose classes enter themselves into performance maps. -/
def SchemaObject.IsVariables (o : SchemaObject) : Prop :=
  o.type = .gridVariables ∨ o.type = .lookupVariables

/-! ## Statements -/

section Statements

variable {c : Catalog} {t : Tree (Tree.Numbered Decl)} {access : Access}

/-- What hands a map on comes from a map, and stands behind all that reads. -/
theorem getElem?_readStatements_populate {k : Nat} {member : NodeId} {access' : Access}
    (h : (readStatements c t access)[k]? = some (.populate member access')) :
    roleOf t = .performanceMap ∧ access' = access ∧ (numberedMembers t).length ≤ k ∧
      ∃ m ∈ numberedMembers t, m.1 = member ∧ isPerformanceVariables c m.2.type = true := by
  rw [readStatements, List.getElem?_append] at h
  split at h
  next =>
    rw [List.getElem?_map] at h
    obtain ⟨m, -, hread⟩ := Option.map_eq_some_iff.mp h
    unfold readStatement at hread
    split at hread <;> cases hread
  next hbehind =>
    rw [List.length_map, Nat.not_lt] at hbehind
    have hmem := List.mem_of_getElem? h
    split at hmem
    next hrole =>
      obtain ⟨m, hm, hpopulate⟩ := List.mem_map.mp hmem
      obtain ⟨hm, hvariables⟩ := List.mem_filter.mp hm
      cases hpopulate
      exact ⟨hrole, rfl, hbehind, m, hm, rfl, hvariables⟩
    next => cases hmem

theorem filter_populates_readStatements (hrole : roleOf t = .performanceMap) :
    (readStatements c t access).filter (·.populates?.isSome) =
      ((numberedMembers t).filter (isPerformanceVariables c ·.2.type)).map
        (.populate ·.1 access) := by
  have hreads : ((numberedMembers t).map (readStatement access)).filter
      (·.populates?.isSome) = [] := by
    rw [List.filter_eq_nil_iff]
    intro statement hstatement
    obtain ⟨m, -, rfl⟩ := List.mem_map.mp hstatement
    unfold readStatement
    split <;> exact Bool.false_ne_true
  rw [readStatements, if_pos hrole, List.filter_append, hreads, List.nil_append,
    List.filter_eq_self]
  intro statement hstatement
  obtain ⟨m, -, rfl⟩ := List.mem_map.mp hstatement
  rfl

end Statements

section Bodies

variable {c : Catalog} {s : Schema} {o : DeclOptions} {d : Declarations} {i : Definitions}

/-! ## Which bodies hand a map on -/

/-- A performance map has one `initialize`. -/
theorem exists_initialize (hd : (buildDeclarations c s o).result = .ok d)
    {t : Tree (Tree.Numbered Decl)} (ht : t ∈ d.scope.children)
    (hrole : roleOf t = .performanceMap) :
    ∃ f, (numberedFunctions t).filter (·.2.isInitialize) = [f] := by
  obtain ⟨g, -, members, hlabel, -, hvalues⟩ :=
    exists_group_of_role hd ht (by rw [hrole]; exact Role.noConfusion)
  have hcount := countP_isInitialize hlabel hvalues
  rw [readsItself, hrole, List.countP_eq_length_filter] at hcount
  exact List.length_eq_one_iff.mp hcount

/-- **A map is handed on by its own `initialize`** and by no other body. -/
theorem exists_of_populates (hd : (buildDeclarations c s o).result = .ok d)
    (hi : (buildDefinitions c s.name (d.container.map Prod.fst) d.scope).result = .ok i) {b : Body}
    (hb : b ∈ bodies i.tree) {member : NodeId} {access : Access}
    (hstatement : .populate member access ∈ b.statements) :
    ∃ t ∈ d.scope.children, roleOf t = .performanceMap ∧
      isBodyOf t (·.isInitialize) b = true ∧ b.statements = readStatements c t .inside := by
  obtain ⟨u, hu, hb⟩ := (mem_bodies_iff hi).mp hb
  rcases mem_bodiesFor_iff.mp hb with ⟨decl, hdecl, f, hf, statements, hstatements, rfl⟩ |
    ⟨f, -, -, target, htarget, rfl⟩
  · unfold memberStatements? at hstatements
    split at hstatements
    next hinit =>
      cases hstatements
      obtain ⟨k, hk⟩ := List.getElem?_of_mem hstatement
      obtain ⟨hrole, -⟩ := getElem?_readStatements_populate hk
      exact ⟨u, hu, hrole, decide_eq_true ⟨rfl, f, hf, rfl, hinit⟩, rfl⟩
    next =>
      split at hstatements
      · cases hstatements
        cases forall_mem_populateStatements (P := (·.populates? = none)) (fun _ => rfl)
          (fun _ => rfl) rfl _ hstatement
      · split at hstatements
        · cases hstatements
          simp at hstatement
        · cases hstatements
  · -- a map is not read by its free reader, since it has an `initialize`
    have htargetMem := (mem_of_classNamed? htarget).1
    dsimp only at hstatement
    unfold readerStatements at hstatement
    split at hstatement
    next => simp at hstatement
    next hnone =>
      obtain ⟨k, hk⟩ := List.getElem?_of_mem hstatement
      obtain ⟨hrole, -⟩ := getElem?_readStatements_populate hk
      obtain ⟨f', hf'⟩ := exists_initialize hd htargetMem hrole
      obtain ⟨hmem, hinit⟩ := mem_of_filter_eq_singleton hf'
      exact absurd (List.any_eq_true.mpr ⟨f', hmem, hinit⟩) hnone

/-- The statements that hand a map on to a member, over all bodies. -/
def delegationsTo (i : Definitions) (member : NodeId) : List Defn :=
  (bodies i.tree).flatMap fun b => b.statements.filter (·.populates? = some member)

/-- **A member of a map gets one such statement or none**, by its type. -/
theorem delegationsTo_eq (hd : (buildDeclarations c s o).result = .ok d)
    (hi : (buildDefinitions c s.name (d.container.map Prod.fst) d.scope).result = .ok i)
    {t : Tree (Tree.Numbered Decl)} (ht : t ∈ d.scope.children) (hrole : roleOf t = .performanceMap)
    {m : NodeId × MemberDecl} (hm : m ∈ numberedMembers t) :
    delegationsTo i m.1 =
      if isPerformanceVariables c m.2.type then [.populate m.1 .inside] else [] := by
  obtain ⟨g, -, -, hdecl, -, -⟩ :=
    exists_group_of_role hd ht (by rw [hrole]; exact Role.noConfusion)
  obtain ⟨f, hf⟩ := exists_initialize hd ht hrole
  have hbody : (bodies i.tree).filter (isBodyOf t (·.isInitialize)) =
      [⟨f.1, some t.label.id, readStatements c t .inside⟩] :=
    filter_isBodyOf hd hi ht hdecl hf (if_pos (mem_of_filter_eq_singleton hf).2)
  rw [delegationsTo, flatMap_eq_of_filter hbody]
  · have hswap : ((numberedMembers t).filter (isPerformanceVariables c ·.2.type)).filter
        (·.1 = m.1) =
        ((numberedMembers t).filter (·.1 = m.1)).filter (isPerformanceVariables c ·.2.type) := by
      simp only [List.filter_filter, Bool.and_comm]
    rw [filter_eq_some_of_map (fun _ => rfl) (filter_populates_readStatements hrole) m.1, hswap,
      filter_numberedMembers hd ht hm]
    cases hvariables : isPerformanceVariables c m.2.type <;> simp [hvariables]
  · intro b hb hother
    rw [List.filter_eq_nil_iff]
    intro statement hstatement hpopulates
    obtain ⟨access, rfl⟩ := Defn.populates?_eq_some.mp (of_decide_eq_true hpopulates)
    obtain ⟨u, hu, -, hbody, hstatements⟩ := exists_of_populates hd hi hb hstatement
    rw [hstatements] at hstatement
    obtain ⟨k, hk⟩ := List.getElem?_of_mem hstatement
    obtain ⟨-, -, -, m', hm', hid, -⟩ := getElem?_readStatements_populate hk
    -- numbers tell members apart, so the body is that of the same class
    have hut : u = t := eq_of_mem_ids hd hu ht
      (id_mem_of_mem_members (List.mem_map_of_mem (f := (·.1)) hm'))
      (hid ▸ id_mem_of_mem_members (List.mem_map_of_mem (f := (·.1)) hm))
    rw [hut, hother] at hbody
    cases hbody

/-! ## Which classes declare the function -/

/-- A class without a role declares no function. -/
theorem numberedFunctions_of_plain (hd : (buildDeclarations c s o).result = .ok d)
    {t : Tree (Tree.Numbered Decl)} (ht : t ∈ d.scope.children) {decl : StructDecl}
    (hdecl : t.label.value = .struct decl) (hplain : decl.role = .plain) :
    numberedFunctions t = [] := by
  obtain ⟨values, hdeclared, hvalues⟩ := class_cases hd ht hdecl
  have hnone : overloadsOf d decl = [] :=
    overloadsOf_eq_nil (by rw [hplain]; exact Role.noConfusion)
  rw [hnone, List.append_nil] at hvalues
  rw [← List.map_eq_nil_iff (f := (·.2)), map_snd_numberedFunctions, hvalues]
  cases hdeclared with
  | group hg hmembers =>
    have hrole : groupRole _ _ = .plain := hplain
    rw [functions_groupMembers, hrole]
    rfl
  | metadata => rfl
  | holder => rfl

theorem any_isPopulate {t : Tree (Tree.Numbered Decl)} {g : SchemaObject}
    {members : List MemberDecl}
    (hlabel : t.label.value = .struct (groupStruct o (g.name = s.rootGroup) g))
    (hvalues : childValues t = groupMembers (g.name = s.rootGroup) g members ++
      overloadsOf d (groupStruct o (g.name = s.rootGroup) g)) :
    (numberedFunctions t).any (·.2.isPopulate) = true ↔ g.name ≠ s.rootGroup ∧ g.IsVariables := by
  have hoverloads : ((overloadsOf d (groupStruct o (g.name = s.rootGroup) g)).filterMap
      Decl.function?).any (·.isPopulate) = false := by
    rw [List.any_eq_false]
    intro f hf
    simp [FunctionDecl.isPopulate, kind_of_mem_overloadsOf hf]
  rw [show (fun f : NodeId × FunctionDecl => f.2.isPopulate) = (·.isPopulate) ∘ (·.2) from rfl,
    ← List.any_map, functions_group hlabel hvalues, List.any_append, hoverloads, Bool.or_false,
    roleOf_group hlabel, groupRole, SchemaObject.IsVariables]
  by_cases hroot : g.name = s.rootGroup
  · simp [hroot, overrides, Decl.function?, FunctionDecl.isPopulate]
  · simp only [hroot, decide_false, Bool.false_eq_true, if_false, ne_eq, not_false_eq_true,
      true_and]
    cases g.type <;> simp [ObjectType.role, overrides, Decl.function?, FunctionDecl.isPopulate]

/-- A class of this name declares the function through which variables enter a map. -/
def DeclaresPopulate (d : Declarations) (name : String) : Prop :=
  ∃ t ∈ d.scope.children, isClassNamed name t = true ∧
    (numberedFunctions t).any (·.2.isPopulate) = true

/-- **Who declares the function**: the classes of variables, but not that of the root group. -/
theorem declaresPopulate_iff (hd : (buildDeclarations c s o).result = .ok d) {name : String} :
    DeclaresPopulate d name ↔
      name ≠ s.rootGroup ∧ ∃ g ∈ s.objects, g.name = name ∧ g.IsVariables := by
  constructor
  · rintro ⟨t, ht, hname, hany⟩
    obtain ⟨decl, hdecl, hname⟩ := Option.map_eq_some_iff.mp (of_decide_eq_true hname)
    have hdecl := Decl.struct?_eq_some.mp hdecl
    have hrole : roleOf t ≠ .plain := by
      intro hplain
      rw [roleOf, hdecl] at hplain
      rw [numberedFunctions_of_plain hd ht hdecl hplain] at hany
      cases hany
    obtain ⟨g, hg, members, hlabel, -, hvalues⟩ := exists_group_of_role hd ht hrole
    have hgname : g.name = name := by
      rw [← hname, ← Decl.struct.inj (hlabel.symm.trans hdecl)]
      rfl
    obtain ⟨hroot, hvariables⟩ := (any_isPopulate hlabel hvalues).mp hany
    exact ⟨hgname ▸ hroot, g, (List.mem_filter.mp hg).1, hgname, hvariables⟩
  · rintro ⟨hroot, g, hg, rfl, hvariables⟩
    have hgroup : g ∈ s.groups := by
      refine List.mem_filter.mpr ⟨hg, ?_⟩
      rcases hvariables with h | h <;> rw [h] <;> rfl
    obtain ⟨t, ht, members, hlabel, -, hvalues⟩ := exists_groupClass hd hgroup
    refine ⟨t, ht, decide_eq_true ?_, (any_isPopulate hlabel hvalues).mpr ⟨hroot, hvariables⟩⟩
    rw [className?, hlabel]
    rfl

end Bodies

/-! ## Where the two sides meet -/

/-- A type is what the local schema exports under this name. -/
structure HasLocalType (c : Catalog) (s : Schema) (name : String) (type : TypeDescriptor) : Prop where
  kind : type.kind = .simple
  text : type.name = Text.namespaceName s.name ++ "::" ++ name
  origin : type.origin = s.name
  isLocal : c.isLocal name = true

/-- The name under which the object of a type is looked for. -/
def typeName (type : TypeDescriptor) : String :=
  String.ofList (Text.afterLast "::".toList type.name.toList)

/-- A name has no two colons behind one another, also not behind those of its namespace. -/
def IsUnqualified (name : String) : Prop :=
  ¬ "::".toList <:+: ':' :: name.toList

instance (name : String) : Decidable (IsUnqualified name) :=
  inferInstanceAs (Decidable (¬ "::".toList <:+: ':' :: name.toList))

section Types

variable {c : Catalog} {s : Schema} {name : String} {type : TypeDescriptor}

/-- What a local name is resolved to. -/
theorem hasLocalType_of_resolveName {loader : Loader} {strict : Bool}
    (hc : (Catalog.build loader strict s).result = .ok c) (hlocal : c.isLocal name = true)
    {raw : String} (h : TypeExpr.resolveName c raw name = some type) :
    HasLocalType c s name type := by
  have hplace : c.placeOf? name = some 0 := by simpa [Catalog.isLocal] using hlocal
  obtain ⟨-, rest, horigins⟩ := Catalog.spec_of_build hc
  have horigin : c.originOf? name = some s.name := by
    rw [Catalog.originOf?, hplace, Option.map_some, Catalog.schemaAt, horigins]
    rfl
  rw [TypeExpr.resolveName, horigin] at h
  cases h
  exact ⟨rfl, rfl, rfl, hlocal⟩

/-- **The text of a type gives its name back** exactly if the name is unqualified. -/
theorem typeName_eq_iff (h : HasLocalType c s name type) :
    typeName type = name ↔ IsUnqualified name := by
  have htext : type.name.toList =
      (Text.namespaceName s.name).toList ++ ("::".toList ++ name.toList) := by
    rw [h.text]
    simp
  rw [typeName, htext, ← String.toList_inj, String.toList_ofList,
    Text.afterLast_append_iff (by decide)]
  exact Iff.rfl

theorem isPerformanceVariables_iff (h : HasLocalType c s name type) :
    isPerformanceVariables c type = true ↔
      s.name ≠ "" ∧ ∃ object, c.object? (typeName type) = some object ∧ object.IsVariables := by
  unfold isPerformanceVariables typeName
  rw [h.kind, h.origin]
  generalize c.object? (String.ofList (Text.afterLast "::".toList type.name.toList)) = found
  cases found <;> simp [SchemaObject.IsVariables]

/-- In a schema that uses no name twice a local name finds its object. -/
theorem exists_object?_iff_of_isLocal {loader : Loader} {strict : Bool}
    (hc : (Catalog.build loader strict s).result = .ok c)
    (hnames : (s.objects.map (·.name)).Nodup) (hlocal : c.isLocal name = true)
    {P : SchemaObject → Prop} :
    (∃ object, c.object? name = some object ∧ P object) ↔
      ∃ g ∈ s.objects, g.name = name ∧ P g := by
  simp only [Catalog.object?_of_isLocal hc hlocal, Text.find?_key_eq_some_iff hnames, and_assoc]

end Types

/-- **Who is handed a performance map.** Take any schema that compiles. A statement that hands a map
on stands in the `initialize` of the class of a map, names a member of that class, reaches it from
inside, and comes behind all that the body reads. Let no two objects share a name, and take a member
of a map whose type is a local name. The map is handed to it once or never: once exactly if the
object of the name behind the last `::` of its type is grid or lookup variables and the schema has a
name. The class of the local name declares the function that takes the map exactly if the object of
that name is grid or lookup variables and is not the root group. So for a name without colons the
map is handed on exactly where the function is declared, and to the root group. -/
theorem delegations_iff {loader : Loader} {strict : Bool} {c : Catalog} {s : Schema}
    {o : DeclOptions} {d : Declarations} {i : Definitions}
    (hc : (Catalog.build loader strict s).result = .ok c)
    (hd : (buildDeclarations c s o).result = .ok d)
    (hi : (buildDefinitions c s.name (d.container.map Prod.fst) d.scope).result = .ok i)
    (hnames : (s.objects.map (·.name)).Nodup) :
    (∀ b ∈ bodies i.tree, ∀ (k : Nat) member access,
      b.statements[k]? = some (Defn.populate member access) →
      (∃ t ∈ d.scope.children, roleOf t = .performanceMap ∧
        isBodyOf t (·.isInitialize) b = true ∧ member ∈ (numberedMembers t).map (·.1)) ∧
      access = .inside ∧
      ∀ (j : Nat) statement, b.statements[j]? = some statement →
        statement.reads?.isSome = true → j < k) ∧
    ∀ t ∈ d.scope.children, roleOf t = .performanceMap → ∀ m ∈ numberedMembers t, ∀ name,
      HasLocalType c s name m.2.type →
      (delegationsTo i m.1 = [.populate m.1 .inside] ∨ delegationsTo i m.1 = []) ∧
      (delegationsTo i m.1 = [.populate m.1 .inside] ↔ s.name ≠ "" ∧
        ∃ object, c.object? (typeName m.2.type) = some object ∧ object.IsVariables) ∧
      (DeclaresPopulate d name ↔
        name ≠ s.rootGroup ∧ ∃ g ∈ s.objects, g.name = name ∧ g.IsVariables) ∧
      (typeName m.2.type = name ↔ IsUnqualified name) ∧
      (s.name ≠ "" → IsUnqualified name →
        (delegationsTo i m.1 = [.populate m.1 .inside] ↔ DeclaresPopulate d name ∨
          name = s.rootGroup ∧ ∃ g ∈ s.objects, g.name = name ∧ g.IsVariables)) := by
  refine ⟨fun b hb k member access hk => ?_, fun t ht hrole m hm name hlocal => ?_⟩
  · obtain ⟨t, ht, hrole, hbody, hstatements⟩ :=
      exists_of_populates hd hi hb (List.mem_of_getElem? hk)
    rw [hstatements] at hk ⊢
    obtain ⟨-, haccess, hbehind, m, hm, rfl, -⟩ := getElem?_readStatements_populate hk
    refine ⟨⟨t, ht, hrole, hbody, List.mem_map_of_mem hm⟩, haccess, fun j statement hj hreads => ?_⟩
    obtain ⟨member, hread⟩ := Option.isSome_iff_exists.mp hreads
    obtain ⟨m', hm', -⟩ := getElem?_readStatements hj hread
    exact (List.getElem?_eq_some_iff.mp hm').1.trans_le hbehind
  · have hdelegations := delegationsTo_eq hd hi ht hrole hm
    have honce : delegationsTo i m.1 = [.populate m.1 .inside] ↔
        isPerformanceVariables c m.2.type = true := by
      rw [hdelegations]
      cases isPerformanceVariables c m.2.type <;> simp
    have hdeclares : DeclaresPopulate d name ↔
        name ≠ s.rootGroup ∧ ∃ g ∈ s.objects, g.name = name ∧ g.IsVariables :=
      declaresPopulate_iff hd
    have hname := typeName_eq_iff hlocal
    have hvariables := isPerformanceVariables_iff hlocal
    refine ⟨?_, honce.trans hvariables, hdeclares, hname, fun hschema hplain => ?_⟩
    · rw [hdelegations]
      cases isPerformanceVariables c m.2.type <;> simp
    · rw [honce, hvariables, hname.mpr hplain,
        exists_object?_iff_of_isLocal hc hnames hlocal.isLocal, hdeclares]
      by_cases hroot : name = s.rootGroup <;> simp [hroot, hschema]

/-! ## A map and its grid -/

/-- A performance map with one member, which is of the grid variables `name`. -/
def gridUserSchema (rootGroup name : String) : Schema where
  name := "S"
  objects :=
    [{ name := "Schema", type := .metadata, metadata := { rootDataGroup := rootGroup } },
      { name, type := .gridVariables },
      { name := "M", type := .performanceMap,
        elements := [{ name := "grid", dataType := "\x7b" ++ name ++ "\x7d" }] }]

/-- Whether the schema compiles to a map whose member has the local type `name`. -/
def usesGrid (rootGroup name : String) : Option Bool :=
  (translation? (gridUserSchema rootGroup name)).map fun r =>
    r.2.1.scope.children.any fun t => roleOf t = .performanceMap &&
      (numberedMembers t).any fun m => m.2.type.kind = .simple &&
        m.2.type.name = Text.namespaceName "S" ++ "::" ++ name && m.2.type.origin = "S" &&
        r.1.isLocal name

theorem exists_of_usesGrid {rootGroup name : String} (h : usesGrid rootGroup name = some true) :
    ∃ c d i t m, translation? (gridUserSchema rootGroup name) = some (c, d, i) ∧
      t ∈ d.scope.children ∧ roleOf t = .performanceMap ∧ m ∈ numberedMembers t ∧
      HasLocalType c (gridUserSchema rootGroup name) name m.2.type := by
  obtain ⟨⟨c, d, i⟩, htranslation, h⟩ := Option.map_eq_some_iff.mp h
  obtain ⟨t, ht, h⟩ := List.any_eq_true.mp h
  obtain ⟨hrole, h⟩ := Bool.and_eq_true_iff.mp h
  obtain ⟨m, hm, h⟩ := List.any_eq_true.mp h
  simp only [Bool.and_eq_true, decide_eq_true_eq] at hrole h
  obtain ⟨⟨⟨hkind, htext⟩, horigin⟩, hlocal⟩ := h
  exact ⟨c, d, i, t, m, htranslation, ht, hrole, hm, hkind, htext, horigin, hlocal⟩

/-- Where the grid is not the root group, the map is handed to it and it has the function. -/
theorem delegations_iff_grid :
    ∃ c d i t m, translation? (gridUserSchema "" "G") = some (c, d, i) ∧ t ∈ d.scope.children ∧
      roleOf t = .performanceMap ∧ m ∈ numberedMembers t ∧
      HasLocalType c (gridUserSchema "" "G") "G" m.2.type ∧
      delegationsTo i m.1 = [.populate m.1 .inside] ∧ DeclaresPopulate d "G" := by
  obtain ⟨c, d, i, t, m, htranslation, ht, hrole, hm, hlocal⟩ :=
    exists_of_usesGrid (show usesGrid "" "G" = some true by decide +kernel)
  obtain ⟨hc, hd, hi⟩ := of_translation? htranslation
  obtain ⟨-, hmembers⟩ := delegations_iff hc hd hi (by decide)
  obtain ⟨-, -, hdeclares, -, hiff⟩ := hmembers t ht hrole m hm "G" hlocal
  have hpopulate : DeclaresPopulate d "G" := hdeclares.mpr
    ⟨by decide, { name := "G", type := .gridVariables }, by decide, rfl, .inl rfl⟩
  exact ⟨c, d, i, t, m, htranslation, ht, hrole, hm, hlocal,
    (hiff (by decide) (by decide)).mpr (.inl hpopulate), hpopulate⟩

/-- **A map may be handed to a member that has no function for it**, if that is the root group; and
it is not handed to a member that has one, if the name of its type has colons. -/
theorem root_group_not_populated :
    (∃ c d i t m, translation? (gridUserSchema "G" "G") = some (c, d, i) ∧
      ((gridUserSchema "G" "G").objects.map (·.name)).Nodup ∧
      t ∈ d.scope.children ∧ roleOf t = .performanceMap ∧ m ∈ numberedMembers t ∧
      HasLocalType c (gridUserSchema "G" "G") "G" m.2.type ∧
      delegationsTo i m.1 = [.populate m.1 .inside] ∧ ¬ DeclaresPopulate d "G") ∧
    ∃ c d i t m, translation? (gridUserSchema "" "A::G") = some (c, d, i) ∧
      ((gridUserSchema "" "A::G").objects.map (·.name)).Nodup ∧
      t ∈ d.scope.children ∧ roleOf t = .performanceMap ∧ m ∈ numberedMembers t ∧
      HasLocalType c (gridUserSchema "" "A::G") "A::G" m.2.type ∧
      delegationsTo i m.1 = [] ∧ DeclaresPopulate d "A::G" := by
  refine ⟨?_, ?_⟩
  · obtain ⟨c, d, i, t, m, htranslation, ht, hrole, hm, hlocal⟩ :=
      exists_of_usesGrid (show usesGrid "G" "G" = some true by decide +kernel)
    obtain ⟨hc, hd, hi⟩ := of_translation? htranslation
    refine ⟨c, d, i, t, m, htranslation, by decide, ht, hrole, hm, hlocal, ?_, fun hpopulate => ?_⟩
    · rw [delegationsTo_eq hd hi ht hrole hm, if_pos]
      rw [isPerformanceVariables_iff hlocal, (typeName_eq_iff hlocal).mpr (by decide),
        exists_object?_iff_of_isLocal hc (by decide) hlocal.isLocal]
      exact ⟨by decide, { name := "G", type := .gridVariables }, by decide, rfl, .inl rfl⟩
    · exact ((declaresPopulate_iff hd).mp hpopulate).1 (by decide)
  · obtain ⟨c, d, i, t, m, htranslation, ht, hrole, hm, hlocal⟩ :=
      exists_of_usesGrid (show usesGrid "" "A::G" = some true by decide +kernel)
    obtain ⟨hc, hd, hi⟩ := of_translation? htranslation
    refine ⟨c, d, i, t, m, htranslation, by decide, ht, hrole, hm, hlocal, ?_, ?_⟩
    · have hobject : (translation? (gridUserSchema "" "A::G")).map (·.1.object? "G") = some none := by
        decide +kernel
      rw [htranslation, Option.map_some, Option.some.injEq] at hobject
      have hname : typeName m.2.type = "G" := by
        rw [typeName, hlocal.text]
        decide +kernel
      rw [delegationsTo_eq hd hi ht hrole hm, if_neg]
      rw [isPerformanceVariables_iff hlocal, hname, hobject]
      simp
    · exact (declaresPopulate_iff hd).mpr
        ⟨by decide, { name := "A::G", type := .gridVariables }, by decide, rfl, .inl rfl⟩

end SchemaGen
