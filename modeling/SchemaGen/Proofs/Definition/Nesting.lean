import SchemaGen.Proofs.Declaration.Nesting
import SchemaGen.Proofs.Forest.Edits
import SchemaGen.Proofs.Forest.Planting

/-!
# Nested definitions

Definitions take nearly all their texts from declarations, so a definition is plain
(`Defn.Plain`) if the declarations that it draws on are, and the few texts of its own. Then its lines
close what they open, as those of declarations do (`Defn.openAfterLines_frame`).

In a forest in which links agree and end, what is below a node is deeper than the node, so every
line printed below it has the node's indentation and more (`Forest.Paired.exists_outline`). With
that, whatever node of the two forests is printed, the text is well nested
(`rendered_text_well_nested`). The trees built from a schema are planted in such forests
(`wellLinked_ofTrees`).
-/

set_option autoImplicit false

namespace SchemaGen

open SchemaGen.Text

/-! ## The texts of a definition -/

/-- The declarations that the text of a definition is made of: the one that it points at, its
owner, and for a performance overload the lookup variables that it returns, with their members. -/
def Defn.sources (decls : Forest Decl) : Defn → List NodeId
  | overloadBody f _ => f :: match (functionAt decls f).lookup with
    | some id => id :: decls.children id
    | none => []
  | d => d.decl?.toList ++ d.owner?.toList

/-- The texts that a definition does not take from declarations. -/
def Defn.texts : Defn → List String
  | overloadBody _ result => [result]
  | giveBack _ value => [value]
  | _ => []

/-- No brace and no line feed in a definition, nor in the declarations that it draws on. -/
structure Defn.Plain (decls : Forest Decl) (d : Defn) : Prop where
  texts : ∀ s ∈ d.texts, Text.Plain s
  sources : ∀ id ∈ d.sources decls, ∀ v, decls.value? id = some v → v.Plain

section Drawn

variable {decls : Forest Decl} {id : NodeId}

theorem Decl.plain_name {d : Decl} (h : d.Plain) : Text.Plain d.name := by
  cases d with
  | isSet element => exact (h element List.mem_cons_self).append (by decide)
  | counter enumerants => exact plain_empty
  | function f => exact h f.name (by simp [texts])
  | struct s => exact h s.name (by simp [texts])
  | member m => exact h m.name (by simp [texts])
  | scope name | typedef name _ | enumeration name _ | enumSerialization name _ | metaInfo name _
  | stored name _ => exact h name (by simp [texts])

theorem plain_declName (h : ∀ v, decls.value? id = some v → v.Plain) :
    Plain (declName decls id) := by
  unfold declName
  cases hv : decls.value? id with
  | none => exact plain_empty
  | some v => exact Decl.plain_name (h v hv)

theorem plain_memberAt (h : ∀ v, decls.value? id = some v → v.Plain) :
    (Decl.member (memberAt decls id)).Plain := by
  unfold memberAt
  cases hm : (decls.value? id).bind Decl.member? with
  | none => decide
  | some m =>
    obtain ⟨v, hv, hmember⟩ := Option.bind_eq_some_iff.mp hm
    rw [Decl.member?_eq_some] at hmember
    exact hmember ▸ h v hv

theorem plain_functionAt (h : ∀ v, decls.value? id = some v → v.Plain) :
    (Decl.function (functionAt decls id)).Plain := by
  unfold functionAt
  cases hf : (decls.value? id).bind Decl.function? with
  | none => decide
  | some f =>
    obtain ⟨v, hv, hfunction⟩ := Option.bind_eq_some_iff.mp hf
    rw [Decl.function?_eq_some] at hfunction
    exact hfunction ▸ h v hv

theorem plain_of_mem_membersOf (h : ∀ c ∈ decls.children id, ∀ v, decls.value? c = some v → v.Plain)
    {m : MemberDecl} (hm : m ∈ membersOf decls id) : (Decl.member m).Plain := by
  obtain ⟨v, hv, hmember⟩ := List.mem_filterMap.mp hm
  obtain ⟨c, hc, hcv⟩ := List.mem_filterMap.mp hv
  rw [Decl.member?_eq_some] at hmember
  exact hmember ▸ h c hc v hcv

end Drawn

/-! ## Lines of definitions -/

theorem plain_accessor (access : Access) : Plain access.accessor := by
  cases access <;> decide

theorem plain_boolText (b : Bool) : Plain (Defn.boolText b) := by
  cases b <;> decide

theorem beforeFirst_subset (p : List Char) : ∀ cs : List Char, beforeFirst p cs ⊆ cs
  | [] => List.Subset.refl []
  | c :: cs => by
    rw [beforeFirst]
    split
    · exact List.nil_subset _
    · exact List.cons_subset_cons c (beforeFirst_subset p cs)

theorem plain_plainArgument {arg : String} (h : Plain arg) : Plain (Defn.plainArgument arg) := by
  intro c hc
  rw [Defn.plainArgument, String.toList_ofList] at hc
  exact h c (beforeFirst_subset _ _ hc)

section Lines

variable {decls : Forest Decl} {m : MemberDecl} {f : FunctionDecl}

theorem openAfter_functionHead {owner : Option NodeId} (hf : (Decl.function f).Plain)
    (howner : ∀ o, owner = some o → Plain (declName decls o)) (n : Nat) :
    openAfter n (Defn.functionHead decls f owner) = some (n + 1) := by
  have hreturns : Plain f.returns := hf _ (by simp [Decl.texts])
  have hargs : Plain (", ".intercalate (f.args.map Defn.plainArgument)) := by
    refine plain_intercalate (by decide) fun s hs => ?_
    obtain ⟨arg, harg, rfl⟩ := List.mem_map.mp hs
    exact plain_plainArgument (hf arg (by simp [Decl.texts, harg]))
  have hname : Plain f.name := hf _ (by simp [Decl.texts])
  unfold Defn.functionHead
  cases owner with
  | none => simp (disch := first | assumption | decide)
  | some o =>
    have hclass := howner o rfl
    simp (disch := first | assumption | decide)

theorem balanced_fetchLine (hm : (Decl.member m).Plain) (access : Access) :
    Balanced (Defn.fetchLine m access) := by
  intro n
  obtain ⟨hname, htype⟩ := List.forall_mem_cons.mp hm
  have hliteral := hname.quoted
  have hcpp := TypeDescriptor.plain_cppType htype
  have haccess := plain_accessor access
  have hrequired := plain_boolText m.required
  unfold Defn.fetchLine
  simp (disch := first | assumption | decide)

theorem openAfterLines_branchLines (hm : (Decl.member m).Plain) (access : Access)
    {condition : String} (hcondition : Plain condition) {c : SelectorCase} (hc : c ∈ m.type.cases)
    (n : Nat) : openAfterLines n (Defn.branchLines m access condition c) = some n := by
  obtain ⟨hname, htype⟩ := List.forall_mem_cons.mp hm
  have hkey : Plain m.type.key := htype _ (TypeDescriptor.mem_texts_iff.mpr (.inr (.inl rfl)))
  have hcase {s : String} (hs : s = c.enumerator ∨ s = c.type) : Plain s :=
    htype s (TypeDescriptor.mem_texts_iff.mpr (.inr (.inr (.inl ⟨c, hc, hs⟩))))
  have henumerator := hcase (.inl rfl)
  have hclass := (hcase (.inr rfl)).quoted
  have hliteral := hname.quoted
  have haccess := plain_accessor access
  unfold Defn.branchLines
  simp (disch := first | assumption | decide)

theorem openAfterLines_ownedLines (hm : (Decl.member m).Plain) (access : Access) (n : Nat) :
    openAfterLines n (Defn.ownedLines m access) = some n := by
  unfold Defn.ownedLines
  split
  next => rfl
  next c cs hcases =>
    have hfirst : c ∈ m.type.cases := hcases ▸ List.mem_cons_self
    have hrest := openAfterLines_flatMap fun c' (hc' : c' ∈ cs) =>
      openAfterLines_branchLines hm access (show Plain "else if" by decide)
        (hcases ▸ List.mem_cons_of_mem c hc')
    rw [openAfterLines_append, openAfterLines_branchLines hm access (by decide) hfirst]
    exact hrest n

theorem balanced_populateLine (hm : (Decl.member m).Plain) (access : Access) :
    Balanced (Defn.populateLine m access) := by
  intro n
  have hname : Plain m.name := hm _ List.mem_cons_self
  have haccess := plain_accessor .outside
  cases access <;> unfold Defn.populateLine <;> simp (disch := first | assumption | decide)

theorem plain_of_mem_slots {members : List MemberDecl}
    (h : ∀ m ∈ members, (Decl.member m).Plain) {slot : String} (hslot : slot ∈ Defn.slots members) :
    Plain slot := by
  obtain ⟨⟨m, i⟩, hm, rfl⟩ := List.mem_map.mp hslot
  have hplace : Plain ("v[" ++ i.repr ++ "]") :=
    ((show Plain "v[" by decide).append (plain_repr i)).append (by decide)
  have hmember := h m (List.fst_mem_of_mem_zipIdx hm)
  have htype := TypeDescriptor.plain_innerType (List.forall_mem_cons.mp hmember).2
  dsimp only
  split
  · exact hplace
  · exact ((((show Plain "static_cast<" by decide).append htype).append (by decide)).append
      hplace).append (by decide)

theorem openAfterLines_overloadLines (hf : (Decl.function f).Plain) {result : String}
    (hresult : Plain result)
    (hlookup : ∀ id, f.lookup = some id → Plain (declName decls id) ∧
      ∀ m ∈ membersOf decls id, (Decl.member m).Plain) (n : Nat) :
    openAfterLines n (Defn.overloadLines decls f result) = some n := by
  have hbase : Plain f.usingBase := hf _ (by simp [Decl.texts])
  have hargs : Plain (", ".intercalate f.argNames) :=
    plain_intercalate (by decide) fun s hs => hf s (by simp [Decl.texts, hs])
  have hslots : Plain (", ".intercalate (Defn.overloadSlots decls f)) := by
    refine plain_intercalate (by decide) fun s hs => ?_
    unfold Defn.overloadSlots at hs
    split at hs
    next id hid => exact plain_of_mem_slots (hlookup id hid).2 hs
    next => cases hs
  have hcall : Plain "::calculate_performance(target, performance_interpolation_method);" := by
    decide +kernel
  unfold Defn.overloadLines
  cases hid : f.lookup with
  | none => simp (disch := first | assumption | decide)
  | some id =>
    have hprojection := (hlookup id hid).1
    simp (disch := first | assumption | decide)

theorem balanced_staticLine {decl owner : NodeId}
    (hdecl : ∀ v, decls.value? decl = some v → v.Plain) (howner : Plain (declName decls owner)) :
    Balanced (Defn.staticLine decls decl owner) := by
  intro n
  have hname := plain_declName hdecl
  have htype : Plain Decl.metaInfoType := by decide
  unfold Defn.staticLine
  split
  next name value hv =>
    have hvalue := (hdecl _ hv value (by simp [Decl.texts])).quoted
    simp (disch := first | assumption | decide)
  next name type hv =>
    have hstored := hdecl _ hv type (by simp [Decl.texts])
    simp (disch := first | assumption | decide)
  next => simp (disch := first | assumption | decide)

/-- **What a definition opens before the nested ones, it closes after them.** -/
theorem Defn.openAfterLines_frame {d : Defn} (h : d.Plain decls) (n : Nat) :
    ∃ k, openAfterLines n (d.frame decls).1 = some k ∧
      openAfterLines k (d.frame decls).2 = some n := by
  have hpoint {id : NodeId} (hid : id ∈ d.sources decls) : ∀ v, decls.value? id = some v → v.Plain :=
    h.sources id hid
  cases d with
  | scope decl =>
    have hname := plain_declName (hpoint List.mem_cons_self)
    refine ⟨n + 1, ?_, ?_⟩ <;> simp (disch := first | assumption | decide) [frame]
  | function decl owner =>
    refine ⟨n + 1, ?_, ?_⟩
    · have howner : ∀ o, owner = some o → Text.Plain (declName decls o) := by
        rintro o rfl
        exact plain_declName (hpoint (by simp [sources, decl?, owner?]))
      simp [frame, openAfter_functionHead (plain_functionAt (hpoint List.mem_cons_self)) howner]
    · simp [frame]
  | fetch member access =>
    exact ⟨n, by simp [frame, balanced_fetchLine (plain_memberAt (hpoint List.mem_cons_self)) access n],
      rfl⟩
  | owned member access =>
    exact ⟨n, openAfterLines_ownedLines (plain_memberAt (hpoint List.mem_cons_self)) access n, rfl⟩
  | populate member access =>
    exact ⟨n, by
      simp [frame, balanced_populateLine (plain_memberAt (hpoint List.mem_cons_self)) access n], rfl⟩
  | axis member | table member =>
    have hname := plain_declName (hpoint List.mem_cons_self)
    exact ⟨n, by simp (disch := first | assumption | decide) [frame], rfl⟩
  | finalize decl | initDelegation decl =>
    exact ⟨n, by simp (disch := decide) [frame], rfl⟩
  | overloadBody decl result =>
    refine ⟨n, openAfterLines_overloadLines (plain_functionAt (hpoint List.mem_cons_self))
      (h.texts result List.mem_cons_self) (fun id hid => ?_) n, rfl⟩
    have hsource {c : NodeId} (hc : c ∈ id :: decls.children id) :
        c ∈ (overloadBody decl result).sources decls := by
      rw [sources, hid]
      exact List.mem_cons_of_mem decl hc
    exact ⟨plain_declName (hpoint (hsource List.mem_cons_self)), fun m hm =>
      plain_of_mem_membersOf (fun c hc => hpoint (hsource (List.mem_cons_of_mem id hc))) hm⟩
  | giveBack decl value =>
    have hvalue := h.texts value List.mem_cons_self
    exact ⟨n, by simp (disch := first | assumption | decide) [frame], rfl⟩
  | staticMember decl owner =>
    have howner : Text.Plain (declName decls owner) :=
      plain_declName (hpoint (by simp [sources, decl?, owner?]))
    exact ⟨n, by simp [frame, balanced_staticLine (hpoint List.mem_cons_self) howner n], rfl⟩

/-! ## Whole definitions -/

@[simp] theorem openAfterLines_orEmptyLine (n : Nat) (ls : List String) :
    openAfterLines n (orEmptyLine ls) = openAfterLines n ls := by
  cases ls <;> rfl

mutual

/-- **The lines of a definition close what they open.** -/
theorem openAfterLines_defnLines : ∀ {t : Tree (Placed Defn)},
    (∀ p ∈ t.labels, p.value.Plain decls) → ∀ n, openAfterLines n (defnLines decls t) = some n
  | .node p children, h, n => by
    rw [Tree.labels] at h
    obtain ⟨hp, hchildren⟩ := List.forall_mem_cons.mp h
    obtain ⟨k, hopening, hclosing⟩ := Defn.openAfterLines_frame hp n
    have hnested : openAfterLines k
        (if p.value.showsNested then defnLinesOf decls children else []) = some k := by
      split
      · exact openAfterLines_defnLinesOf hchildren k
      · rfl
    simp [defnLines, hopening, hnested, hclosing]

theorem openAfterLines_defnLinesOf : ∀ {ts : List (Tree (Placed Defn))},
    (∀ p ∈ Tree.labelsOf ts, p.value.Plain decls) →
      ∀ n, openAfterLines n (defnLinesOf decls ts) = some n
  | [], _, _ => rfl
  | t :: ts, h, n => by
    rw [Tree.labelsOf] at h
    obtain ⟨ht, hts⟩ := List.forall_mem_append.mp h
    simp [defnLinesOf, openAfterLines_defnLines ht n, openAfterLines_defnLinesOf hts n]

end

mutual

/-- The lines of a definition are indented as deep as the nodes that they come from; a selected
member without cases has an empty line. -/
theorem startsIndented_of_mem_defnLines {depth : Nat} {line : String} (hne : line ≠ "") :
    ∀ {t : Tree (Placed Defn)}, (∀ p ∈ t.labels, depth ≤ p.depth) → line ∈ defnLines decls t →
      StartsIndented depth line
  | .node p children, hdepth, hline => by
    rw [Tree.labels] at hdepth
    obtain ⟨hp, hchildren⟩ := List.forall_mem_cons.mp hdepth
    rw [defnLines] at hline
    rcases List.mem_append.mp hline with hline | hline
    · rcases List.mem_append.mp hline with hline | hline
      · unfold orEmptyLine at hline
        split at hline
        next => exact absurd (List.mem_singleton.mp hline) hne
        next => exact startsIndented_of_mem_indented hp hline
      · split at hline
        · exact startsIndented_of_mem_defnLinesOf hne hchildren hline
        · cases hline
    · exact startsIndented_of_mem_indented hp hline

theorem startsIndented_of_mem_defnLinesOf {depth : Nat} {line : String} (hne : line ≠ "") :
    ∀ {ts : List (Tree (Placed Defn))}, (∀ p ∈ Tree.labelsOf ts, depth ≤ p.depth) →
      line ∈ defnLinesOf decls ts → StartsIndented depth line
  | [], _, hline => by cases hline
  | t :: ts, hdepth, hline => by
    rw [Tree.labelsOf] at hdepth
    obtain ⟨ht, hts⟩ := List.forall_mem_append.mp hdepth
    rw [defnLinesOf] at hline
    rcases List.mem_append.mp hline with hline | hline
    · exact startsIndented_of_mem_defnLines hne ht hline
    · exact startsIndented_of_mem_defnLinesOf hne hts hline

end

/-- **A definition is printed well nested** at any depth that none of its nodes is above. -/
theorem wellNested_renderDefn {t : Tree (Placed Defn)} {depth : Nat}
    (hplain : ∀ p ∈ t.labels, p.value.Plain decls) (hdepth : ∀ p ∈ t.labels, depth ≤ p.depth) :
    WellNested depth (renderDefn decls t) :=
  wellNested_intercalate (fun _ hline hne => startsIndented_of_mem_defnLines hne hdepth hline)
    (openAfterLines_defnLines hplain 0)

end Lines

/-! ## Nodes of a forest -/

namespace Forest

open Relation

variable {α : Type} {f : Forest α}

theorem depth_of_mem_outlineWithin : ∀ {fuel : Nat} {id : NodeId} {t : Tree (Placed α)},
    f.outlineWithin fuel id = some t → ∀ p ∈ t.labels, p.depth = f.depth p.id
  | fuel + 1, id, t, h, p, hp => by
    obtain ⟨e, -, rfl⟩ := Option.map_eq_some_iff.mp h
    rw [Tree.labels_node] at hp
    rcases List.mem_cons.mp hp with rfl | hp
    · rfl
    · obtain ⟨u, hu, hpu⟩ := List.mem_flatMap.mp hp
      obtain ⟨c, -, hcu⟩ := List.mem_filterMap.mp hu
      exact depth_of_mem_outlineWithin hcu p hpu

/-- Below a node are nodes with at least as many ancestors. -/
theorem Paired.climbs_of_below (h : f.Paired) {n : Nat} {a b : NodeId} (ha : f.Climbs n a)
    (hab : f.Below a b) : ∃ m, n ≤ m ∧ f.Climbs m b := by
  induction hab with
  | refl => exact ⟨n, Nat.le_refl n, ha⟩
  | @tail b c _ hlink ih =>
    obtain ⟨m, hle, hm⟩ := ih
    exact ⟨m + 1, Nat.le_succ_of_le hle, b, (h.agree b c).mpr hlink, hm⟩

/-- The outline of a node shows what is below the node, and nothing in it is less deep. -/
theorem Paired.exists_outline (h : f.Paired) (hends : f.Ends) {id : NodeId} {v : α}
    (hv : f.value? id = some v) : ∃ t, f.outline? id = some t ∧
      ∀ p ∈ t.labels, f.Below id p.id ∧ f.value? p.id = some p.value ∧ f.depth id ≤ p.depth := by
  obtain ⟨e, he, -⟩ := exists_find?_of_value? hv
  obtain ⟨t, houtline⟩ : ∃ t, f.outline? id = some t := by
    rw [h.outline?_eq hends id, he]
    exact ⟨_, rfl⟩
  refine ⟨t, houtline, fun p hp => ?_⟩
  obtain ⟨hbelow, hvalue⟩ := below_of_mem_outlineWithin houtline p hp
  obtain ⟨m, hle, hm⟩ := h.climbs_of_below (h.climbs_depth hends id) hbelow
  rw [depth_of_mem_outlineWithin houtline p hp, (h.climbs_depth hends p.id).unique hm]
  exact ⟨hbelow, hvalue, hle⟩

end Forest

/-- The trees built from a schema are planted with links that agree and end. -/
theorem wellLinked_ofTrees {c : Catalog} {s : Schema} {o : DeclOptions} {d : Declarations}
    (hd : (buildDeclarations c s o).result = .ok d) (i : Definitions) :
    (CodeUnit.ofTrees s d i).world.Paired ∧ (CodeUnit.ofTrees s d i).world.Ends := by
  have hdecls := nodup_ids_tree hd
  have hdefns : ((i.tree.number 0).1.labels.map (·.id)).Nodup := by
    rw [(Tree.ids_number i.tree 0).1]
    exact List.nodup_range'
  exact ⟨⟨Forest.paired_plant hdecls, Forest.paired_plant hdefns⟩,
    Forest.ends_plant hdecls, Forest.ends_plant hdefns⟩

/-- **Printed text is well nested.** In forests in which links agree and end, let the declarations
at and below one root and the definitions at and below another be plain. Then each of them is
printed, and what is printed is well nested at the depth of the node, which is the number of its
ancestors: every line that is not empty starts with that many tabs or more, as many braces are
closed as are opened, and none too early. -/
theorem rendered_text_well_nested (w : World) (hpaired : w.Paired) (hends : w.Ends)
    (declRoot defnRoot : NodeId)
    (hdecls : ∀ id d, w.decls.Below declRoot id → w.decls.value? id = some d → d.Plain)
    (hdefns : ∀ id d, w.defns.Below defnRoot id → w.defns.value? id = some d → d.Plain w.decls) :
    (∀ id d, w.decls.Below declRoot id → w.decls.value? id = some d →
      ∃ t depth, w.decls.outline? id = some t ∧ w.decls.Climbs depth id ∧
        WellNested depth (renderDecl t)) ∧
    (∀ id d, w.defns.Below defnRoot id → w.defns.value? id = some d →
      ∃ t depth, w.defns.outline? id = some t ∧ w.defns.Climbs depth id ∧
        WellNested depth (renderDefn w.decls t)) := by
  constructor
  · intro id d hid hd
    obtain ⟨t, ht, hlabels⟩ := hpaired.1.exists_outline hends.1 hd
    refine ⟨t, w.decls.depth id, ht, hpaired.1.climbs_depth hends.1 id, ?_⟩
    refine wellNested_renderDecl (fun p hp => ?_) fun p hp => (hlabels p hp).2.2
    obtain ⟨hbelow, hvalue, -⟩ := hlabels p hp
    exact hdecls p.id p.value (hid.trans hbelow) hvalue
  · intro id d hid hd
    obtain ⟨t, ht, hlabels⟩ := hpaired.2.exists_outline hends.2 hd
    refine ⟨t, w.defns.depth id, ht, hpaired.2.climbs_depth hends.2 id, ?_⟩
    refine wellNested_renderDefn (fun p hp => ?_) fun p hp => (hlabels p hp).2.2
    obtain ⟨hbelow, hvalue, -⟩ := hlabels p hp
    exact hdefns p.id p.value (hid.trans hbelow) hvalue

/-- A lookup struct, and a class with an overload that returns its projection. -/
def overloadDecls : Tree Decl :=
  .node (.scope "n")
    [.leaf (.ofEnumerators "E" [{ value := "A", displayText := "first" }]),
      .node (.struct { name := "L", isLookup := true })
        [.leaf (.member { name := "x", type := { kind := .array, elem := some { name := "int" } } })],
      .node (.struct { name := "G", superclass := "Base" })
        [.leaf (.function { kind := .performanceOverload, name := "get", returns := "LStruct"
                            args := ["double a", "Method m = Method::linear"], usingBase := "Base"
                            argNames := ["a"], lookup := some 2 }),
          .leaf (.metaInfo "title" "lookup")]]

/-- The definitions of the overload and of the static text of that class. -/
def overloadDefns : Tree Defn :=
  .node (.scope 0)
    [.node (.function 5 (some 4)) [.leaf (.overloadBody 5 "s"), .leaf (.giveBack (some 5) "s")],
      .leaf (.staticMember 6 4)]

/-- The two, planted. -/
def overloadWorld : World where
  decls := ({} : Forest Decl).plant (overloadDecls.number 0).1
  defns := ({} : Forest Defn).plant (overloadDefns.number 0).1

/-- The lookup struct with its projection, and the body that fills the projection, are both printed
well nested below their namespaces. -/
theorem rendered_text_well_nested_overload :
    (∃ t, overloadWorld.decls.outline? 2 = some t ∧ WellNested 1 (renderDecl t)) ∧
    (∃ t, overloadWorld.defns.outline? 1 = some t ∧
      WellNested 1 (renderDefn overloadWorld.decls t)) := by
  have hpaired : overloadWorld.Paired :=
    ⟨Forest.paired_plant (by decide +kernel), Forest.paired_plant (by decide +kernel)⟩
  have hends : overloadWorld.Ends :=
    ⟨Forest.ends_plant (by decide +kernel), Forest.ends_plant (by decide +kernel)⟩
  have hdecls : ∀ id d, overloadWorld.decls.value? id = some d → d.Plain := by
    intro id d hd
    have hall : ∀ e ∈ overloadWorld.decls.entries, e.value.Plain := by decide +kernel
    obtain ⟨e, he, rfl⟩ := Forest.exists_find?_of_value? hd
    exact hall e (List.mem_of_find?_eq_some he)
  have hdefns : ∀ id d, overloadWorld.defns.value? id = some d → d.Plain overloadWorld.decls := by
    intro id d hd
    have hall : ∀ e ∈ overloadWorld.defns.entries, ∀ s ∈ e.value.texts, Plain s := by
      decide +kernel
    obtain ⟨e, he, rfl⟩ := Forest.exists_find?_of_value? hd
    exact ⟨hall e (List.mem_of_find?_eq_some he), fun id _ v hv => hdecls id v hv⟩
  obtain ⟨hdecl, hdefn⟩ := rendered_text_well_nested overloadWorld hpaired hends 0 0
    (fun id d _ => hdecls id d) (fun id d _ => hdefns id d)
  constructor
  · obtain ⟨t, depth, ht, hdepth, hnested⟩ := hdecl 2 _ (.single (by decide +kernel)) rfl
    have hroot : overloadWorld.decls.parent? 0 = none := by decide +kernel
    have hone : overloadWorld.decls.Climbs 1 2 := ⟨0, by decide +kernel, hroot⟩
    exact ⟨t, ht, hdepth.unique hone ▸ hnested⟩
  · obtain ⟨t, depth, ht, hdepth, hnested⟩ := hdefn 1 _ (.single (by decide +kernel)) rfl
    have hroot : overloadWorld.defns.parent? 0 = none := by decide +kernel
    have hone : overloadWorld.defns.Climbs 1 1 := ⟨0, by decide +kernel, hroot⟩
    exact ⟨t, ht, hdepth.unique hone ▸ hnested⟩

end SchemaGen
