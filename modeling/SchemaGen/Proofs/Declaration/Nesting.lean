import SchemaGen.Proofs.CodeUnit
import SchemaGen.Proofs.Text.Nesting

/-!
# Nested declarations

The lines of a declaration open and close the same braces, as long as its names, types and values
are plain (`Decl.Plain`): what the lines before the nested declarations leave open, the lines after
them close (`Decl.openAfterLines_frame`). By induction over the tree that is so of the lines of the
whole declaration (`openAfterLines_declLines`). Each line carries the tabs of the node that it comes
from (`startsIndented_of_mem_declLines`).
-/

set_option autoImplicit false

namespace SchemaGen

open SchemaGen.Text

/-! ## The texts of a declaration -/

/-- The texts that a type is printed by. The expression that the schema writes is not among them. -/
def TypeDescriptor.texts : TypeDescriptor → List String
  | ⟨_, _, name, _, none, key, cases, _, _⟩ =>
    name :: key :: cases.flatMap fun c => [c.enumerator, c.type]
  | ⟨_, _, name, _, some elem, key, cases, _, _⟩ =>
    name :: key :: cases.flatMap (fun c => [c.enumerator, c.type]) ++ elem.texts

/-- The names, types and values in a declaration. -/
def Decl.texts : Decl → List String
  | scope name => [name]
  | typedef name target => [name, target]
  | enumeration name enumerators =>
    name :: enumerators.flatMap fun e => [e.value, e.displayText, e.description]
  | enumSerialization name values => name :: values
  | struct s => [s.name, s.superclass]
  | member m => m.name :: m.type.texts
  | isSet element => [element]
  | metaInfo name value => [name, value]
  | stored name type => [name, type]
  | function f => f.name :: f.returns :: f.usingBase :: f.target :: (f.args ++ f.argNames)
  | counter enumerants => enumerants

/-- No brace and no line feed in a declaration. -/
def Decl.Plain (d : Decl) : Prop :=
  ∀ s ∈ d.texts, Text.Plain s

instance (d : Decl) : Decidable d.Plain :=
  inferInstanceAs (Decidable (∀ s ∈ d.texts, Text.Plain s))

theorem TypeDescriptor.mem_texts_iff {d : TypeDescriptor} {s : String} :
    s ∈ d.texts ↔ s = d.name ∨ s = d.key ∨ (∃ c ∈ d.cases, s = c.enumerator ∨ s = c.type) ∨
      ∃ elem, d.elem = some elem ∧ s ∈ elem.texts := by
  obtain ⟨kind, raw, name, origin, elem, key, cases, subKey, subValue⟩ := d
  cases elem <;> simp [texts]

theorem TypeDescriptor.plain_cppType : ∀ {d : TypeDescriptor}, (∀ s ∈ d.texts, Plain s) →
    Plain d.cppType
  | ⟨kind, raw, name, origin, elem, key, cases, subKey, subValue⟩, h => by
    have hname : Plain name := h name (mem_texts_iff.mpr (.inl rfl))
    unfold cppType
    split
    next helem =>
      cases helem
      have helem' := plain_cppType fun s hs =>
        h s (mem_texts_iff.mpr (.inr (.inr (.inr ⟨_, rfl, hs⟩))))
      exact ((show Plain "std::vector<" by decide).append helem').append (by decide)
    next => exact hname

theorem TypeDescriptor.plain_innerType {d : TypeDescriptor} (h : ∀ s ∈ d.texts, Plain s) :
    Plain d.innerType := by
  unfold innerType
  split
  next elem hkind helem =>
    exact plain_cppType fun s hs => h s (mem_texts_iff.mpr (.inr (.inr (.inr ⟨elem, helem, hs⟩))))
  next => exact plain_cppType h

/-! ## Lines of declarations -/

theorem balanced_of_mem_commaLines : ∀ {ls : List String}, (∀ line ∈ ls, Balanced line) →
    ∀ line ∈ commaLines ls, Balanced line
  | [], _, _, h => by cases h
  | [_], hls, line, h => hls line h
  | first :: second :: rest, hls, line, h => by
    rcases List.mem_cons.mp h with rfl | h
    · intro n
      rw [openAfter_append, hls first List.mem_cons_self n]
      rfl
    · exact balanced_of_mem_commaLines (fun line' h' => hls line' (List.mem_cons_of_mem _ h')) line h

theorem openAfterLines_commaLines {α : Type} {line : α → String} {xs : List α}
    (h : ∀ x ∈ xs, Balanced (line x)) (n : Nat) :
    openAfterLines n (commaLines (xs.map line)) = some n :=
  openAfterLines_of_balanced (balanced_of_mem_commaLines (List.forall_mem_map.mpr h)) n

variable {name : String}

theorem balanced_infoLine (hname : Plain name) {e : Enumerator} (hvalue : Plain e.value)
    (hdisplay : Plain e.displayText) (hdescription : Plain e.description) :
    Balanced (Decl.infoLine name e) := by
  intro n
  have hshown : Plain (quoted (if e.displayText = "" then e.value else e.displayText)) := by
    split
    · exact hvalue.quoted
    · exact hdisplay.quoted
  have hvalue' := hvalue.quoted
  have hdescription' := hdescription.quoted
  unfold Decl.infoLine
  simp (disch := first | assumption | decide)

theorem openAfterLines_enumerationLines {enumerators : List Enumerator}
    (h : (Decl.enumeration name enumerators).Plain) (n : Nat) :
    openAfterLines n (Decl.enumerationLines name enumerators) = some n := by
  obtain ⟨hname, htexts⟩ := List.forall_mem_cons.mp h
  have htext {e : Enumerator} (he : e ∈ enumerators) {s : String}
      (hs : s ∈ [e.value, e.displayText, e.description]) : Plain s :=
    htexts s (List.mem_flatMap.mpr ⟨e, he, hs⟩)
  have hvalues : ∀ n, openAfterLines n (commaLines (enumerators.map fun e => "\t" ++ e.value)) =
      some n :=
    openAfterLines_commaLines fun e he =>
      ((show Plain "\t" by decide).append (htext he (by simp))).balanced
  have hinfo : ∀ n, openAfterLines n (commaLines (enumerators.map (Decl.infoLine name))) = some n :=
    openAfterLines_commaLines fun e he =>
      balanced_infoLine hname (htext he (by simp)) (htext he (by simp)) (htext he (by simp))
  unfold Decl.enumerationLines
  simp (disch := first | assumption | decide) [hvalues, hinfo]

theorem openAfterLines_enumSerializationLines {values : List String}
    (h : (Decl.enumSerialization name values).Plain) (n : Nat) :
    openAfterLines n (Decl.enumSerializationLines name values) = some n := by
  obtain ⟨hname, hvalues⟩ := List.forall_mem_cons.mp h
  have hlines : ∀ n, openAfterLines n (values.map fun v =>
      "\t\x7b" ++ name ++ "::" ++ v ++ ", " ++ quoted v ++ "\x7d,") = some n :=
    openAfterLines_map fun v hv n => by
      have hvalue := hvalues v hv
      have hvalue' := hvalue.quoted
      simp (disch := first | assumption | decide)
  unfold Decl.enumSerializationLines
  simp (disch := first | assumption | decide) [hlines]

theorem openAfterLines_structOpening {s : StructDecl} (h : (Decl.struct s).Plain) (n : Nat) :
    openAfterLines n (Decl.structOpening s) = some (n + 1) := by
  have hname : Plain s.name := h _ (by simp [Decl.texts])
  have hsuper : Plain s.superclass := h _ (by simp [Decl.texts])
  have hkeyword : Plain s.keyword := by
    unfold StructDecl.keyword
    split <;> decide
  have hbase : Plain (if s.superclass = "" then "" else " : public " ++ s.superclass) := by
    split
    · exact plain_empty
    · exact (show Plain " : public " by decide).append hsuper
  have hlabel (k : Nat) :
      openAfterLines k (if s.isLookup then [] else ["public:"]) = some k := by
    split <;> rfl
  unfold Decl.structOpening
  simp (disch := first | assumption | decide) [hlabel]

theorem openAfterLines_projectionLines {s : StructDecl} (h : (Decl.struct s).Plain)
    {members : List MemberDecl} (hmembers : ∀ m ∈ members, (Decl.member m).Plain) (n : Nat) :
    openAfterLines n (Decl.projectionLines s members) = some n := by
  have hname : Plain s.projectionName :=
    (h s.name List.mem_cons_self).append (show Plain "Struct" by decide)
  have hlines : ∀ n, openAfterLines n (members.map fun m =>
      "\t" ++ m.type.innerType ++ " " ++ m.name ++ ";") = some n :=
    openAfterLines_map fun m hm n => by
      obtain ⟨hmember, htype⟩ := List.forall_mem_cons.mp (hmembers m hm)
      have htype' := TypeDescriptor.plain_innerType htype
      simp (disch := first | assumption | decide)
  unfold Decl.projectionLines
  split
  · simp (disch := first | assumption | decide) [hlines]
  · rfl

theorem openAfterLines_functionLines {f : FunctionDecl} (h : (Decl.function f).Plain) (n : Nat) :
    openAfterLines n (Decl.functionLines f) = some n := by
  have hname : Plain f.name := h _ (by simp [Decl.texts])
  have hreturns : Plain f.returns := h _ (by simp [Decl.texts])
  have hbase : Plain f.usingBase := h _ (by simp [Decl.texts])
  have hargs : Plain (", ".intercalate f.args) :=
    plain_intercalate (by decide) fun s hs => h s (by simp [Decl.texts, hs])
  unfold Decl.functionLines
  cases f.kind <;> simp (disch := first | assumption | decide)

/-- **What a declaration opens before the nested ones, it closes after them.** -/
theorem Decl.openAfterLines_frame {d : Decl} (h : d.Plain) {members : List MemberDecl}
    (hmembers : ∀ m ∈ members, (Decl.member m).Plain) (n : Nat) :
    ∃ k, openAfterLines n (d.frame members).1 = some k ∧
      openAfterLines k (d.frame members).2 = some n := by
  cases d with
  | scope name =>
    have hname := h name (List.mem_singleton_self name)
    refine ⟨n + 1, ?_, ?_⟩ <;> simp (disch := first | assumption | decide) [frame]
  | typedef name target =>
    have hname := h name (by simp [texts])
    have htarget := h target (by simp [texts])
    exact ⟨n, by simp (disch := first | assumption | decide) [frame], rfl⟩
  | enumeration name enumerators =>
    exact ⟨n, openAfterLines_enumerationLines h n, rfl⟩
  | enumSerialization name values =>
    exact ⟨n, openAfterLines_enumSerializationLines h n, rfl⟩
  | struct s =>
    refine ⟨n + 1, openAfterLines_structOpening h n, ?_⟩
    simp [frame, openAfterLines_projectionLines h hmembers n]
  | member m =>
    obtain ⟨hname, htype⟩ := List.forall_mem_cons.mp h
    have htype' := TypeDescriptor.plain_cppType htype
    exact ⟨n, by simp (disch := first | assumption | decide) [frame], rfl⟩
  | isSet element =>
    have helement := h element (List.mem_singleton_self element)
    exact ⟨n, by simp (disch := first | assumption | decide) [frame], rfl⟩
  | metaInfo name value =>
    have hname := h name List.mem_cons_self
    have htype : Text.Plain metaInfoType := by decide
    exact ⟨n, by simp (disch := first | assumption | decide) [frame], rfl⟩
  | stored name type =>
    have hname := h name (by simp [texts])
    have htype := h type (by simp [texts])
    exact ⟨n, by simp (disch := first | assumption | decide) [frame], rfl⟩
  | function f => exact ⟨n, openAfterLines_functionLines h n, rfl⟩
  | counter enumerants =>
    have hlines : ∀ n, openAfterLines n (commaLines (enumerants.map ("\t" ++ ·))) = some n :=
      openAfterLines_commaLines fun e he =>
        ((show Text.Plain "\t" by decide).append (h e he)).balanced
    exact ⟨n, by simp [frame, hlines], rfl⟩

/-! ## Whole declarations -/

theorem plain_indentation (depth : Nat) : Plain (indentation depth) := by
  intro c hc
  rw [indentation, String.toList_ofList] at hc
  rw [List.eq_of_mem_replicate hc]
  decide

@[simp] theorem openAfterLines_indented (n depth : Nat) (ls : List String) :
    openAfterLines n (indented depth ls) = openAfterLines n ls := by
  induction ls generalizing n with
  | nil => rfl
  | cons line ls ih =>
    rw [indented, List.map_cons, openAfterLines_cons, openAfterLines_cons, openAfter_append,
      openAfter_of_plain (plain_indentation depth), Option.bind_some]
    exact Option.bind_congr fun k _ => ih k

theorem plain_of_mem_membersBelow {children : List (Tree (Placed Decl))} {m : MemberDecl}
    (h : ∀ p ∈ Tree.labelsOf children, p.value.Plain) (hm : m ∈ membersBelow children) :
    (Decl.member m).Plain := by
  obtain ⟨d, hd, hmember⟩ := List.mem_filterMap.mp hm
  obtain ⟨t, ht, rfl⟩ := List.mem_map.mp hd
  have hvalue : t.label.value = .member m := Decl.member?_eq_some.mp hmember
  have hlabel : t.label ∈ Tree.labelsOf children := by
    rw [Tree.labelsOf_eq_flatMap]
    exact List.mem_flatMap.mpr ⟨t, ht, Tree.mem_labels_self t⟩
  exact hvalue ▸ h t.label hlabel

mutual

/-- **The lines of a declaration close what they open.** -/
theorem openAfterLines_declLines : ∀ {t : Tree (Placed Decl)},
    (∀ p ∈ t.labels, p.value.Plain) → ∀ n, openAfterLines n (declLines t) = some n
  | .node p children, h, n => by
    rw [Tree.labels] at h
    obtain ⟨hp, hchildren⟩ := List.forall_mem_cons.mp h
    obtain ⟨k, hopening, hclosing⟩ :=
      Decl.openAfterLines_frame hp (fun m hm => plain_of_mem_membersBelow hchildren hm) n
    have hnested : openAfterLines k (if p.value.showsNested then declLinesOf children else []) =
        some k := by
      split
      · exact openAfterLines_declLinesOf hchildren k
      · rfl
    simp [declLines, hopening, hnested, hclosing]

theorem openAfterLines_declLinesOf : ∀ {ts : List (Tree (Placed Decl))},
    (∀ p ∈ Tree.labelsOf ts, p.value.Plain) → ∀ n, openAfterLines n (declLinesOf ts) = some n
  | [], _, _ => rfl
  | t :: ts, h, n => by
    rw [Tree.labelsOf] at h
    obtain ⟨ht, hts⟩ := List.forall_mem_append.mp h
    simp [declLinesOf, openAfterLines_declLines ht n, openAfterLines_declLinesOf hts n]

end

theorem startsIndented_of_mem_indented {depth d : Nat} (hle : d ≤ depth) {ls : List String}
    {line : String} (h : line ∈ indented depth ls) : StartsIndented d line := by
  obtain ⟨rest, -, rfl⟩ := List.mem_map.mp h
  refine List.IsPrefix.trans ?_ ⟨rest.toList, (String.toList_append).symm⟩
  rw [indentation, String.toList_ofList]
  exact ⟨List.replicate (depth - d) '\t', by rw [← List.replicate_add, Nat.add_sub_cancel' hle]⟩

mutual

/-- The lines of a declaration are indented as deep as the nodes that they come from. -/
theorem startsIndented_of_mem_declLines {depth : Nat} {line : String} :
    ∀ {t : Tree (Placed Decl)}, (∀ p ∈ t.labels, depth ≤ p.depth) → line ∈ declLines t →
      StartsIndented depth line
  | .node p children, hdepth, hline => by
    rw [Tree.labels] at hdepth
    obtain ⟨hp, hchildren⟩ := List.forall_mem_cons.mp hdepth
    rw [declLines] at hline
    rcases List.mem_append.mp hline with hline | hline
    · rcases List.mem_append.mp hline with hline | hline
      · exact startsIndented_of_mem_indented hp hline
      · split at hline
        · exact startsIndented_of_mem_declLinesOf hchildren hline
        · cases hline
    · exact startsIndented_of_mem_indented hp hline

theorem startsIndented_of_mem_declLinesOf {depth : Nat} {line : String} :
    ∀ {ts : List (Tree (Placed Decl))}, (∀ p ∈ Tree.labelsOf ts, depth ≤ p.depth) →
      line ∈ declLinesOf ts → StartsIndented depth line
  | [], _, hline => by cases hline
  | t :: ts, hdepth, hline => by
    rw [Tree.labelsOf] at hdepth
    obtain ⟨ht, hts⟩ := List.forall_mem_append.mp hdepth
    rw [declLinesOf] at hline
    rcases List.mem_append.mp hline with hline | hline
    · exact startsIndented_of_mem_declLines ht hline
    · exact startsIndented_of_mem_declLinesOf hts hline

end

/-- **A declaration is printed well nested** at any depth that none of its nodes is above. -/
theorem wellNested_renderDecl {t : Tree (Placed Decl)} {depth : Nat}
    (hplain : ∀ p ∈ t.labels, p.value.Plain) (hdepth : ∀ p ∈ t.labels, depth ≤ p.depth) :
    WellNested depth (renderDecl t) :=
  wellNested_intercalate (fun _ hline _ => startsIndented_of_mem_declLines hdepth hline)
    (openAfterLines_declLines hplain 0)

end SchemaGen
