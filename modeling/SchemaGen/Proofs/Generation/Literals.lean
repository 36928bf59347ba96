import SchemaGen.Definition.Render
import SchemaGen.Proofs.Text.Literal

/-!
# Literals in generated lines

Texts of a schema reach the generated code as string literals: static texts about members and
schemas, and the values of enumerations with the texts about them. `CarriesLiteral` lists the places,
each with what stands before and behind the literal in its line, and `literal_denotes_iff` says when
a compiler that has come to such a place reads the text that was put there.
-/

set_option autoImplicit false

namespace SchemaGen

open SchemaGen.Text

/-- The text that an enumeration shows for one of its values. -/
def shownText (e : Enumerator) : String :=
  if e.displayText = "" then e.value else e.displayText

/-- The comma behind a line that others follow. -/
def commaBefore {α : Type} (following : List α) : String :=
  if following.isEmpty then "" else ","

theorem mem_commaLines (line : String) (following : List String) :
    ∀ preceding, line ++ commaBefore following ∈ commaLines (preceding ++ line :: following)
  | [] => by
    cases following with
    | nil => simp [commaLines, commaBefore]
    | cons next following => simp [commaLines, commaBefore]
  | first :: preceding => by
    have hmem := mem_commaLines line following preceding
    have hsome : preceding ++ line :: following ≠ [] := by simp
    obtain ⟨second, more, heq⟩ := List.exists_cons_of_ne_nil hsome
    rw [heq] at hmem
    rw [List.cons_append, heq]
    exact List.mem_cons_of_mem _ hmem

/-! ## The places -/

/-- Lines that carry a text as a literal, with what stands before and behind it in its line. -/
inductive CarriesLiteral (decls : Forest Decl) : List String → String → String → String → Prop
  /-- The value of a static text, where it is defined. -/
  | staticText {p : Placed Defn} {nested : List (Tree (Placed Defn))} {decl owner : NodeId}
      {name v : String} (hp : p.value = .staticMember decl owner)
      (hdecl : decls.value? decl = some (.metaInfo name v)) :
      CarriesLiteral decls (defnLines decls (.node p nested))
        (indentation p.depth ++ "const std::string_view " ++ declName decls owner ++ "::" ++ name
          ++ " = ")
        v ";"
  /-- The value of an enumerator, among the texts about it. -/
  | value {p : Placed Decl} {nested : List (Tree (Placed Decl))} {name : String}
      {preceding following : List Enumerator} {e : Enumerator}
      (hp : p.value = .enumeration name (preceding ++ e :: following)) :
      CarriesLiteral decls (declLines (.node p nested))
        (indentation p.depth ++ "\t\x7b" ++ name ++ "::" ++ e.value ++ ", \x7b")
        e.value
        (", " ++ quoted (shownText e) ++ ", " ++ quoted e.description ++ "\x7d\x7d"
          ++ commaBefore following)
  | display {p : Placed Decl} {nested : List (Tree (Placed Decl))} {name : String}
      {preceding following : List Enumerator} {e : Enumerator}
      (hp : p.value = .enumeration name (preceding ++ e :: following)) :
      CarriesLiteral decls (declLines (.node p nested))
        (indentation p.depth ++ "\t\x7b" ++ name ++ "::" ++ e.value ++ ", \x7b" ++ quoted e.value
          ++ ", ")
        (shownText e)
        (", " ++ quoted e.description ++ "\x7d\x7d" ++ commaBefore following)
  | description {p : Placed Decl} {nested : List (Tree (Placed Decl))} {name : String}
      {preceding following : List Enumerator} {e : Enumerator}
      (hp : p.value = .enumeration name (preceding ++ e :: following)) :
      CarriesLiteral decls (declLines (.node p nested))
        (indentation p.depth ++ "\t\x7b" ++ name ++ "::" ++ e.value ++ ", \x7b" ++ quoted e.value
          ++ ", " ++ quoted (shownText e) ++ ", ")
        e.description
        ("\x7d\x7d" ++ commaBefore following)
  /-- A value in the serialization of an enumeration. -/
  | serialized {p : Placed Decl} {nested : List (Tree (Placed Decl))} {name v : String}
      {values : List String} (hp : p.value = .enumSerialization name values) (hv : v ∈ values) :
      CarriesLiteral decls (declLines (.node p nested))
        (indentation p.depth ++ "\t\x7b" ++ name ++ "::" ++ v ++ ", ")
        v "\x7d,"

variable {decls : Forest Decl}

/-- A line that opens a declaration is a line of it. -/
theorem mem_declLines {p : Placed Decl} {nested : List (Tree (Placed Decl))} {line : String}
    (h : line ∈ (p.value.frame (membersBelow nested)).1) :
    indentation p.depth ++ line ∈ declLines (.node p nested) := by
  rw [declLines]
  exact List.mem_append_left _ (List.mem_append_left _ (List.mem_map_of_mem h))

theorem mem_declLines_infoLine {p : Placed Decl} (nested : List (Tree (Placed Decl)))
    {name : String} {preceding following : List Enumerator} {e : Enumerator}
    (hp : p.value = .enumeration name (preceding ++ e :: following)) :
    indentation p.depth ++ (Decl.infoLine name e ++ commaBefore following) ∈
      declLines (.node p nested) := by
  refine mem_declLines ?_
  have hmem := mem_commaLines (Decl.infoLine name e) (following.map (Decl.infoLine name))
    (preceding.map (Decl.infoLine name))
  have hcomma : commaBefore (following.map (Decl.infoLine name)) = commaBefore following := by
    simp [commaBefore]
  rw [hcomma, ← List.map_cons, ← List.map_append] at hmem
  rw [hp, Decl.frame, Decl.enumerationLines]
  simp only [List.mem_append]
  exact .inl (.inr hmem)

theorem defnLines_staticMember {p : Placed Defn} {nested : List (Tree (Placed Defn))}
    {decl owner : NodeId} (hp : p.value = .staticMember decl owner) :
    defnLines decls (.node p nested) =
      [indentation p.depth ++ Defn.staticLine decls decl owner] := by
  rw [defnLines, hp]
  simp [Defn.frame, Defn.showsNested, indented, orEmptyLine]

/-- **The places are there.** -/
theorem CarriesLiteral.mem_lines {lines : List String} {before v after : String}
    (h : CarriesLiteral decls lines before v after) : before ++ quoted v ++ after ∈ lines := by
  cases h with
  | @staticText p nested decl owner name v hp hdecl =>
    have hname : declName decls decl = name := by
      rw [declName, hdecl]
      rfl
    rw [defnLines_staticMember hp, Defn.staticLine, hdecl, hname, List.mem_singleton]
    simp only [Decl.metaInfoType, String.append_assoc]
    rfl
  | @serialized p nested name v values hp hv =>
    have hmem : indentation p.depth
        ++ ("\t\x7b" ++ name ++ "::" ++ v ++ ", " ++ quoted v ++ "\x7d,")
        ∈ declLines (.node p nested) := by
      refine mem_declLines ?_
      rw [hp, Decl.frame, Decl.enumSerializationLines]
      exact List.mem_append_left _ (List.mem_append_right _ (List.mem_map_of_mem hv))
    simpa only [String.append_assoc] using hmem
  | @value p nested _ _ _ _ hp | @display p nested _ _ _ _ hp | @description p nested _ _ _ _ hp =>
    have hmem := mem_declLines_infoLine nested hp
    simpa only [Decl.infoLine, shownText, String.append_assoc] using hmem

/-! ## What they denote -/

variable {lines : List String} {before v after : String}

/-- **A text survives as a literal** exactly if no digit stands in it right behind a control
character that has no letter. Where one does, the literal is refused or denotes fewer bytes; its end
is found in either case. -/
theorem literal_denotes_iff (h : CarriesLiteral decls lines before v after) :
    before ++ quoted v ++ after ∈ lines ∧
      ∀ more,
        let read := readLiteral ((quoted v ++ after).toList ++ more)
        (read = some (utf8 v, after.toList ++ more) ↔ ¬ SwallowsDigit v.toList) ∧
        (SwallowsDigit v.toList → read = none ∨
          ∃ bytes, read = some (bytes, after.toList ++ more) ∧ bytes.length < (utf8 v).length) := by
  refine ⟨h.mem_lines, fun more => ?_⟩
  rw [String.toList_append, List.append_assoc]
  exact ⟨readLiteral_quoted_eq_some_iff v _, fun hswallow =>
    readLiteral_quoted_of_swallowsDigit hswallow _⟩

/-- A class `G` with a static text, and the definition of that text in a namespace. -/
def unitDecls (v : String) : Forest Decl :=
  { entries := [{ id := 1, value := .struct { name := "G" }, children := [2] },
      { id := 2, value := .metaInfo "unit" v, parent := some 1 }], next := 3 }

def unitDefn : Placed Defn :=
  { id := 5, value := .staticMember 2 1, depth := 1 }

/-- A quote, a tab and a control character without a letter, and no digit behind that. -/
theorem literal_denotes_unit :
    let v := "\"\t\x01kg"
    CarriesLiteral (unitDecls v) (defnLines (unitDecls v) (.node unitDefn []))
        "\tconst std::string_view G::unit = " v ";" ∧
      quoted v = "\"\\\"\\t\\x01kg\"" ∧
      readLiteral (quoted v ++ ";").toList = some ([0x22, 0x09, 0x01, 0x6b, 0x67], [';']) := by
  intro v
  have hplace : CarriesLiteral (unitDecls v) (defnLines (unitDecls v) (.node unitDefn []))
      "\tconst std::string_view G::unit = " v ";" :=
    @CarriesLiteral.staticText (unitDecls v) unitDefn [] 2 1 "unit" v rfl rfl
  have hread := ((literal_denotes_iff hplace).2 []).1.mpr (by decide)
  have hbytes : utf8 v = [0x22, 0x09, 0x01, 0x6b, 0x67] := by decide
  rw [List.append_nil, List.append_nil, hbytes] at hread
  exact ⟨hplace, by decide, hread⟩

/-- Where an `f` stands behind the control character of code one, the literal denotes a single
character, of code thirty-one. -/
theorem literal_swallows_digit :
    let v := "\x01f"
    defnLines (unitDecls v) (.node unitDefn []) =
        ["\tconst std::string_view G::unit = \"\\x01f\";"] ∧
      utf8 v = [0x01, 0x66] ∧
      readLiteral "\"\\x01f\";".toList = some ([0x1f], [';']) := by
  refine ⟨by decide, by decide, ?_⟩
  have hone : readOne "\\x01f\";".toList = some ([0x1f], ['"', ';']) := by decide
  exact (readUntilQuote_of_readOne hone).trans (by rw [readUntilQuote_quote]; rfl)

end SchemaGen
