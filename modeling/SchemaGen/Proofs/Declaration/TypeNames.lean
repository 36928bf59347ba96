import SchemaGen.Proofs.Declaration.BeforeUse
import SchemaGen.Proofs.Declaration.Mentions

/-!
# Names of types are unique

No step looks for two types of one name, and there may be many sources of names: repeated objects,
objects of different kinds, the class that holds the logger, which has the name of the schema. The
order finds them. Every declaration whose name is a word mentions itself (`mem_mentions_self`), so
of two with the same name each mentions the other, and neither can stand first. What is added after
the order introduces no type.

Names that are no words are not found, since no text mentions them.
-/

set_option autoImplicit false

namespace SchemaGen

open SchemaGen.Text (IsWord)

/-- Among ordered declarations, no two have the same word as a name. -/
theorem name_ne_of_ordered {scope : String} {trees ordered : List (Tree Decl)}
    (h : (orderTrees scope trees).result = .ok ordered) {j i : Nat} {t u : Tree Decl}
    (ht : ordered[j]? = some t) (hu : ordered[i]? = some u) (hne : j ≠ i)
    (hword : IsWord t.label.name) : t.label.name ≠ u.label.name := by
  intro hname
  have hmentions {v : Tree Decl} (hvname : v.label.name = t.label.name) :
      MentionsName v t.label.name :=
    mem_mentions_iff.mp (hvname ▸ mem_mentions_self (hvname ▸ hword))
  have hji : j < i := lt_of_mustPrecede_ordered h
    ⟨hne, t, u, ht, hu, hword.1, hmentions hname.symm⟩
  have hij : i < j := lt_of_mustPrecede_ordered h
    ⟨hne.symm, u, t, hu, ht, hname ▸ hword.1, hname ▸ hmentions rfl⟩
  exact Nat.lt_asymm hji hij

/-- **Names of types are unique.** Whatever a schema declares under whatever names: if its
declarations can be built, no two typedefs, enumerations or classes in its namespace have the same
word as a name. -/
theorem type_names_unique {c : Catalog} {s : Schema} {o : DeclOptions} {d : Declarations}
    (hd : (buildDeclarations c s o).result = .ok d) {j i : Nat}
    {t u : Tree (Tree.Numbered Decl)} (ht : d.scope.children[j]? = some t)
    (hu : d.scope.children[i]? = some u) (hne : j ≠ i)
    (htype : t.label.value.introducesType = true) (hutype : u.label.value.introducesType = true)
    (hword : IsWord t.label.value.name) : t.label.value.name ≠ u.label.value.name := by
  obtain ⟨groups, headers, ordered, -, hordered, rfl⟩ := exists_of_buildDeclarations hd
  have hplace {k : Nat} {v : Tree (Tree.Numbered Decl)}
      (hv : (scopeTree s ordered).children[k]? = some v)
      (hvtype : v.label.value.introducesType = true) :
      ∃ v', ordered[k]? = some v' ∧ v'.label = v.label.value := by
    refine exists_ordered_of_not_mem_trailingDecls hv fun hmem => ?_
    rw [not_introducesType_of_mem_trailingDecls hmem] at hvtype
    cases hvtype
  obtain ⟨t', ht', htlabel⟩ := hplace ht htype
  obtain ⟨u', hu', hulabel⟩ := hplace hu hutype
  rw [← htlabel] at hword ⊢
  rw [← hulabel]
  exact name_ne_of_ordered hordered ht' hu' hne hword

/-! ## Three types -/

/-- A text type, an enumeration and a group that has the name of the schema. -/
def threeTypesSchema : Schema where
  name := "S"
  objects :=
    [{ name := "T", type := .stringType },
      { name := "E", type := .enumeration, enumerators := [{ value := "A" }] },
      { name := "S", type := .dataGroup }]

/-- The declarations of that schema. -/
def threeTypes? : Option Declarations :=
  (Catalog.build (SchemaSet.loader {}) false threeTypesSchema).result.toOption.bind fun c =>
    (buildDeclarations c threeTypesSchema {}).result.toOption

/-- All three are declared, and the text type does not have the name of the group. -/
theorem type_names_unique_three :
    ∃ c d t u, (buildDeclarations c threeTypesSchema {}).result = .ok d ∧
      d.scope.children[0]? = some t ∧ d.scope.children[2]? = some u ∧
      t.label.value.introducesType = true ∧ u.label.value.introducesType = true ∧
      IsWord t.label.value.name ∧ t.label.value.name ≠ u.label.value.name := by
  have hview : (threeTypes?.map fun d => d.scope.children.map fun t =>
      (t.label.value.introducesType, t.label.value.name)) =
        some [(true, "T"), (true, "E"), (true, "S"), (false, "E"), (false, "from_json")] := by
    decide +kernel
  obtain ⟨d, hthree, hview⟩ := Option.map_eq_some_iff.mp hview
  obtain ⟨c, -, hd⟩ := Option.bind_eq_some_iff.mp hthree
  have hchild (k : Nat) : (d.scope.children[k]?).map (fun t =>
      (t.label.value.introducesType, t.label.value.name)) =
        [(true, "T"), (true, "E"), (true, "S"), (false, "E"), (false, "from_json")][k]? := by
    rw [← List.getElem?_map, hview]
  obtain ⟨t, ht, hT⟩ := Option.map_eq_some_iff.mp (hchild 0)
  obtain ⟨u, hu, hS⟩ := Option.map_eq_some_iff.mp (hchild 2)
  obtain ⟨htype, htname⟩ := Prod.mk.inj hT
  obtain ⟨hutype, -⟩ := Prod.mk.inj hS
  have hword : IsWord t.label.value.name := by
    rw [htname]
    exact ⟨by decide, List.all_eq_true.mp rfl⟩
  exact ⟨c, d, t, u, eq_ok_of_toOption hd, ht, hu, htype, hutype, hword,
    type_names_unique (eq_ok_of_toOption hd) ht hu (by decide) htype hutype hword⟩

end SchemaGen
