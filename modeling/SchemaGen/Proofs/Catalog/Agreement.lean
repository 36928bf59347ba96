import SchemaGen.CodeUnit

/-!
# Loaders that agree

Two loaders agree if identifiers mean the same to both and what an identifier means is the same
schema. All that a catalog asks of a loader starts from identifiers, and so loaders that agree build
the same catalogs (`Catalog.build_congr`) and compile schemas alike (`compile_congr`), whatever else
either of them could load.
-/

set_option autoImplicit false

namespace SchemaGen

/-- Identifiers mean the same, and the same schemas. -/
structure Loader.Agree (l l' : Loader) : Prop where
  resolve : ∀ source identifier, l'.resolve source identifier = l.resolve source identifier
  load : ∀ {source identifier path}, l.resolve source identifier = .ok path →
    l'.load path = l.load path

variable {l l' : Loader}

namespace Catalog

theorem follow_congr (h : l.Agree l') (schema : Schema) (references met : List String) :
    follow l' schema references met = follow l schema references met := by
  induction references generalizing met with
  | nil => rfl
  | cons reference rest ih =>
    rw [follow, follow, h.resolve]
    cases hresolve : l.resolve schema.path reference with
    | error cause => rfl
    | ok path =>
      dsimp only
      rw [h.load hresolve, ih]
      split
      · rfl
      · cases l.load path with
        | error cause => rfl
        | ok loaded =>
          dsimp only
          rw [ih]

theorem addAll_congr (h : l.Agree l') (strict : Bool) (met : List String) (queue : List Schema)
    (c : Catalog) : addAll l' strict met queue c = addAll l strict met queue c := by
  induction met, queue, c using addAll.induct l with
  | case1 met c => rw [addAll, addAll]
  | case2 met c schema rest ih =>
    rw [addAll, addAll]
    congr 1
    funext c'
    rw [follow_congr h]
    split
    · rfl
    next met' more hfollow => exact ih c' met' more hfollow

theorem build_congr (h : l.Agree l') (strict : Bool) (schema : Schema) :
    build l' strict schema = build l strict schema := by
  rw [build, build, addAll_congr h]

end Catalog

theorem compile_congr (h : l.Agree l') (plugins : Option Registry) (o : UnitOptions)
    (schema : Schema) : compile l' plugins o schema = compile l plugins o schema := by
  rw [compile, compile, buildTrees, buildTrees, Catalog.build_congr h]

end SchemaGen
