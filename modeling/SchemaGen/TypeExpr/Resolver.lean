import SchemaGen.TypeExpr.Grammar
import SchemaGen.Catalog.Basic
import SchemaGen.Schema.Descriptor
import SchemaGen.Text.Naming

/-!
# Resolving data types

From the text of a data type to a descriptor, names looked up in a catalog. There is no fallback:
a text that means nothing is a fault, and every fault here is an invalid argument that names the
group, the element and the place.
-/

set_option autoImplicit false

namespace SchemaGen.TypeExpr

open SchemaGen.Text

/-! ## Expressions -/

/-- The meaning of a reference with a fixed sub-selection. -/
def resolveSubSelection (c : Catalog) (raw : String) (cs : List Char) : Option TypeDescriptor := do
  let sub ← subSelection? cs
  let origin ← c.originOf? sub.name
  return { kind := .nested, raw, name := sub.name, origin, subKey := sub.key, subValue := sub.value }

/-- The meaning of a plain name: a name of the catalog, qualified by the namespace of its schema,
or else a fundamental type. -/
def resolveName (c : Catalog) (raw name : String) : Option TypeDescriptor :=
  match c.originOf? name with
  | some origin => some
      { kind := .simple, raw, name := namespaceName origin ++ "::" ++ name, origin }
  | none => (c.primitive? name).map fun primitive => { kind := .simple, raw, name := primitive }

/-- The meaning of an expression that is no array: a name, bare or decorated, or a
sub-selection. -/
def resolveSimple (c : Catalog) (raw : String) (cs : List Char) : Option TypeDescriptor :=
  let name := referenceName (firstAlternative cs)
  if name.any isReserved then resolveSubSelection c raw name
  else resolveName c raw (String.ofList name)

/-- The meaning of an expression: arrays in brackets around anything else. -/
def resolveExpression (c : Catalog) (cs : List Char) : Option TypeDescriptor :=
  let raw := String.ofList (trimChars cs)
  match _inner : enclosed? '[' ']' (firstAlternative (trimChars cs)) with
  | some inner =>
    (resolveExpression c inner).map fun elem => { kind := .array, raw, elem := some elem }
  | none => resolveSimple c raw (firstAlternative (trimChars cs))
termination_by cs.length
decreasing_by
  have h₁ := length_enclosed?_lt _inner
  have h₂ := length_firstAlternative_le (trimChars cs)
  have h₃ := length_trimChars_le cs
  omega

/-! ## Selectors -/

/-- The data type of the first element named `key` that has one, among these objects. -/
def typeOfElement? (key : String) (objects : List SchemaObject) : Option String :=
  objects.findSome? fun o =>
    (o.elements.find? fun e => e.name = key ∧ e.dataType ≠ "").map (·.dataType)

/-- The bare type of the element that a selector's key names: of the same group, else of the
schema, else of the origins in order. -/
def discriminantType? (c : Catalog) (schema : Schema) (group : SchemaObject) (key : String) :
    Option String :=
  (([group] :: schema.objects :: c.origins.map (·.objects)).findSome?
    (typeOfElement? key)).map bareType

/-- Resolves elements of the groups of one schema. -/
structure Resolver where
  catalog : Catalog
  schema : Schema

namespace Resolver

/-- The fault of a type that means nothing. -/
def typeFault (r : Resolver) (group : SchemaObject) (element : DataElement)
    (problem : TypeProblem) : Fault :=
  .badType problem group.name element.name element.dataType r.schema.location

/-- The fault of a malformed selector. -/
def selectorFault (r : Resolver) (group : SchemaObject) (element : DataElement)
    (problem : SelectorProblem) : Fault :=
  .badSelector problem group.name element.name r.schema.location

/-- Pairs the enumerators of a selector with the types it chooses between, in order. -/
def resolveCases (r : Resolver) (group : SchemaObject) (element : DataElement) (keyType : String) :
    List (String × String) → Except Fault (List SelectorCase)
  | [] => .ok []
  | (enumerator, choice) :: rest =>
    match resolveSimple r.catalog choice choice.toList with
    | none => .error (r.typeFault group element (.unknownChoice choice))
    | some type =>
      match r.resolveCases group element keyType rest with
      | .error fault => .error fault
      | .ok cases => .ok (⟨keyType ++ "::" ++ enumerator, type.cppType⟩ :: cases)

/-- The meaning of a selector type `(T1, T2, ...)`: the enumerators of the first constraint of
the form `key(E1, E2, ...)` choose between its types. -/
def resolveSelector (r : Resolver) (group : SchemaObject) (element : DataElement)
    (raw choiceText : String) : Except Fault TypeDescriptor :=
  match element.constraints.findSome? selectorConstraint? with
  | none => .error (r.selectorFault group element .noConstraint)
  | some (key, enumeratorText) =>
    let enumerators := commaList enumeratorText
    let choices := commaList choiceText
    if enumerators.isEmpty || choices.isEmpty then
      .error (r.selectorFault group element .empty)
    else if enumerators.length ≠ choices.length then
      .error (r.selectorFault group element (.countMismatch enumerators.length choices.length))
    else match discriminantType? r.catalog r.schema group key with
      | none => .error (r.selectorFault group element (.noKey key))
      | some keyType =>
        match resolveSimple r.catalog keyType keyType.toList with
        | none => .error (r.typeFault group element (.unknownKey keyType))
        | some keyDescriptor =>
          match r.resolveCases group element keyDescriptor.cppType (enumerators.zip choices) with
          | .error fault => .error fault
          | .ok cases => .ok
              { kind := .selector, raw, key, cases
                name := "std::unique_ptr<" ++ selectorBase element.name ++ ">" }

/-- The meaning of an element's data type. -/
def resolve (r : Resolver) (group : SchemaObject) (element : DataElement) :
    Except Fault TypeDescriptor :=
  let raw := trim element.dataType
  if raw = "" then .error (r.typeFault group element .missing)
  else match selectorChoices? raw with
    | some choices => r.resolveSelector group element raw choices
    | none =>
      match resolveExpression r.catalog raw.toList with
      | some descriptor => .ok descriptor
      | none => .error (r.typeFault group element .unknown)

end Resolver

end SchemaGen.TypeExpr
