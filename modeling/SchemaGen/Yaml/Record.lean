import SchemaGen.Yaml.Node

/-!
# Records

A mapping read as a record of fields with given names. A mapping may take over the entries of other
mappings under the merge key: its own entries win over those, and earlier ones over later ones. A
record is a list of fields in which the first of a name counts.

A mapping that takes itself over has no fields. No chain of merges that ends is longer than the
document has parts, so a chain of that length is known not to end.
-/

set_option autoImplicit false

namespace SchemaGen.Yaml

/-- Fields by name; the first of a name counts. -/
abbrev Fields := List (String × Node)

/-- The text of a scalar, which is nothing if the scalar is, and what the bytes spell if it is
bytes; a tag must go with its text. -/
def scalarText? (tag : Tag) (text : String) : Option (Option String) :=
  if !tag.accepts text then none
  else match tag with
    | .null => some none
    | .binary => some (Text.Base64.text? text)
    | _ => some (some text)

namespace Document

/-- The text of a node that must be a scalar. -/
def textOf? (d : Document) (n : Node) : Option (Option String) :=
  match d.follow n with
  | .scalar tag text => scalarText? tag text
  | _ => none

/-- Whether two keys are the same. -/
def sameKey (a b : Node) : Bool :=
  a.kind == b.kind && a.text == b.text

/-- Whether all keys of a mapping differ. -/
def distinctKeys : List (Node × Node) → Bool
  | [] => true
  | (k, _) :: rest => !rest.any (fun e => sameKey k e.1) && distinctKeys rest

/-- The fields that a mapping has of its own. Keys that are nothing are left out. -/
def ownFields (d : Document) : List (Node × Node) → Option Fields
  | [] => some []
  | (key, value) :: rest =>
    if key.isMerge then d.ownFields rest
    else match d.textOf? key with
      | none => none
      | some none => d.ownFields rest
      | some (some name) => (d.ownFields rest).map ((name, value) :: ·)

/-- Whether no known field occurs twice. -/
def distinctFields (known : List String) (fields : Fields) : Bool :=
  known.all fun name => (fields.filter (·.1 == name)).length ≤ 1

/-- The entries of a node that must be a mapping or an alias of one. -/
def entriesOf? (d : Document) (n : Node) : Option (List (Node × Node)) :=
  match d.follow n with
  | .mapping entries => some entries
  | _ => none

/-- The fields of a mapping, its own and those it takes over. -/
def fieldsWithin (d : Document) : (fuel : Nat) → List (Node × Node) → Option Fields
  | 0, _ => none
  | fuel + 1, entries => do
    if !distinctKeys entries then none
    let own ← d.ownFields entries
    let sources ← match (entries.find? (·.1.isMerge)).map Prod.snd with
      | none => some []
      | some (.sequence items) => some items
      | some source => some [source]
    let taken ← sources.mapM fun source => (d.entriesOf? source).bind (d.fieldsWithin fuel)
    some (own ++ taken.flatten)

/-- A node read as a record of known fields. A scalar that is nothing is a record without
fields. -/
def record? (d : Document) (known : List String) (n : Node) : Option Fields :=
  match d.follow n with
  | .mapping entries => do
    let own ← d.ownFields entries
    if !distinctFields known own then none
    d.fieldsWithin d.bound entries
  | .scalar tag text => if tag == .null && tag.accepts text then some [] else none
  | _ => none

/-! ## Fields -/

/-- The text of a field; empty if the field is missing or nothing. -/
def textField (d : Document) (fields : Fields) (name : String) : Option String :=
  match fields.lookup name with
  | none => some ""
  | some n => (d.textOf? n).map (·.getD "")

/-- The texts of the items of a sequence; items that are nothing are left out. -/
def textItems (d : Document) : List Node → Option (List String)
  | [] => some []
  | n :: rest =>
    match d.textOf? n with
    | none => none
    | some none => d.textItems rest
    | some (some text) => (d.textItems rest).map (text :: ·)

/-- The texts of a field that is a text or a sequence of texts. An alias does not count here, nor
does a mapping. -/
def textsField (d : Document) (fields : Fields) (name : String) : Option (List String) :=
  match fields.lookup name with
  | some (.scalar tag text) => some (if tag == .null || text == "" then [] else [text])
  | some (.sequence items) => d.textItems items
  | _ => some []

/-- The entries of a field that is a mapping. An alias does not count here. -/
def entriesField (fields : Fields) (name : String) : List (Node × Node) :=
  match fields.lookup name with
  | some (.mapping entries) => entries
  | _ => []

end Document

end SchemaGen.Yaml
