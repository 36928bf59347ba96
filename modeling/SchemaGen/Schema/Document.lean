import SchemaGen.Fault
import SchemaGen.Schema.Basic
import SchemaGen.Yaml.Parse
import SchemaGen.Yaml.Record

/-!
# Schema documents

A schema is written as a document that maps the names of its objects to records. What an object
holds depends on its tag only for the metadata object; elements and enumerators are read wherever
they stand. Order is that of the document, and repeated names are kept.
-/

set_option autoImplicit false

namespace SchemaGen

open SchemaGen.Yaml

namespace SchemaDocument

/-! ## Elements and enumerators -/

/-- Whether an element is required: a truth value says so itself, and any other text that is not
blank, such as a condition, makes it so. -/
def isRequired (fields : Fields) : Bool :=
  match fields.lookup "Required" with
  | some (.scalar tag text) =>
    if tag == .null then false
    else match tag, boolWords.lookup text with
      | .bool, some b => b
      | _, _ => !Text.isBlankText text
  | _ => false

/-- Reads one data element. -/
def readElement (d : Document) (entry : Node × Node) : Option DataElement := do
  let known := ["Data Type", "Required", "Constraints", "Units", "Description", "Notes"]
  let fields ← d.record? known entry.2
  some
    { name := entry.1.text
      dataType := ← d.textField fields "Data Type"
      required := isRequired fields
      constraints := ← d.textsField fields "Constraints"
      units := ← d.textField fields "Units"
      description := ← d.textField fields "Description"
      notes := ← d.textsField fields "Notes" }

/-- Reads one enumerator. One that is not written as a mapping has no texts. -/
def readEnumerator (d : Document) (entry : Node × Node) : Option Enumerator := do
  let fields ← match entry.2 with
    | .mapping _ => d.record? ["Description", "Display Text", "Notes"] entry.2
    | _ => some []
  some
    { value := entry.1.text
      description := ← d.textField fields "Description"
      displayText := ← d.textField fields "Display Text"
      notes := " ".intercalate (← d.textsField fields "Notes") }

/-! ## Objects -/

/-- The fields that an object may have. -/
def objectFields : List String :=
  ["Object Type", "Description", "Title", "Version", "References", "Root Data Group",
    "Data Elements", "Enumerators"]

/-- Reads one object. -/
def readObject (d : Document) (entry : Node × Node) : Option SchemaObject := do
  let fields ← d.record? objectFields entry.2
  let type := ObjectType.ofText (← d.textField fields "Object Type")
  let description ← d.textField fields "Description"
  let title ← d.textField fields "Title"
  let version ← d.textField fields "Version"
  let rootDataGroup ← d.textField fields "Root Data Group"
  let metadata ← if type = .metadata then do
      some { title, version, description, rootDataGroup
             references := ← d.textsField fields "References" }
    else some {}
  some
    { name := entry.1.text, type, description, metadata
      elements := ← (Document.entriesField fields "Data Elements").mapM (readElement d)
      enumerators := ← (Document.entriesField fields "Enumerators").mapM (readEnumerator d) }

/-- Reads the objects of a schema from the text of its file. A text without a document has none.
Messages give the file as `shown`. -/
def readObjects (shown text : String) : Except Fault (List SchemaObject) :=
  match parse text with
  | none => .error (.unparsableSchema shown)
  | some none => .ok []
  | some (some d) =>
    match d.root with
    | .mapping entries =>
      match entries.mapM (readObject d) with
      | some objects => .ok objects
      | none => .error (.unparsableSchema shown)
    | _ => .error (.schemaNotMapping shown)

end SchemaDocument

end SchemaGen
