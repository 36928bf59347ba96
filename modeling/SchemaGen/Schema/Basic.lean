import SchemaGen.Schema.Role

/-!
# Schemas

A schema is a list of named objects in file order. Order matters (declarations are emitted in
it before they are sorted), and names may repeat: nothing here merges two objects, and looking
a name up finds the first.
-/

set_option autoImplicit false

namespace SchemaGen

/-! ## Object types -/

/-- The tag that every top-level object of a schema carries. A tag this library gives no meaning
to is kept with its text. -/
inductive ObjectType where
  | stringType
  | enumeration
  | dataGroup
  | gridVariables
  | lookupVariables
  | performanceMap
  | ratingDataGroup
  | mapVariables
  | dataType
  | metadata
  | other (text : String)
deriving Repr, DecidableEq, Inhabited

namespace ObjectType

/-- The tag as schemas write it. -/
def text : ObjectType → String
  | stringType => "String Type"
  | enumeration => "Enumeration"
  | dataGroup => "Data Group"
  | gridVariables => "Grid Variables"
  | lookupVariables => "Lookup Variables"
  | performanceMap => "Performance Map"
  | ratingDataGroup => "Rating Data Group"
  | mapVariables => "Map Variables"
  | dataType => "Data Type"
  | metadata => "Meta"
  | other t => t

/-- The tags that have a meaning. -/
def known : List ObjectType :=
  [stringType, enumeration, dataGroup, gridVariables, lookupVariables, performanceMap,
    ratingDataGroup, mapVariables, dataType, metadata]

/-- Reads a tag; case and blanks count. -/
def ofText (s : String) : ObjectType :=
  (known.find? (·.text = s)).getD (other s)

/-- A tag keeps its text. -/
theorem text_ofText (s : String) : (ofText s).text = s := by
  unfold ofText
  cases h : known.find? (fun t => decide (t.text = s)) with
  | none => rfl
  | some t => simpa using List.find?_some h

/-- Objects that carry data elements and become classes. -/
def isGroup : ObjectType → Bool
  | dataGroup | gridVariables | lookupVariables | performanceMap | ratingDataGroup => true
  | _ => false

/-- Objects that another schema can refer to by name. -/
def isExported : ObjectType → Bool
  | enumeration | dataGroup | stringType | mapVariables | ratingDataGroup | performanceMap
  | gridVariables | lookupVariables => true
  | _ => false

/-- The role that an object type implies. The root role is not among them: it comes from the
schema's choice of a root group. -/
def role : ObjectType → Role
  | gridVariables => .gridVariables
  | lookupVariables => .lookupVariables
  | performanceMap => .performanceMap
  | _ => .plain

/-- Every group can be referred to. -/
theorem isExported_of_isGroup {t : ObjectType} (h : t.isGroup = true) : t.isExported = true := by
  cases t <;> first | rfl | cases h

end ObjectType

/-! ## Objects -/

/-- One member of a group. -/
structure DataElement where
  name : String := ""
  dataType : String := ""
  required : Bool := false
  constraints : List String := []
  units : String := ""
  description : String := ""
  notes : List String := []
deriving Repr, DecidableEq, Inhabited

/-- One value of an enumeration. -/
structure Enumerator where
  value : String := ""
  description : String := ""
  displayText : String := ""
  notes : String := ""
deriving Repr, DecidableEq, Inhabited

/-- What a schema says about itself in its metadata object. -/
structure Metadata where
  title : String := ""
  version : String := ""
  description : String := ""
  references : List String := []
  rootDataGroup : String := ""
deriving Repr, DecidableEq, Inhabited

/-- A named entry at the top level of a schema. -/
structure SchemaObject where
  name : String := ""
  type : ObjectType := .other ""
  description : String := ""
  elements : List DataElement := []
  enumerators : List Enumerator := []
  metadata : Metadata := {}
deriving Repr, DecidableEq, Inhabited

/-! ## Schemas -/

/-- A decoded schema. -/
structure Schema where
  /-- The stem of its file name. -/
  name : String := ""
  /-- Where it was read from; empty if nowhere. -/
  path : String := ""
  objects : List SchemaObject := []
deriving Repr, DecidableEq, Inhabited

namespace Schema

/-- The first metadata object. -/
def metadata? (s : Schema) : Option SchemaObject :=
  s.objects.find? (·.type = .metadata)

/-- The objects whose type is one of `types`, in file order. -/
def objectsOfType (s : Schema) (types : List ObjectType) : List SchemaObject :=
  s.objects.filter (types.contains ·.type)

/-- The groups, in file order. -/
def groups (s : Schema) : List SchemaObject :=
  s.objects.filter (·.type.isGroup)

/-- The first object of a name. -/
def lookup? (s : Schema) (name : String) : Option SchemaObject :=
  s.objects.find? (·.name = name)

/-- The identifiers of the schemas it refers to, as the first metadata object lists them. -/
def references (s : Schema) : List String :=
  (s.metadata?.map (·.metadata.references)).getD []

/-- The first object of a name, if it is a group. -/
def groupNamed? (s : Schema) (name : String) : Option SchemaObject :=
  (s.lookup? name).filter (·.type.isGroup)

/-- The name of the root group: the group that the metadata names as such, else the schema's own
name, whether or not a group has it. -/
def rootGroup (s : Schema) : String :=
  match s.metadata? with
  | some m => if (s.groupNamed? m.metadata.rootDataGroup).isSome
      then m.metadata.rootDataGroup else s.name
  | none => s.name

/-- Where the schema is, for messages: its path, or its name if it has none. -/
def location (s : Schema) : String :=
  if s.path = "" then s.name else s.path

end Schema

end SchemaGen
