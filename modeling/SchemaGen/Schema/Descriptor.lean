/-!
# Type descriptors

What a data type expression means once its names are resolved. A descriptor is more than a
C++ type: it remembers which schema a name came from and, for a type selected by another
member, which enumerator chooses which class.
-/

set_option autoImplicit false

namespace SchemaGen

/-- The shape of a resolved type. -/
inductive TypeKind where
  /-- A named type. -/
  | simple
  /-- A list of one element type. -/
  | array
  /-- A class chosen by the value of another member. -/
  | selector
  /-- A reference with a fixed sub-selection. -/
  | nested
  /-- A shape of no meaning here; it renders by its name. -/
  | unknown
deriving Repr, DecidableEq, Inhabited

namespace TypeKind

/-- The name by which a shape is written. -/
def name : TypeKind → String
  | simple => "simple"
  | array => "array"
  | selector => "selector"
  | nested => "nested"
  | unknown => "unknown"

/-- The shape of a number. -/
def ofNumber (n : Int) : TypeKind :=
  if n = 0 then simple else if n = 1 then array else if n = 2 then selector
  else if n = 3 then nested else unknown

end TypeKind

/-- An enumerator and the class it selects, both qualified. -/
structure SelectorCase where
  enumerator : String
  type : String
deriving Repr, DecidableEq, Inhabited

/-- A resolved type. Fields that a shape has no use for stay empty. -/
structure TypeDescriptor where
  kind : TypeKind := .simple
  /-- The expression as the schema writes it. -/
  raw : String := ""
  /-- The target type; empty for an array, which renders through its element. -/
  name : String := ""
  /-- The schema that exports the name; empty for a fundamental type. -/
  origin : String := ""
  /-- The element type of an array. -/
  elem : Option TypeDescriptor := none
  /-- The member whose value selects a case. -/
  key : String := ""
  cases : List SelectorCase := []
  /-- The key of a fixed sub-selection. -/
  subKey : String := ""
  /-- The value of a fixed sub-selection. -/
  subValue : String := ""
deriving Repr, Inhabited

namespace TypeDescriptor

/-- The C++ type: an array is a vector of its element type, all else goes by its name. -/
def cppType : TypeDescriptor → String
  | ⟨.array, _, _, _, some elem, _, _, _, _⟩ => "std::vector<" ++ elem.cppType ++ ">"
  | d => d.name

/-- The element type of an array, and the type itself of all else. -/
def innerType (d : TypeDescriptor) : String :=
  match d.kind, d.elem with
  | .array, some elem => elem.cppType
  | _, _ => d.cppType

/-- Whether a member of this type owns a polymorphic object that a factory makes. -/
def isOwning (d : TypeDescriptor) : Bool :=
  d.kind = .selector

end TypeDescriptor

end SchemaGen
