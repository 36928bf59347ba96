import SchemaGen.Schema.Basic
import SchemaGen.Schema.Descriptor
import SchemaGen.Fault
import SchemaGen.Forest

/-!
# Declarations

What the header of a schema is made of. Each kind of declaration has a name and a signature. The
signature is its type-and-name text: it is what sibling declarations are ordered by, since a
declaration must stand after whatever its signature mentions.
-/

set_option autoImplicit false

namespace SchemaGen

/-- The value that every generated enumeration ends with. -/
def unknownEnumerator : String := "UNKNOWN"

/-- What a declared function is for. -/
inductive FunctionKind where
  | plain
  /-- Overrides a virtual function of the base class. -/
  | override
  /-- Reads a group from JSON. -/
  | serialization
  /-- Evaluates a performance map with one argument per grid variable. -/
  | performanceOverload
deriving Repr, DecidableEq, Inhabited

/-- A declared function. -/
structure FunctionDecl where
  kind : FunctionKind := .plain
  name : String
  returns : String
  args : List String := []
  /-- The group that a serialization reads. -/
  target : String := ""
  /-- The base class whose overloads a performance overload keeps in scope. -/
  usingBase : String := ""
  /-- The names of the grid arguments of a performance overload. -/
  argNames : List String := []
  /-- The lookup variables whose projection a performance overload returns. -/
  lookup : Option NodeId := none
deriving Repr, Inhabited

/-- A class declaration. -/
structure StructDecl where
  name : String
  superclass : String := ""
  role : Role := .plain
  /-- Lookup variables are structs with a second struct, their projection, that holds one value
  where they hold a list. -/
  isLookup : Bool := false
deriving Repr, DecidableEq, Inhabited

/-- A data member. -/
structure MemberDecl where
  name : String
  type : TypeDescriptor
  required : Bool := false
deriving Repr, Inhabited

/-- A declaration, without what is nested in it. -/
inductive Decl where
  | scope (name : String)
  | typedef (name target : String)
  /-- An enumeration with all its enumerators, the unknown one last. -/
  | enumeration (name : String) (enumerators : List Enumerator)
  /-- The JSON strings of an enumeration's values, the unknown one first. -/
  | enumSerialization (name : String) (values : List String)
  | struct (decl : StructDecl)
  | member (decl : MemberDecl)
  /-- Whether a data member was present in the input. -/
  | isSet (element : String)
  /-- A static text about a member or a schema. -/
  | metaInfo (name value : String)
  /-- A static object shared by all instances. -/
  | stored (name type : String)
  | function (decl : FunctionDecl)
  /-- An index for each of several members, and their count. -/
  | counter (enumerants : List String)
deriving Repr, Inhabited

/-! ## Making declarations -/

/-- The keyword of a class declaration. -/
def StructDecl.keyword (s : StructDecl) : String :=
  if s.isLookup then "struct" else "class"

/-- The projection of lookup variables. -/
def StructDecl.projectionName (s : StructDecl) : String :=
  s.name ++ "Struct"

namespace Decl

/-- An enumeration of the given values and the unknown one. -/
def ofEnumerators (name : String) (enumerators : List Enumerator) : Decl :=
  enumeration name (enumerators ++
    [{ value := unknownEnumerator, displayText := "None", description := "None" }])

/-- The serialization of an enumeration with these values. -/
def ofValues (name : String) (values : List String) : Decl :=
  enumSerialization name (unknownEnumerator :: values.filter (· ≠ unknownEnumerator))

/-- The counter of these members. -/
def ofMembers (members : List String) : Decl :=
  counter (members.map (· ++ "_index") ++ ["index_count"])

/-- The function that reads a group from JSON. -/
def fromJson (group : String) : Decl :=
  function
    { kind := .serialization, name := "from_json", returns := "void"
      args := ["const nlohmann::json& j", group ++ "& x"], target := group }

/-! ## Asking declarations -/

/-- The word for the kind of a declaration. -/
def kindName : Decl → String
  | scope _ => "namespace"
  | typedef .. => "typedef"
  | enumeration .. => "enumeration"
  | enumSerialization .. => "enum_serialization"
  | struct s => if s.isLookup then "lookup_struct" else "struct"
  | member _ => "data_element"
  | isSet _ => "is_set"
  | metaInfo .. => "meta_info"
  | stored .. => "stored"
  | function _ => "function"
  | counter _ => "counter"

/-- The name of a declaration; a counter has none. -/
def name : Decl → String
  | scope n => n
  | typedef n _ => n
  | enumeration n _ => n
  | enumSerialization n _ => n
  | struct s => s.name
  | member m => m.name
  | isSet element => element ++ "_is_set"
  | metaInfo n _ => n
  | stored n _ => n
  | function f => f.name
  | counter _ => ""

/-- The type of a static text. -/
def metaInfoType : String := "std::string_view"

/-- The type-and-name text of a declaration. -/
def signature : Decl → String
  | scope n => "namespace " ++ n
  | typedef n target => "typedef " ++ target ++ " " ++ n
  | enumeration n _ => "enum class " ++ n
  | enumSerialization n _ => "NLOHMANN_JSON_SERIALIZE_ENUM " ++ n
  | struct s => s.keyword ++ " " ++ s.name
  | member m => m.type.cppType ++ " " ++ m.name
  | isSet element => "bool " ++ element ++ "_is_set"
  | metaInfo n _ => metaInfoType ++ " " ++ n
  | stored n type => type ++ " " ++ n
  | function f => f.returns ++ " " ++ f.name ++ "(" ++ ", ".intercalate f.args ++ ")"
  | counter enumerants => "enum " ++ " ".intercalate enumerants

/-- How a message refers to a declaration: by its name, or by its signature if it has none. -/
def describe (d : Decl) : String :=
  if d.name = "" then d.signature else d.name

/-- The values of an enumeration or of its serialization. -/
def values : Decl → List String
  | enumeration _ enumerators => enumerators.map (·.value)
  | enumSerialization _ vs => vs
  | _ => []

/-- The class declaration, if it is one. -/
def struct? : Decl → Option StructDecl
  | struct s => some s
  | _ => none

/-- The data member, if it is one. -/
def member? : Decl → Option MemberDecl
  | member m => some m
  | _ => none

/-- The function, if it is one. -/
def function? : Decl → Option FunctionDecl
  | function f => some f
  | _ => none

/-- The data members among declarations. -/
def members (ds : List Decl) : List MemberDecl :=
  ds.filterMap member?

end Decl

end SchemaGen
