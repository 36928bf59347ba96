import SchemaGen.Declaration.Basic
import SchemaGen.Text.Literal

/-!
# The text of declarations

Every declaration is a list of lines, and no declaration has none. A line starts with one tab for
each ancestor of the declaration, as the forest knows it. Nested declarations stand between the
first and the last line of the one around them.
-/

set_option autoImplicit false

namespace SchemaGen

/-- One tab for each ancestor. -/
def indentation (depth : Nat) : String :=
  String.ofList (List.replicate depth '\t')

/-- Lines, each with the indentation of a depth. -/
def indented (depth : Nat) (lines : List String) : List String :=
  lines.map (indentation depth ++ ·)

/-- A comma after every line but the last. -/
def commaLines : List String → List String
  | [] => []
  | [line] => [line]
  | line :: rest => (line ++ ",") :: commaLines rest

namespace Decl

open SchemaGen.Text

/-- The line that maps one enumerator to its texts. The display text defaults to the value. -/
def infoLine (name : String) (e : Enumerator) : String :=
  let display := if e.displayText = "" then e.value else e.displayText
  "\t\x7b" ++ name ++ "::" ++ e.value ++ ", \x7b" ++ quoted e.value ++ ", " ++ quoted display
    ++ ", " ++ quoted e.description ++ "\x7d\x7d"

/-- An enumeration and the map of its texts. -/
def enumerationLines (name : String) (enumerators : List Enumerator) : List String :=
  ["enum class " ++ name ++ " \x7b"]
    ++ commaLines (enumerators.map fun e => "\t" ++ e.value)
    ++ ["\x7d;",
      "const static std::unordered_map<" ++ name ++ ", enum_info> " ++ name ++ "_info \x7b"]
    ++ commaLines (enumerators.map (infoLine name))
    ++ ["\x7d;"]

/-- The JSON strings of an enumeration. -/
def enumSerializationLines (name : String) (values : List String) : List String :=
  ["NLOHMANN_JSON_SERIALIZE_ENUM(" ++ name ++ ", \x7b"]
    ++ values.map (fun v => "\t\x7b" ++ name ++ "::" ++ v ++ ", " ++ quoted v ++ "\x7d,")
    ++ ["\x7d)"]

/-- The lines before the members of a class. -/
def structOpening (s : StructDecl) : List String :=
  let base := if s.superclass = "" then "" else " : public " ++ s.superclass
  (s.keyword ++ " " ++ s.name ++ base ++ " \x7b") :: (if s.isLookup then [] else ["public:"])

/-- The projection of lookup variables: one value for each of their lists. -/
def projectionLines (s : StructDecl) (members : List MemberDecl) : List String :=
  if s.isLookup then
    ["struct " ++ s.projectionName ++ " \x7b"]
      ++ members.map (fun m => "\t" ++ m.type.innerType ++ " " ++ m.name ++ ";")
      ++ ["\x7d;"]
  else []

/-- A function declaration. -/
def functionLines (f : FunctionDecl) : List String :=
  let head := f.returns ++ " " ++ f.name ++ "(" ++ ", ".intercalate f.args ++ ")"
  match f.kind with
  | .override => [head ++ " override;"]
  | .performanceOverload => ["using " ++ f.usingBase ++ "::" ++ f.name ++ ";", head ++ ";"]
  | .plain | .serialization => [head ++ ";"]

/-- The lines of a declaration before those nested in it, and the lines after them, given the data
members among the nested ones. Only namespaces and classes show what is nested in them. -/
def frame (members : List MemberDecl) : Decl → List String × List String
  | scope name => (["namespace " ++ name ++ " \x7b"], ["\x7d"])
  | typedef name target => (["typedef " ++ target ++ " " ++ name ++ ";"], [])
  | enumeration name enumerators => (enumerationLines name enumerators, [])
  | enumSerialization name values => (enumSerializationLines name values, [])
  | struct s => (structOpening s, "\x7d;" :: projectionLines s members)
  | member m => ([m.type.cppType ++ " " ++ m.name ++ ";"], [])
  | isSet element => (["bool " ++ element ++ "_is_set;"], [])
  | metaInfo name _ => (["const static " ++ metaInfoType ++ " " ++ name ++ ";"], [])
  | stored name type => (["static " ++ type ++ " " ++ name ++ ";"], [])
  | function f => (functionLines f, [])
  | counter enumerants =>
    (["enum \x7b"] ++ commaLines (enumerants.map ("\t" ++ ·)) ++ ["\x7d;"], [])

/-- Whether a declaration shows what is nested in it. -/
def showsNested : Decl → Bool
  | scope _ | struct _ => true
  | _ => false

end Decl

/-- The data members directly below a node. -/
def membersBelow (children : List (Tree (Placed Decl))) : List MemberDecl :=
  Decl.members (children.map (·.label.value))

mutual

/-- The lines of a declaration and of all that is nested in it. -/
def declLines : Tree (Placed Decl) → List String
  | .node p children =>
    let (opening, closing) := p.value.frame (membersBelow children)
    indented p.depth opening
      ++ (if p.value.showsNested then declLinesOf children else [])
      ++ indented p.depth closing

/-- The lines of several declarations, one after another. -/
def declLinesOf : List (Tree (Placed Decl)) → List String
  | [] => []
  | t :: ts => declLines t ++ declLinesOf ts

end

/-- The text of a declaration. -/
def renderDecl (t : Tree (Placed Decl)) : String :=
  "\n".intercalate (declLines t)

end SchemaGen
