import SchemaGen.Definition.Basic
import SchemaGen.Declaration.Render

/-!
# The text of definitions

Every definition is a list of lines, as every declaration is (`SchemaGen.Declaration.Render`); a
selected member without cases is one empty line. Names and types are read off the declarations that
the definitions point at, as these are when the text is made.
-/

set_option autoImplicit false

namespace SchemaGen

/-! ## Looking declarations up -/

/-- The name of a declaration; empty if there is none. Definitions are built for declarations that
are there. -/
def declName (decls : Forest Decl) (id : NodeId) : String :=
  ((decls.value? id).map (·.name)).getD ""

/-- The data members of a class as it is now. -/
def membersOf (decls : Forest Decl) (id : NodeId) : List MemberDecl :=
  Decl.members ((decls.children id).filterMap decls.value?)

/-- The data member at a node; one without name and type if there is none. -/
def memberAt (decls : Forest Decl) (id : NodeId) : MemberDecl :=
  ((decls.value? id).bind Decl.member?).getD { name := "", type := {} }

/-- The function at a node; one without name and type if there is none. -/
def functionAt (decls : Forest Decl) (id : NodeId) : FunctionDecl :=
  ((decls.value? id).bind Decl.function?).getD { name := "", returns := "" }

namespace Defn

open SchemaGen.Text

/-! ## Statements -/

/-- The argument of a definition: a default value belongs to the declaration only. -/
def plainArgument (arg : String) : String :=
  String.ofList (beforeFirst " = ".toList arg.toList)

/-- The first line of a function body. -/
def functionHead (decls : Forest Decl) (f : FunctionDecl) (owner : Option NodeId) : String :=
  let name := match owner with
    | some o => declName decls o ++ "::" ++ f.name
    | none => f.name
  f.returns ++ " " ++ name ++ "(" ++ ", ".intercalate (f.args.map plainArgument) ++ ") \x7b"

/-- The word for a truth value. -/
def boolText (b : Bool) : String :=
  if b then "true" else "false"

/-- Reads a member from JSON. -/
def fetchLine (m : MemberDecl) (access : Access) : String :=
  let target := access.accessor ++ m.name
  "json_get<" ++ m.type.cppType ++ ">(j, " ++ quoted m.name ++ ", " ++ target ++ ", " ++ target
    ++ "_is_set, " ++ boolText m.required ++ ");"

/-- The branch for one case of a selected member. -/
def branchLines (m : MemberDecl) (access : Access) (condition : String) (c : SelectorCase) :
    List String :=
  let target := access.accessor ++ m.name
  [condition ++ " (" ++ access.accessor ++ m.type.key ++ " == " ++ c.enumerator ++ ") \x7b",
    "\t" ++ target ++ " = " ++ m.name ++ "_factory::create(" ++ quoted c.type ++ ");",
    "\tif (" ++ target ++ ") \x7b",
    "\t\t" ++ target ++ "->initialize(j.at(" ++ quoted m.name ++ "));",
    "\t\x7d",
    "\x7d"]

/-- The branches of a selected member, in the order of its cases. -/
def ownedLines (m : MemberDecl) (access : Access) : List String :=
  match m.type.cases with
  | [] => []
  | c :: cs => branchLines m access "if" c ++ cs.flatMap (branchLines m access "else if")

/-- Hands a performance map to one of its members. -/
def populateLine (m : MemberDecl) : Access → String
  | .inside => m.name ++ ".populate_performance_map(this);"
  | .outside => Access.outside.accessor ++ m.name ++ ".populate_performance_map(&x);"

/-- The initializers of a projection: the result slots in order, cast to the member's type unless
it is the type of a slot. -/
def slots (members : List MemberDecl) : List String :=
  members.zipIdx.map fun (m, i) =>
    let slot := "v[" ++ i.repr ++ "]"
    if m.type.innerType = "double" then slot
    else "static_cast<" ++ m.type.innerType ++ ">(" ++ slot ++ ")"

/-- The initializers of the projection that a performance overload returns. -/
def overloadSlots (decls : Forest Decl) (f : FunctionDecl) : List String :=
  match f.lookup with
  | some id => slots (membersOf decls id)
  | none => []

/-- Evaluates a performance map and packs the result. -/
def overloadLines (decls : Forest Decl) (f : FunctionDecl) (result : String) : List String :=
  let projection := match f.lookup with
    | some id => declName decls id ++ "Struct"
    | none => ""
  ["std::vector<double> target \x7b" ++ ", ".intercalate f.argNames ++ "\x7d;",
    "auto v = " ++ f.usingBase
      ++ "::calculate_performance(target, performance_interpolation_method);",
    projection ++ " " ++ result ++ " \x7b" ++ ", ".intercalate (overloadSlots decls f) ++ "\x7d;"]

/-- Defines a static member. -/
def staticLine (decls : Forest Decl) (decl owner : NodeId) : String :=
  let qualified := declName decls owner ++ "::" ++ declName decls decl
  match decls.value? decl with
  | some (.metaInfo _ value) =>
    "const " ++ Decl.metaInfoType ++ " " ++ qualified ++ " = " ++ quoted value ++ ";"
  | some (.stored _ type) => type ++ " " ++ qualified ++ " \x7b\x7d;"
  | _ => "// " ++ qualified

/-- The lines of a definition before those nested in it, and the lines after them. Only namespaces
and functions show what is nested in them. -/
def frame (decls : Forest Decl) : Defn → List String × List String
  | scope d => (["namespace " ++ declName decls d ++ " \x7b"], ["\x7d"])
  | function d owner => ([functionHead decls (functionAt decls d) owner], ["\x7d"])
  | fetch d access => ([fetchLine (memberAt decls d) access], [])
  | owned d access => (ownedLines (memberAt decls d) access, [])
  | populate d access => ([populateLine (memberAt decls d) access], [])
  | axis d => (["add_grid_axis(performance_map, " ++ declName decls d ++ ");"], [])
  | finalize _ => (["performance_map->finalize_grid();"], [])
  | table d => (["add_data_table(performance_map, " ++ declName decls d ++ ");"], [])
  | overloadBody d result => (overloadLines decls (functionAt decls d) result, [])
  | giveBack _ value => (["return " ++ value ++ ";"], [])
  | initDelegation _ => (["x.initialize(j);"], [])
  | staticMember d owner => ([staticLine decls d owner], [])

/-- Whether a definition shows what is nested in it. -/
def showsNested : Defn → Bool
  | scope _ | function .. => true
  | _ => false

end Defn

/-- The given lines, or one empty line if there are none. -/
def orEmptyLine : List String → List String
  | [] => [""]
  | lines => lines

mutual

/-- The lines of a definition and of all that is nested in it. -/
def defnLines (decls : Forest Decl) : Tree (Placed Defn) → List String
  | .node p children =>
    let (opening, closing) := p.value.frame decls
    orEmptyLine (indented p.depth opening)
      ++ (if p.value.showsNested then defnLinesOf decls children else [])
      ++ indented p.depth closing

/-- The lines of several definitions, one after another. -/
def defnLinesOf (decls : Forest Decl) : List (Tree (Placed Defn)) → List String
  | [] => []
  | t :: ts => defnLines decls t ++ defnLinesOf decls ts

end

/-- The text of a definition. -/
def renderDefn (decls : Forest Decl) (t : Tree (Placed Defn)) : String :=
  "\n".intercalate (defnLines decls t)

end SchemaGen
