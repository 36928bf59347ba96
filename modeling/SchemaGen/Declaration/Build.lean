import SchemaGen.Declaration.Order
import SchemaGen.TypeExpr.Resolver
import SchemaGen.Preamble

/-!
# The declarations of a schema

From a schema to the tree of its header. The steps are: typedefs, enumerations, the metadata
class, a holder of the logger if no group can hold it, and a class for every group; then these are
put in order; then performance maps get their overloads, enumerations their JSON strings and groups
their readers, in file order, after all that was ordered.

Nodes are numbered once they are in order. The overload of a performance map refers to its lookup
variables by number, since names need not tell classes apart.
-/

set_option autoImplicit false

namespace SchemaGen

open SchemaGen.Text (headerName namespaceName selectorBase)

/-! ## Fixed parts of the generated code -/

/-- The base class of the root group when none is chosen. -/
def defaultRootBaseClass : String := "RSInstanceBase"

/-- The base class of grid variables. -/
def gridVariablesBase : String := "GridVariablesBase"

/-- The base class of lookup variables. -/
def lookupVariablesBase : String := "LookupVariablesBase"

/-- The base class of performance maps. -/
def performanceMapBase : String := "PerformanceMapBase"

/-- The shared logger of a schema. -/
def loggerDecl : Decl :=
  .stored "logger" "std::shared_ptr<Courierr::Courierr>"

/-- The last argument of every performance overload. -/
def interpolationArgument : String :=
  "Btwxt::InterpolationMethod performance_interpolation_method = Btwxt::InterpolationMethod::linear"

/-- The headers that every generated header includes, after those of its references. -/
def standardHeaders : List String :=
  ["string", "vector", "nlohmann/json.hpp", "typeinfo_205.h", "courierr/courierr.h"]

/-- What a caller decides about the declarations. -/
structure DeclOptions where
  /-- The outer namespace; empty for none. -/
  container : String := ""
  /-- The base class of the root group; empty for the default. -/
  rootBaseClass : String := ""
deriving Repr, DecidableEq, Inhabited

/-- The base class of the root group. -/
def DeclOptions.rootBase (o : DeclOptions) : String :=
  if o.rootBaseClass = "" then defaultRootBaseClass else o.rootBaseClass

/-! ## Groups -/

/-- The role of a group: the root role goes before the one that its type implies. -/
def groupRole (isRoot : Bool) (group : SchemaObject) : Role :=
  if isRoot then .root else group.type.role

/-- The base class that goes with a role; empty for none. -/
def baseClass (o : DeclOptions) : Role → String
  | .root => o.rootBase
  | .gridVariables => gridVariablesBase
  | .lookupVariables => lookupVariablesBase
  | .performanceMap => performanceMapBase
  | .plain => ""

/-- The class of a group. -/
def groupStruct (o : DeclOptions) (isRoot : Bool) (group : SchemaObject) : StructDecl where
  name := group.name
  superclass := baseClass o (groupRole isRoot group)
  role := groupRole isRoot group
  isLookup := groupRole isRoot group = .lookupVariables

/-- The virtual functions that a class of a role overrides. -/
def overrides : Role → List Decl
  | .root | .performanceMap =>
    [.function { kind := .override, name := "initialize", returns := "void"
                 args := ["const nlohmann::json& j"] }]
  | .gridVariables | .lookupVariables =>
    [.function { kind := .override, name := "populate_performance_map", returns := "void"
                 args := ["PerformanceMapBase* performance_map"] }]
  | .plain => []

/-- The data members of a group, their types resolved; the first type that means nothing is the
fault. -/
def resolveMembers (r : TypeExpr.Resolver) (group : SchemaObject) :
    List DataElement → Except Fault (List MemberDecl)
  | [] => .ok []
  | e :: es =>
    match r.resolve group e with
    | .error fault => .error fault
    | .ok type =>
      match resolveMembers r group es with
      | .error fault => .error fault
      | .ok members => .ok ({ name := e.name, type, required := e.required } :: members)

/-- What is declared in the class of a group, in order. -/
def groupMembers (isRoot : Bool) (group : SchemaObject) (members : List MemberDecl) : List Decl :=
  let es := group.elements
  overrides (groupRole isRoot group)
    ++ (if isRoot then [loggerDecl] else [])
    ++ (if groupRole isRoot group = .gridVariables then [.ofMembers (es.map (·.name))] else [])
    ++ members.map .member
    ++ es.map (fun e => .isSet e.name)
    ++ es.map (fun e => .metaInfo (e.name ++ "_units") e.units)
    ++ es.map (fun e => .metaInfo (e.name ++ "_description") e.description)
    ++ es.map (fun e => .metaInfo (e.name ++ "_name") e.name)

/-- The headers that the class of a group needs: its base class, the base of each selected member
and the schema that each sub-selection names. -/
def groupHeaders (s : StructDecl) (members : List MemberDecl) : List String :=
  (if s.superclass = "" then [] else [headerName s.superclass])
    ++ members.filterMap fun m =>
      match m.type.kind with
      | .selector => some (headerName (selectorBase m.name))
      | .nested => some (headerName m.type.subValue)
      | _ => none

/-- The class of a group and the headers it needs. -/
def buildGroup (o : DeclOptions) (r : TypeExpr.Resolver) (isRoot : Bool) (group : SchemaObject) :
    Except Fault (Tree Decl × List String) :=
  match resolveMembers r group group.elements with
  | .error fault => .error fault
  | .ok members =>
    let s := groupStruct o isRoot group
    .ok (.node (.struct s) ((groupMembers isRoot group members).map .leaf), groupHeaders s members)

/-- The classes of the groups of a schema, in file order, and the headers they need. -/
def buildGroups (o : DeclOptions) (r : TypeExpr.Resolver) (rootGroup : String) :
    List SchemaObject → Except Fault (List (Tree Decl) × List String)
  | [] => .ok ([], [])
  | group :: rest =>
    match buildGroup o r (group.name = rootGroup) group with
    | .error fault => .error fault
    | .ok (tree, headers) =>
      match buildGroups o r rootGroup rest with
      | .error fault => .error fault
      | .ok (trees, more) => .ok (tree :: trees, headers ++ more)

/-! ## The other declarations -/

/-- The class that holds the metadata of a schema. -/
def metadataTree (m : SchemaObject) : Tree Decl :=
  let stem := Text.lower m.name
  .node (.struct { name := m.name })
    [.leaf (.metaInfo (stem ++ "_title") m.metadata.title),
      .leaf (.metaInfo (stem ++ "_version") m.metadata.version),
      .leaf (.metaInfo (stem ++ "_description") m.metadata.description)]

/-- The class that holds the logger if no group has the name of the root group. -/
def loggerHolder (s : Schema) : List (Tree Decl) :=
  if (s.groupNamed? s.rootGroup).isSome then []
  else [.node (.struct { name := s.rootGroup }) [.leaf loggerDecl]]

/-- What comes before the groups: typedefs, enumerations, metadata and the logger's holder. -/
def leadingTrees (s : Schema) : List (Tree Decl) :=
  (s.objectsOfType [.stringType]).map (fun o => .leaf (.typedef o.name "std::string"))
    ++ (s.objectsOfType [.enumeration]).map (fun o => .leaf (.ofEnumerators o.name o.enumerators))
    ++ (s.objectsOfType [.metadata]).map metadataTree
    ++ loggerHolder s

/-- The JSON strings of every enumeration. Of enumerations of one name the last counts. -/
def enumSerializations (s : Schema) : List Decl :=
  let enums := s.objectsOfType [.enumeration]
  enums.map fun o =>
    let last := (enums.reverse.find? (·.name = o.name)).getD o
    .ofValues o.name (Decl.ofEnumerators last.name last.enumerators).values

/-! ## Performance overloads -/

/-- A class among its siblings. -/
structure ClassView where
  id : NodeId
  decl : StructDecl
  members : List MemberDecl
deriving Repr, Inhabited

/-- A declaration as a class, if it is one. -/
def classView? (t : Tree (Tree.Numbered Decl)) : Option ClassView :=
  t.label.value.struct?.map fun decl =>
    { id := t.label.id, decl, members := Decl.members (t.children.map (·.label.value)) }

/-- The first class of a role whose name is `suffix` once `stem` is taken off its front. -/
def siblingOfRole? (classes : List ClassView) (role : Role) (stem suffix : String) :
    Option ClassView :=
  classes.find? fun c => c.decl.role = role ∧ Text.dropStart c.decl.name stem = suffix

/-- The grid variables and the lookup variables that go with a performance map, by name. -/
def partners (classes : List ClassView) (map : String) : Option ClassView × Option ClassView :=
  let suffix := Text.dropStart map "PerformanceMap"
  (siblingOfRole? classes .gridVariables "GridVariables" suffix,
    siblingOfRole? classes .lookupVariables "LookupVariables" suffix)

/-- The overload of a performance map over these grid and lookup variables. -/
def performanceOverload (grid lookup : ClassView) : Decl :=
  let names := grid.members.map (·.name)
  .function
    { kind := .performanceOverload, name := "calculate_performance"
      returns := lookup.decl.projectionName
      args := names.map ("double " ++ ·) ++ [interpolationArgument]
      usingBase := performanceMapBase, argNames := names, lookup := some lookup.id }

/-- A declaration with the overload that is due to it, which gets the number `id`. -/
def addOverload (schema : String) (classes : List ClassView) (id : NodeId)
    (t : Tree (Tree.Numbered Decl)) : Report (Tree (Tree.Numbered Decl)) :=
  match t.label.value with
  | .struct s =>
    if s.role = .performanceMap then
      match partners classes s.name with
      | (some grid, some lookup) =>
        .done (t.extend [.leaf ⟨id, performanceOverload grid lookup⟩])
      | (grid, lookup) =>
        (Report.say (.overloadSkipped schema s.name grid.isSome lookup.isSome)).andThen fun _ =>
          .done t
    else .done t
  | _ => .done t

/-- Declarations with the overloads due to them; the overload of each gets a number of its own, from
`next` on. -/
def addOverloads (schema : String) (classes : List ClassView) (next : NodeId) :
    List (Tree (Tree.Numbered Decl)) → Report (List (Tree (Tree.Numbered Decl)))
  | [] => .done []
  | t :: ts =>
    (addOverload schema classes next t).andThen fun t =>
      (addOverloads schema classes (next + 1) ts).andThen fun ts => .done (t :: ts)

/-! ## The whole tree -/

/-- The finished declarations of a schema. -/
structure Declarations where
  /-- The number and the name of the outer namespace, if there is one. -/
  container : Option (NodeId × String)
  /-- The namespace of the schema. -/
  scope : Tree (Tree.Numbered Decl)
  /-- The name of the class that has the root role or holds the logger. -/
  rootGroup : String
  header : Preamble
deriving Repr, Inhabited

/-- The whole tree of the declarations. -/
def Declarations.tree (d : Declarations) : Tree (Tree.Numbered Decl) :=
  match d.container with
  | some (id, name) => .node ⟨id, .scope name⟩ [d.scope]
  | none => d.scope

/-- Numbers declarations without children from `next` on. -/
def numberLeaves (next : NodeId) (ds : List Decl) : List (Tree (Tree.Numbered Decl)) :=
  ds.zipIdx.map fun (d, i) => .leaf ⟨next + i, d⟩

/-- The namespace of a schema from its ordered declarations: numbers, overloads, JSON strings of
enumerations and readers of groups. Gives the first number not used, too. -/
def finishScope (s : Schema) (ordered : List (Tree Decl)) :
    Report (Tree (Tree.Numbered Decl) × NodeId) :=
  let (numbered, next) := Tree.numberAll 1 ordered
  (addOverloads s.name (numbered.filterMap classView?) next numbered).andThen fun children =>
    let next := next + numbered.length
    let trailing := enumSerializations s ++ s.groups.map (fun g => .fromJson g.name)
    .done (.node ⟨0, .scope (namespaceName s.name)⟩ (children ++ numberLeaves next trailing),
      next + trailing.length)

/-- The declarations of a schema whose names a catalog resolves. A schema of the container's own
name has no container.

The program asserts first that the schema has a name, and a schema file whose name is nothing but
the extension ends it there. The assertion is left out here: declarations are built for the empty
name like for any other. -/
def buildDeclarations (c : Catalog) (s : Schema) (o : DeclOptions) : Report Declarations :=
  match buildGroups o ⟨c, s⟩ s.rootGroup s.groups with
  | .error fault => .fail fault
  | .ok (groups, headers) =>
    (Report.say (.groupsDeclared s.name s.groups.length)).andThen fun _ =>
    (orderTrees (namespaceName s.name) (leadingTrees s ++ groups)).andThen fun ordered =>
    (finishScope s ordered).andThen fun (scope, next) =>
    .done
      { container := if o.container = "" ∨ o.container = s.name then none
          else some (next, o.container)
        scope, rootGroup := s.rootGroup
        header := ({} : Preamble).addHeaders
          (s.references.map headerName ++ standardHeaders ++ headers) }

end SchemaGen
