import SchemaGen.Definition.Basic
import SchemaGen.Declaration.Build

/-!
# The definitions of a schema

From the finished declarations to the tree of the source file: every static member and every
function that is declared gets its definition, in the order of the declarations.

A group is read from JSON by one function. It is the member function `initialize` if the class
overrides it, and the free function then passes on to it; it is the free function otherwise.
-/

set_option autoImplicit false

namespace SchemaGen

open SchemaGen.Text (headerName)

/-! ## What a declaration tree offers -/

/-- The data members of a class, with their numbers. -/
def numberedMembers (t : Tree (Tree.Numbered Decl)) : List (NodeId × MemberDecl) :=
  t.children.filterMap fun c => c.label.value.member?.map fun m => (c.label.id, m)

/-- The functions of a class, with their numbers. -/
def numberedFunctions (t : Tree (Tree.Numbered Decl)) : List (NodeId × FunctionDecl) :=
  t.children.filterMap fun c => c.label.value.function?.map fun f => (c.label.id, f)

/-- The role of a class; the plain one for all else. -/
def roleOf (t : Tree (Tree.Numbered Decl)) : Role :=
  (t.label.value.struct?.map (·.role)).getD .plain

/-- Whether a function is the override that reads a group from JSON. -/
def FunctionDecl.isInitialize (f : FunctionDecl) : Bool :=
  f.kind = .override ∧ f.name = "initialize"

/-- Whether a function is the override that enters variables into a performance map. -/
def FunctionDecl.isPopulate (f : FunctionDecl) : Bool :=
  f.kind = .override ∧ f.name = "populate_performance_map"

/-! ## Reading a group -/

/-- Whether a member's type is a group of grid or lookup variables, anywhere in the catalog. -/
def isPerformanceVariables (c : Catalog) (type : TypeDescriptor) : Bool :=
  type.kind = .simple && type.origin ≠ "" &&
    match c.object? (String.ofList (Text.afterLast "::".toList type.name.toList)) with
    | some o => o.type = .gridVariables || o.type = .lookupVariables
    | none => false

/-- The statement that reads one member. -/
def readStatement (access : Access) (m : NodeId × MemberDecl) : Defn :=
  if m.2.type.isOwning then .owned m.1 access else .fetch m.1 access

/-- The statements that read a group: its members in order. A performance map then hands itself to
its grid and lookup variables. -/
def readStatements (c : Catalog) (group : Tree (Tree.Numbered Decl)) (access : Access) :
    List Defn :=
  let members := numberedMembers group
  members.map (readStatement access)
    ++ if roleOf group = .performanceMap then
        (members.filter (isPerformanceVariables c ·.2.type)).map (.populate ·.1 access)
      else []

/-- The headers that reading a group needs: a factory for each selected member. -/
def readHeaders (group : Tree (Tree.Numbered Decl)) : List String :=
  ((numberedMembers group).filter (·.2.type.isOwning)).map (·.2.name ++ "_factory.h")

/-- The statements that enter the variables of a class into a performance map. -/
def populateStatements (group : Tree (Tree.Numbered Decl)) (function : NodeId) : List Defn :=
  match roleOf group with
  | .gridVariables => (numberedMembers group).map (.axis ·.1) ++ [.finalize function]
  | .lookupVariables => (numberedMembers group).map (.table ·.1)
  | _ => []

/-! ## Definitions of a class -/

/-- A function body and the headers it needs. -/
def functionTree (decl : NodeId) (owner : Option NodeId) (body : List Defn) : Tree Defn :=
  .node (.function decl owner) (body.map .leaf)

/-- The definition of a member function and the headers it needs. Functions of other kinds are not
defined. -/
def defineFunction? (c : Catalog) (group : Tree (Tree.Numbered Decl))
    (f : NodeId × FunctionDecl) : Option (Tree Defn × List String) :=
  let owner := some group.label.id
  if f.2.isInitialize then
    some (functionTree f.1 owner (readStatements c group .inside), readHeaders group)
  else if f.2.isPopulate then
    some (functionTree f.1 owner (populateStatements group f.1), [])
  else if f.2.kind = .performanceOverload then
    some (functionTree f.1 owner [.overloadBody f.1 "s", .giveBack (some f.1) "s"], [])
  else none

/-- The static members of a class, with their definitions. -/
def staticDefinitions (group : Tree (Tree.Numbered Decl)) : List (Tree Defn) :=
  group.children.filterMap fun child =>
    match child.label.value with
    | .metaInfo .. | .stored .. => some (.leaf (.staticMember child.label.id group.label.id))
    | _ => none

/-- What one declaration of a namespace asks for in the source file. -/
structure DefinitionBatch where
  trees : List (Tree Defn) := []
  headers : List String := []
  /-- How many of the trees are function bodies. -/
  functions : Nat := 0
deriving Inhabited

/-- The definitions of a class: its static members, then its functions. -/
def defineClass (c : Catalog) (group : Tree (Tree.Numbered Decl)) : DefinitionBatch :=
  let functions := (numberedFunctions group).filterMap (defineFunction? c group)
  { trees := staticDefinitions group ++ functions.map (·.1)
    headers := functions.flatMap (·.2)
    functions := functions.length }

/-- The definition of the free function that reads the group `target`. -/
def defineReader (c : Catalog) (function : NodeId) (target : Tree (Tree.Numbered Decl)) :
    DefinitionBatch :=
  if (numberedFunctions target).any (·.2.isInitialize) then
    { trees := [functionTree function none [.initDelegation function]], functions := 1 }
  else
    { trees := [functionTree function none (readStatements c target .outside)]
      headers := readHeaders target, functions := 1 }

/-- The last class of a name. -/
def classNamed? (children : List (Tree (Tree.Numbered Decl))) (name : String) :
    Option (Tree (Tree.Numbered Decl)) :=
  children.reverse.find? fun t =>
    match t.label.value with
    | .struct s => s.name = name
    | _ => false

/-- The definitions that one declaration of a namespace asks for. -/
def define (c : Catalog) (siblings : List (Tree (Tree.Numbered Decl)))
    (t : Tree (Tree.Numbered Decl)) : Except Fault DefinitionBatch :=
  match t.label.value with
  | .struct _ => .ok (defineClass c t)
  | .function f =>
    if f.kind = .serialization then
      match classNamed? siblings f.target with
      | some target => .ok (defineReader c t.label.id target)
      | none => .error (.unknownTarget f.target)
    else .ok {}
  | _ => .ok {}

/-- The definitions that several declarations ask for, in order. -/
def defineAll (c : Catalog) (siblings : List (Tree (Tree.Numbered Decl))) :
    List (Tree (Tree.Numbered Decl)) → Except Fault DefinitionBatch
  | [] => .ok {}
  | t :: ts =>
    match define c siblings t with
    | .error fault => .error fault
    | .ok first =>
      match defineAll c siblings ts with
      | .error fault => .error fault
      | .ok rest => .ok
          { trees := first.trees ++ rest.trees, headers := first.headers ++ rest.headers
            functions := first.functions + rest.functions }

/-! ## The whole tree -/

/-- The definitions of a schema. -/
structure Definitions where
  /-- The whole tree; its outermost node is the namespace of the container, if there is one. -/
  tree : Tree Defn
  source : Preamble
deriving Inhabited

/-- The definitions that go with a namespace of declarations. The source file includes the schema's
own header first. -/
def buildDefinitions (c : Catalog) (schemaName : String) (container : Option NodeId)
    (scope : Tree (Tree.Numbered Decl)) : Report Definitions :=
  match defineAll c scope.children scope.children with
  | .error fault => .fail fault
  | .ok batch =>
    let inner := Tree.node (.scope scope.label.id) batch.trees
    (Report.say (.definitionsBuilt schemaName batch.functions)).andThen fun _ =>
    .done
      { tree := match container with
          | some id => .node (.scope id) [inner]
          | none => inner
        source := ({} : Preamble).addHeaders (headerName schemaName :: batch.headers) }

end SchemaGen
