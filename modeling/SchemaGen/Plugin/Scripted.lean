import SchemaGen.Plugin.Builtin

/-!
# Scripted plugins

Plugins whose hooks are chosen from a fixed list of actions, by name. Some add a node, as a plugin
should; some fail; some break what they are given. They are for trying out how a registry deals
with each.
-/

set_option autoImplicit false

namespace SchemaGen

/-- A plugin by script. -/
structure PluginScript where
  name : String := ""
  role : Role := .plain
  /-- The action of the class hook. -/
  onClass : String := ""
  /-- The action of the function hook. -/
  onFunction : String := ""
deriving Repr, DecidableEq, Inhabited

namespace PluginScript

/-- The complaint of a hook that is to fail. -/
def failure (w : World) : Act :=
  (w, .error (.pluginComplaint "scripted failure"))

/-- Adds declarations with this value below a node, as many as said. -/
def createMany (d : Decl) (parent : NodeId) : Nat → Forest Decl → Forest Decl
  | 0, f => f
  | n + 1, f => createMany d parent n (f.create (some parent) d).1

/-- Adds definitions with this value below a node, as many as said. -/
def createManyDefns (d : Defn) (parent : NodeId) : Nat → Forest Defn → Forest Defn
  | 0, f => f
  | n + 1, f => createManyDefns d parent n (f.create (some parent) d).1

/-- Turns the children of a declaration around. -/
def reverseChildren (w : World) (node : NodeId) : Act :=
  w.reorderChildren node (w.decls.children node).reverse

/-- What the class hook does. -/
def runOnClass (s : PluginScript) (target : NodeId) (w : World) : Act :=
  match s.onClass with
  | "marker" => appendNew target (.metaInfo (s.name ++ "_marker") (declName w.decls target)) w
  | "struct" => appendNew target (.struct { name := s.name ++ "Inner", role := s.role }) w
  | "counter" => appendNew target (.ofMembers [s.name]) w
  | "fail" => failure w
  | "nil" => w.append (some target) none
  | "attached" => w.append (some target) (w.decls.children target).head?
  | "reverse" => reverseChildren w target
  | "reverse_parent" =>
    match w.decls.parent? target with
    | some parent => reverseChildren w parent
    | none => (w, .ok ())
  | "wipe" => ({ w with decls := w.decls.isolate target }, .ok ())
  | "replace" =>
    let count := (w.decls.children target).length
    ({ w with decls := createMany (.typedef s.name "int") target count (w.decls.isolate target) },
      .ok ())
  | _ => (w, .ok ())

/-- Adds a new definition below a function body. -/
def appendNewDefn (definition : NodeId) (d : Defn) (w : World) : Act :=
  let (defns, id) := w.defns.create none d
  { w with defns }.appendDefn (some definition) (some id)

/-- What the function hook does. -/
def runOnFunction (s : PluginScript) (owner definition : NodeId) (w : World) : Act :=
  let function := (w.defns.value? definition).bind Defn.decl?
  match s.onFunction with
  | "marker" =>
    let value := (function.map (declName w.decls)).getD ""
    let (decls, id) := w.decls.create none (.metaInfo (s.name ++ "_impl_marker") value)
    appendNewDefn definition (.staticMember id owner) { w with decls }
  | "fail" => failure w
  | "nil" => w.appendDefn (some definition) none
  | "no_decl" => appendNewDefn definition (.giveBack none s.name) w
  | "attached" => w.appendDefn (some definition) (w.defns.children definition).head?
  | "wipe" => ({ w with defns := w.defns.isolate definition }, .ok ())
  | "replace" =>
    let count := (w.defns.children definition).length
    let d := .giveBack function s.name
    ({ w with defns := createManyDefns d definition count (w.defns.isolate definition) }, .ok ())
  | _ => (w, .ok ())

/-- The plugin that a script describes. -/
def plugin (s : PluginScript) : Plugin where
  name := s.name
  role := s.role
  extendClass := s.runOnClass
  extendFunction := s.runOnFunction

end PluginScript

end SchemaGen
