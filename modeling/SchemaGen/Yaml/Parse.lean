import SchemaGen.Yaml.Node
import SchemaGen.Yaml.Scan

/-!
# From tokens to a document

A text may hold several documents; only the first is read, and what follows it does not have to be
well-formed. Where a node is missing, an empty scalar stands for it.

A node is read with two permissions: block collections are allowed in blocks only, and a sequence
without indentation of its own only as part of a mapping.
-/

set_option autoImplicit false

namespace SchemaGen.Yaml

/-- The state of reading a document. -/
structure Reading where
  tokens : List Token
  /-- The tag shorthands in force. -/
  shorthands : List (String × String) := []
  /-- The number of the part that an anchor names now, the last one first. -/
  anchors : List (String × Nat) := []
  /-- The anchored parts that are complete. -/
  anchored : List (Nat × Node) := []
  /-- The number of the next anchored part. -/
  next : Nat := 0
deriving Inhabited

/-- A step of reading, which may fail. -/
abbrev Reader := StateT Reading Option

/-- The properties of a node. -/
structure Properties where
  anchor : Option String := none
  tag : Option String := none
deriving Inhabited

namespace Reader

/-- The next token; there is none where the text is malformed. -/
def peek : Reader Token := do
  match (← get).tokens with
  | t :: _ => pure t
  | [] => failure

/-- Past the next token. -/
def drop : Reader Unit :=
  modify fun s => { s with tokens := s.tokens.tail }

/-- A scalar that is not there. -/
def emptyScalar : Node :=
  .scalar .null ""

/-! ## Properties -/

/-- The full name of a tag. -/
def tagName (handle suffix : String) : Reader String := do
  if handle == "" then pure suffix
  else match (← get).shorthands.lookup handle with
    | some expansion => pure (expansion ++ suffix)
    | none => failure

/-- The tag of the node, if the next token is one. -/
def readTag? : Reader (Option (String × String)) := do
  match ← peek with
  | .tag handle suffix =>
    drop
    pure (some (handle, suffix))
  | _ => pure none

/-- The anchor of the node, if the next token is one. -/
def readAnchor? : Reader (Option String) := do
  match ← peek with
  | .anchor name =>
    drop
    pure (some name)
  | _ => pure none

/-- The properties of a node, in either order. -/
def properties : Reader Properties := do
  let first ← readAnchor?
  let tag ← readTag?
  let anchor ← if first.isNone && tag.isSome then readAnchor? else pure first
  match tag with
  | some (handle, suffix) => pure { anchor, tag := some (← tagName handle suffix) }
  | none => pure { anchor }

/-- Gives an anchor a number, from which on it names the part to come. -/
def declareAnchor (anchor : Option String) : Reader (Option Nat) := do
  match anchor with
  | none => pure none
  | some name =>
    let s ← get
    set { s with anchors := (name, s.next) :: s.anchors, next := s.next + 1 }
    pure (some s.next)

/-- Keeps a complete part under its number. -/
def keep (number : Option Nat) (n : Node) : Reader Node := do
  if let some k := number then
    modify fun s => { s with anchored := (k, n) :: s.anchored }
  pure n

/-- What an alias stands for. -/
def aliasNode (name : String) : Reader Node := do
  match (← get).anchors.lookup name with
  | some target => pure (.aliasOf name target)
  | none => failure

/-- The tag of a scalar. The lone mark as a tag leaves it to the style, as no tag does. -/
def scalarTag (tag : Option String) (style : ScalarStyle) (text : String) : Tag :=
  match tag with
  | none | some "!" => if style == .plain then .ofPlain text else .text
  | some name => .ofName name

/-! ## Nodes -/

/-- Where a node stands, as far as its end depends on it. -/
def endsBlockItem (indentless : Bool) : Token → Bool
  | .blockEntry | .blockEnd => true
  | .key | .value => indentless
  | _ => false

/-- Whether a key or a value of a block mapping is missing before a token. -/
def endsBlockPart : Token → Bool
  | .key | .value | .blockEnd => true
  | _ => false

/-- Whether the value of a flow entry is missing before a token. -/
def endsFlowPart (closing : Token) (t : Token) : Bool :=
  t == .flowEntry || t == closing

/-- Reads the comma before an entry of a flow collection that is not the first. Whether there was
no need for one, or it was there. -/
def separator (first : Bool) : Reader Unit := do
  if !first then
    if (← peek) == .flowEntry then drop else failure

mutual

/-- Reads a node. -/
def node (fuel : Nat) (block indentless : Bool) : Reader Node :=
  match fuel with
  | 0 => failure
  | fuel + 1 => do
    if let .aliasOf name ← peek then
      drop
      aliasNode name
    else
      let p ← properties
      let number ← declareAnchor p.anchor
      match ← peek, block with
      | .blockEntry, _ =>
        if indentless then keep number (.sequence (← blockItems fuel true))
        else emptyOr p number
      | .scalar style text, _ =>
        drop
        keep number (.scalar (scalarTag p.tag style text) text)
      | .flowSequence, _ =>
        drop
        keep number (.sequence (← flowItems fuel true))
      | .flowMapping, _ =>
        drop
        keep number (.mapping (← flowPairs fuel true))
      | .blockSequence, true =>
        drop
        keep number (.sequence (← blockItems fuel false))
      | .blockMapping, true =>
        drop
        keep number (.mapping (← blockPairs fuel))
      | _, _ => emptyOr p number

/-- A node of which there are only properties; without any there is no node. -/
def emptyOr (p : Properties) (number : Option Nat) : Reader Node :=
  if p.anchor.isNone && p.tag.isNone then failure
  else keep number (.scalar (scalarTag p.tag .plain "") "")

/-- Reads a node, or nothing where `missing` says that it is left out. -/
def nodeUnless (fuel : Nat) (block indentless : Bool) (missing : Token → Bool) : Reader Node :=
  match fuel with
  | 0 => failure
  | fuel + 1 => do
    if missing (← peek) then pure emptyScalar else node fuel block indentless

/-- Reads the entries of a block sequence, one that has indentation of its own up to its end. -/
def blockItems (fuel : Nat) (indentless : Bool) : Reader (List Node) :=
  match fuel with
  | 0 => failure
  | fuel + 1 => do
    match ← peek with
    | .blockEntry =>
      drop
      let item ← nodeUnless fuel true false (endsBlockItem indentless)
      let more ← blockItems fuel indentless
      pure (item :: more)
    | t =>
      if indentless then pure []
      else if t == .blockEnd then
        drop
        pure []
      else failure

/-- Reads the entries of a block mapping. -/
def blockPairs (fuel : Nat) : Reader (List (Node × Node)) :=
  match fuel with
  | 0 => failure
  | fuel + 1 => do
    match ← peek with
    | .key =>
      drop
      let key ← nodeUnless fuel true true endsBlockPart
      let value ← valueUnless fuel true endsBlockPart
      let more ← blockPairs fuel
      pure ((key, value) :: more)
    | .blockEnd =>
      drop
      pure []
    | _ => failure

/-- Reads the value after a key, or nothing if no colon follows. -/
def valueUnless (fuel : Nat) (block : Bool) (missing : Token → Bool) : Reader Node :=
  match fuel with
  | 0 => failure
  | fuel + 1 => do
    if (← peek) == .value then
      drop
      nodeUnless fuel block block missing
    else pure emptyScalar

/-- Reads the entries of a flow sequence. An entry may be a mapping of one key. -/
def flowItems (fuel : Nat) (first : Bool) : Reader (List Node) :=
  match fuel with
  | 0 => failure
  | fuel + 1 => do
    if (← peek) == .flowSequenceEnd then
      drop
      pure []
    else
      separator first
      match ← peek with
      | .flowSequenceEnd =>
        drop
        pure []
      | .key =>
        drop
        let item ← flowPair fuel
        let more ← flowItems fuel false
        pure (item :: more)
      | _ =>
        let item ← node fuel false false
        let more ← flowItems fuel false
        pure (item :: more)

/-- Reads an entry of a flow sequence that is a mapping of one key. Where the key is left out, what
follows in its place is skipped. -/
def flowPair (fuel : Nat) : Reader Node :=
  match fuel with
  | 0 => failure
  | fuel + 1 => do
    let next ← peek
    let key ← if next == .value || endsFlowPart .flowSequenceEnd next then do
        drop
        pure emptyScalar
      else node fuel false false
    let value ← valueUnless fuel false (endsFlowPart .flowSequenceEnd)
    let _ ← peek
    pure (.mapping [(key, value)])

/-- Reads the entries of a flow mapping. -/
def flowPairs (fuel : Nat) (first : Bool) : Reader (List (Node × Node)) :=
  match fuel with
  | 0 => failure
  | fuel + 1 => do
    if (← peek) == .flowMappingEnd then
      drop
      pure []
    else
      separator first
      match ← peek with
      | .flowMappingEnd =>
        drop
        pure []
      | .key =>
        drop
        let key ← nodeUnless fuel false false fun t =>
          t == .value || endsFlowPart .flowMappingEnd t
        let value ← valueUnless fuel false (endsFlowPart .flowMappingEnd)
        let more ← flowPairs fuel false
        pure ((key, value) :: more)
      | _ =>
        let key ← node fuel false false
        let _ ← peek
        let more ← flowPairs fuel false
        pure ((key, emptyScalar) :: more)

end

/-! ## Documents -/

/-- Reads the directives before a document: at most one version, which must be the one understood,
and at most one shorthand for a handle. -/
def directives : (fuel : Nat) → (versionSeen : Bool) → Reader Unit
  | 0, _ => failure
  | fuel + 1, versionSeen => do
    match ← peek with
    | .version major minor =>
      if versionSeen || (major, minor) != (1, 1) then failure
      else
        drop
        directives fuel true
    | .shorthand handle expansion =>
      let s ← get
      if (s.shorthands.lookup handle).isSome then failure
      else
        set { s with shorthands := s.shorthands ++ [(handle, expansion)] }
        drop
        directives fuel versionSeen
    | _ => pure ()

/-- The shorthands that need no directive. -/
def standardShorthands : List (String × String) :=
  [("!", "!"), ("!!", Tag.coreStart)]

/-- Reads the content of a document after its start marker. -/
def content (fuel : Nat) : Reader Node := do
  match ← peek with
  | .version .. | .shorthand .. | .documentStart | .documentEnd | .streamEnd => pure emptyScalar
  | _ => node fuel true false

/-- Reads the first document, if there is one. -/
def document (fuel : Nat) : Reader (Option Node) := do
  match ← peek with
  | .streamEnd => pure none
  | first =>
    let isExplicit := match first with
      | .version .. | .shorthand .. | .documentStart => true
      | _ => false
    directives fuel false
    modify fun s => { s with shorthands := s.shorthands ++ standardShorthands }
    let root ← if isExplicit then do
        if (← peek) == .documentStart then
          drop
          content fuel
        else failure
      else node fuel true false
    let _ ← peek
    pure (some root)

end Reader

/-- Reads the first document of a text: `none` if the text is malformed up to its end, `some none`
if there is no document. -/
def parse (text : String) : Option (Option Document) := do
  let tokens ← tokens text
  let (root, s) ← (Reader.document (4 * tokens.length + 8)).run { tokens }
  some (root.map fun root => { root, anchored := s.anchored, bound := 4 * tokens.length + 8 })

end SchemaGen.Yaml
