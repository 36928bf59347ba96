import SchemaGen.Yaml.Property

/-!
# From a text to its tokens

Tokens are found one step at a time. What makes YAML hard to cut up is that a key is only known to
be one at the colon after it: a node that may turn out to be a key is remembered as pending, and at
the colon the tokens that announce it are put in front of it.

A malformed text still has the tokens before the place where reading fails, and a document that ends
before that place can be read. Not all of them count, though. A token is settled only when two more
follow it and it is no pending key, and `tokens` gives the settled ones: those of a malformed text
do not end in `streamEnd`.
-/

set_option autoImplicit false

namespace SchemaGen.Yaml

/-- The start of a node that may turn out to be a key. -/
structure PendingKey where
  /-- How many tokens stand before it. -/
  number : Nat
  /-- Whether the block it stands in leaves it no choice but to be a key. -/
  required : Bool
  line : Nat
  column : Nat
  index : Nat
deriving Inhabited

/-- A key stands on one line, and its colon is at most this many characters away. -/
def keyReach : Nat := 1024

/-- Whether a pending key can no longer become one. -/
def PendingKey.isStale (k : PendingKey) (c : Cursor) : Bool :=
  k.line < c.line || k.index + keyReach < c.index

/-- The state of cutting a text into tokens. -/
structure Scan where
  cursor : Cursor
  /-- The tokens so far, the last one first. -/
  tokens : List Token := []
  count : Nat := 0
  /-- The column of the innermost block; before any block it is one left of the first. -/
  indent : Int := -1
  /-- The columns of the blocks around it. -/
  outer : List Int := []
  /-- The pending key of the innermost flow collection, or of the block if there is none. -/
  pending : Option PendingKey := none
  /-- The pending keys around the innermost flow collection. -/
  enclosing : List (Option PendingKey) := []
  /-- Whether a key may start here. -/
  keyAllowed : Bool := true
deriving Inhabited

namespace Scan

/-! ## Tokens, blocks and keys -/

/-- Whether a flow collection is open. -/
def inFlow (s : Scan) : Bool :=
  !s.enclosing.isEmpty

/-- Adds a token. -/
def emit (s : Scan) (t : Token) : Scan :=
  { s with tokens := t :: s.tokens, count := s.count + 1 }

/-- Adds a token and moves on. -/
def emitAt (s : Scan) (t : Token) (c : Cursor) : Scan :=
  { s.emit t with cursor := c }

/-- Puts a token where `number` tokens stand before it. -/
def insert (s : Scan) (number : Nat) (t : Token) : Scan :=
  let after := s.count - number
  { s with tokens := s.tokens.take after ++ t :: s.tokens.drop after, count := s.count + 1 }

/-- Opens a block at a column if that lies right of the innermost block. Its token is put where
`number` tokens stand before it. -/
def openBlock (s : Scan) (column number : Nat) (t : Token) : Scan :=
  if s.inFlow || s.indent ≥ column then s
  else { s.insert number t with indent := column, outer := s.indent :: s.outer }

/-- Closes the innermost blocks that lie right of a column; `outer` are the blocks around them. -/
def closeOver (column : Int) : (outer : List Int) → Scan → Scan
  | [], s => s
  | o :: os, s =>
    if s.indent > column then
      closeOver column os { s.emit .blockEnd with indent := o, outer := os }
    else s

/-- Closes the blocks that lie right of a column, unless a flow collection is open. -/
def closeBlocks (s : Scan) (column : Int) : Scan :=
  if s.inFlow then s else closeOver column s.outer s

/-- Gives up on the pending key; one that is required must not be given up. -/
def dropKey (s : Scan) : Option Scan :=
  match s.pending with
  | some k => if k.required then none else some { s with pending := none }
  | none => some s

/-- Remembers that a key may start here, if one may. -/
def saveKey (s : Scan) : Option Scan :=
  if s.keyAllowed then
    let key : PendingKey :=
      { number := s.count, required := !s.inFlow && s.indent == s.cursor.column
        line := s.cursor.line, column := s.cursor.column, index := s.cursor.index }
    s.dropKey.map ({ · with pending := some key })
  else some s

/-! ## Between tokens -/

/-- From the end of one comment to the start of the next, if nothing else stands between them. -/
def toComment : (fuel : Nat) → Cursor → Cursor
  | 0, c => c
  | fuel + 1, c =>
    if c.atBreak then toComment fuel c.skipBreak
    else if c.atGap then toComment fuel c.next
    else c

/-- Whether a comment follows the end of this line with nothing but empty lines before it. -/
def commentFollows : List Char → Bool
  | [] => false
  | c :: rest =>
    (c == '\n' || c == '\r') &&
      (rest.dropWhile fun x => isGap x || x == '\n' || x == '\r').head? == some '#'

/-- Past a comment and those that follow it. -/
def skipComments : (fuel : Nat) → Cursor → Cursor
  | 0, c => c
  | fuel + 1, c =>
    let c := c.skipToLineEnd
    if commentFollows c.rest then skipComments fuel (toComment c.rest.length c) else c

/-- Past spaces, comments and line ends. In a block, tabs do not count as space where a key may
start, and a new line is where one may. -/
def skipSpace : (fuel : Nat) → Scan → Scan
  | 0, s => s
  | fuel + 1, s =>
    let c := if s.cursor.column == 0 && s.cursor.isAt byteOrderMark then s.cursor.next else s.cursor
    let tabs := s.inFlow || !s.keyAllowed
    let c := c.skipWhile fun x => x == ' ' || (tabs && x == '\t')
    let c := if c.isAt '#' then skipComments c.rest.length c else c
    if c.atBreak then
      skipSpace fuel { s with cursor := c.skipBreak, keyAllowed := s.keyAllowed || !s.inFlow }
    else { s with cursor := c }

/-- Past a comment on the line of the token just read. A comment after the dash of an entry belongs
to what follows, and is left. -/
def skipLineComment (s : Scan) : Scan :=
  if s.cursor.fresh || s.tokens.head? == some .blockEntry then s
  else
    let c := s.cursor.skipGaps
    if c.isAt '#' then { s with cursor := c.skipToLineEnd } else s

/-! ## Steps -/

/-- The end of the text: closes all blocks. -/
def endStream (s : Scan) : Option Scan :=
  let c := s.cursor
  let c := if c.column == 0 then c else { c with column := 0, line := c.line + 1 }
  let s := { s with cursor := c }
  (s.closeBlocks (-1)).dropKey.map fun s =>
    { s with keyAllowed := false }.emit .streamEnd

/-- A directive. -/
def directive (s : Scan) : Option Scan := do
  let s ← (s.closeBlocks (-1)).dropKey
  let (token, c) ← readDirective s.cursor
  some ({ s with keyAllowed := false }.emitAt token c)

/-- The start or the end of a document. -/
def marker (s : Scan) (t : Token) : Option Scan :=
  (s.closeBlocks (-1)).dropKey.map fun s =>
    { s with keyAllowed := false }.emitAt t (s.cursor.skip 3)

/-- The start of a flow collection, which may be a key. -/
def flowStart (s : Scan) (t : Token) : Option Scan :=
  s.saveKey.map fun s =>
    { s with keyAllowed := true, pending := none, enclosing := s.pending :: s.enclosing }.emitAt t
      s.cursor.next

/-- The end of a flow collection. -/
def flowEnd (s : Scan) (t : Token) : Option Scan :=
  s.dropKey.map fun s =>
    let s := match s.enclosing with
      | [] => s
      | k :: ks => { s with pending := k, enclosing := ks }
    { s with keyAllowed := false }.emitAt t s.cursor.next

/-- The comma between entries. -/
def flowEntry (s : Scan) : Option Scan :=
  s.dropKey.map fun s => { s with keyAllowed := true }.emitAt .flowEntry s.cursor.next

/-- The dash of an entry. -/
def blockEntry (s : Scan) : Option Scan :=
  if !s.inFlow && !s.keyAllowed then none
  else (s.openBlock s.cursor.column s.count .blockSequence).dropKey.map fun s =>
    { s with keyAllowed := true }.emitAt .blockEntry s.cursor.next

/-- The question mark of a key. -/
def keyMark (s : Scan) : Option Scan :=
  if !s.inFlow && !s.keyAllowed then none
  else (s.openBlock s.cursor.column s.count .blockMapping).dropKey.map fun s =>
    { s with keyAllowed := !s.inFlow }.emitAt .key s.cursor.next

/-- The colon of a value. It makes a pending key that is not stale a key. -/
def valueMark (s : Scan) : Option Scan :=
  match s.pending.filter fun k => k.required || !k.isStale s.cursor with
  | some k =>
    if k.isStale s.cursor then none
    else
      let s := (s.insert k.number .key).openBlock k.column k.number .blockMapping
      some ({ s with pending := none, keyAllowed := false }.emitAt .value s.cursor.next)
  | none =>
    if !s.inFlow && !s.keyAllowed then none
    else
      let s := s.openBlock s.cursor.column s.count .blockMapping
      some ({ s with pending := none, keyAllowed := !s.inFlow }.emitAt .value s.cursor.next)

/-- Something that may be a key or stand before one: an alias, a property or a scalar. -/
def keyPart (s : Scan) (read : Cursor → Option (Token × Cursor)) : Option Scan := do
  let s ← s.saveKey
  let (token, c) ← read s.cursor
  some ({ s with keyAllowed := false }.emitAt token c)

/-- A scalar in quotes. -/
def quotedScalar (s : Scan) (quote : Char) : Option Scan :=
  s.keyPart fun c => (readQuoted quote c).map fun (text, c) =>
    (.scalar .quoted (String.ofList text), c)

/-- A block scalar, which cannot be a key. -/
def blockScalar (s : Scan) (folds : Bool) : Option Scan := do
  let s ← s.dropKey
  let (text, c) ← readBlock folds s.indent s.cursor
  some ({ s with keyAllowed := true }.emitAt (.scalar .block (String.ofList text)) c)

/-- A plain scalar. -/
def plainScalar (s : Scan) : Option Scan := do
  let s ← s.saveKey
  let scalar ← readPlain s.inFlow (s.indent + 1).toNat s.cursor
  some ({ s with keyAllowed := scalar.brokenAfter }.emitAt
    (.scalar .plain (String.ofList scalar.text)) scalar.after)

/-- Whether a plain scalar may start with these characters. -/
def startsPlain (inFlow : Bool) : List Char → Bool
  | [] => false
  | c :: rest =>
    !(isGap c || isBreak c || "-?:,[]\x7b\x7d#&*!|>'\"%@\x60".toList.contains c) ||
      (c == '-' && !(rest.head?.map isGap).getD false) ||
      (!inFlow && (c == '?' || c == ':') && !atWordEnd rest)

/-- The token that starts with these characters, other than the end and what stands at the start of
a line only. -/
def ordinary (s : Scan) : Option Scan :=
  let after := s.cursor.rest.tail
  match s.cursor.head? with
  | none => none
  | some c =>
    if c == '[' then s.flowStart .flowSequence
    else if c == '{' then s.flowStart .flowMapping
    else if c == ']' then s.flowEnd .flowSequenceEnd
    else if c == '}' then s.flowEnd .flowMappingEnd
    else if c == ',' then s.flowEntry
    else if c == '-' && atWordEnd after then s.blockEntry
    else if c == '?' && (s.inFlow || atWordEnd after) then s.keyMark
    else if c == ':' && (s.inFlow || atWordEnd after) then s.valueMark
    else if c == '*' then s.keyPart fun c => (readName c).map fun (n, c) => (.aliasOf n, c)
    else if c == '&' then s.keyPart fun c => (readName c).map fun (n, c) => (.anchor n, c)
    else if c == '!' then s.keyPart readTag
    else if c == '|' && !s.inFlow then s.blockScalar false
    else if c == '>' && !s.inFlow then s.blockScalar true
    else if c == '\'' || c == '"' then s.quotedScalar c
    else if startsPlain s.inFlow s.cursor.rest then s.plainScalar
    else none

/-- One step: past space, out of the blocks that end here, and over one token. -/
def step (s : Scan) : Option Scan :=
  let s := skipSpace (s.cursor.rest.length + 1) s
  let s := s.closeBlocks s.cursor.column
  let c := s.cursor
  if c.rest.isEmpty then s.endStream
  else if c.column == 0 && c.isAt '%' then s.directive
  else if c.column == 0 && isRuler '-' c.rest then s.marker .documentStart
  else if c.column == 0 && isRuler '.' c.rest then s.marker .documentEnd
  else s.ordinary.map skipLineComment

/-- Whether the text is used up. -/
def isDone (s : Scan) : Bool :=
  s.tokens.head? == some .streamEnd

/-! ## Settled tokens -/

/-- How many tokens are settled when the next step fails. -/
def settledCount (s : Scan) : Nat :=
  (s.pending :: s.enclosing).foldl (fun n k =>
    match k with
    | some k => if k.isStale s.cursor then n else min n k.number
    | none => n) (s.count - 2)

/-- All steps of a text, and the tokens settled by them. -/
def run : (fuel : Nat) → Scan → List Token
  | 0, s => s.tokens.reverse.take s.settledCount
  | fuel + 1, s =>
    match s.step with
    | none => s.tokens.reverse.take s.settledCount
    | some s => if s.isDone then s.tokens.reverse else run fuel s

end Scan

/-- The settled tokens of a text; `none` if it holds a character that no document may hold. -/
def tokens (text : String) : Option (List Token) :=
  let cs := text.toList
  let cs := if cs.head? == some byteOrderMark then cs.tail else cs
  if cs.all isAdmissible then some (Scan.run (cs.length + 2) { cursor := { rest := cs } }) else none

end SchemaGen.Yaml
