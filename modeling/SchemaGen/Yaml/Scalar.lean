import SchemaGen.Yaml.Cursor

/-!
# Scalars

Reading the text of a scalar in each of the ways to write one. Plain and quoted scalars are words
with gaps between them: a gap within a line stays as it is, and a gap with line ends is folded, one
line end to a space and more to one line feed less. Block scalars keep their lines, or fold those
that are not indented further than the first.

All readers give up with `none` where the text is malformed.
-/

set_option autoImplicit false

namespace SchemaGen.Yaml

/-! ## Gaps -/

/-- What stands between two words of a scalar. -/
structure Gap where
  /-- The spaces and tabs before the first line end. -/
  blanks : List Char := []
  /-- Whether a line end is part of the gap, be it an escaped one. -/
  broken : Bool := false
  /-- What the first line end stands for; nothing if it was escaped. -/
  first : List Char := []
  /-- What the other line ends stand for. -/
  more : List Char := []
deriving Inhabited

/-- The text that a gap stands for. -/
def Gap.text (g : Gap) : List Char :=
  if g.broken then
    if g.first.head? == some '\n' then (if g.more.isEmpty then [' '] else g.more)
    else g.first ++ g.more
  else g.blanks

/-- Reads a gap. After a line end, tabs left of the column `indent` are refused. -/
def readGap (indent : Nat) : (fuel : Nat) → Gap → Cursor → Option (Gap × Cursor)
  | 0, g, c => some (g, c)
  | fuel + 1, g, c =>
    match c.rest with
    | [] => some (g, c)
    | x :: _ =>
      if isGap x then
        if g.broken then
          if x == '\t' && c.column < indent then none
          else readGap indent fuel g c.next
        else readGap indent fuel { g with blanks := g.blanks ++ [x] } c.next
      else if isBreak x then
        let (text, c) := c.takeBreak
        if g.broken then readGap indent fuel { g with more := g.more ++ text } c
        else readGap indent fuel { g with broken := true, first := text } c
      else some (g, c)

/-! ## Plain scalars -/

/-- Whether a plain scalar ends before these characters. -/
def endsPlain (inFlow : Bool) : List Char → Bool
  | [] => true
  | c :: rest =>
    isGap c || isBreak c || (c == ':' && atWordEnd rest) ||
      (inFlow && (c == ',' || c == '?' || c == '[' || c == ']' || c == '{' || c == '}'))

/-- The next word of a plain scalar, and the place after it. -/
def plainWord (inFlow : Bool) : (fuel : Nat) → Cursor → List Char × Cursor
  | 0, c => ([], c)
  | fuel + 1, c =>
    match c.rest with
    | [] => ([], c)
    | x :: _ =>
      if endsPlain inFlow c.rest then ([], c)
      else
        let (word, after) := plainWord inFlow fuel c.next
        (x :: word, after)

/-- A scalar, whether its end was looked for past a line end, and the place after it. -/
structure PlainScalar where
  text : List Char
  brokenAfter : Bool
  after : Cursor

/-- Reads words of a plain scalar: `before` is the gap before the next one. Words must stand right
of `indent` unless in a flow collection. -/
def plainFrom (inFlow : Bool) (indent : Nat) : (fuel : Nat) → (text : List Char) →
    (before : Gap) → Cursor → Option PlainScalar
  | 0, text, before, c => some ⟨text, before.broken, c⟩
  | fuel + 1, text, before, c =>
    if c.atMarker || c.isAt '#' then some ⟨text, before.broken, c⟩
    else
      let (word, c) := plainWord inFlow c.rest.length c
      let text := if word.isEmpty then text else text ++ before.text ++ word
      let before := if word.isEmpty then before else {}
      if c.atGap || c.atBreak then
        match readGap indent c.rest.length before c with
        | none => none
        | some (gap, c) =>
          if !inFlow && c.column < indent then some ⟨text, gap.broken, c⟩
          else plainFrom inFlow indent fuel text gap c
      else some ⟨text, before.broken, c⟩

/-- Reads a plain scalar inside a block indented by one less than `indent`. -/
def readPlain (inFlow : Bool) (indent : Nat) (c : Cursor) : Option PlainScalar :=
  plainFrom inFlow indent (c.rest.length + 1) [] {} c

/-! ## Quoted scalars -/

/-- The value of a hexadecimal digit. -/
def hexValue? (c : Char) : Option Nat :=
  if c.isDigit then some (c.toNat - '0'.toNat)
  else if 'a' ≤ c && c ≤ 'f' then some (c.toNat - 'a'.toNat + 10)
  else if 'A' ≤ c && c ≤ 'F' then some (c.toNat - 'A'.toNat + 10)
  else none

/-- The value of exactly `digits` hexadecimal digits. -/
def hexNumber? : (digits : Nat) → (value : Nat) → List Char → Option Nat
  | 0, value, _ => some value
  | _ + 1, _, [] => none
  | n + 1, value, c :: rest =>
    match hexValue? c with
    | none => none
    | some d => hexNumber? n (value * 16 + d) rest

/-- The character that an escape letter stands for. -/
def escapedChar? (c : Char) : Option Char :=
  match c with
  | '0' => some '\x00'
  | 'a' => some '\x07'
  | 'b' => some '\x08'
  | 't' => some '\t'
  | '\t' => some '\t'
  | 'n' => some '\n'
  | 'v' => some '\x0b'
  | 'f' => some '\x0c'
  | 'r' => some '\r'
  | 'e' => some '\x1b'
  | ' ' => some ' '
  | '"' => some '"'
  | '\'' => some '\''
  | '\\' => some '\\'
  | 'N' => some '\u0085'
  | '_' => some '\u00a0'
  | 'L' => some '\u2028'
  | 'P' => some '\u2029'
  | _ => none

/-- How many digits follow an escape letter that takes a number. -/
def escapeDigits? (c : Char) : Option Nat :=
  match c with
  | 'x' => some 2
  | 'u' => some 4
  | 'U' => some 8
  | _ => none

/-- The character of a number that an escape may give. -/
def codePoint? (n : Nat) : Option Char :=
  if (0xd800 ≤ n && n ≤ 0xdfff) || n > 0x10ffff then none else some (Char.ofNat n)

/-- Reads what follows a backslash: the character it stands for and how many characters it takes
with the backslash. -/
def readEscape (cs : List Char) : Option (Char × Nat) :=
  match cs with
  | [] => none
  | c :: rest =>
    match escapeDigits? c with
    | some digits =>
      ((hexNumber? digits 0 rest).bind codePoint?).map fun x => (x, digits + 2)
    | none => (escapedChar? c).map fun x => (x, 2)

/-- The next word of a quoted scalar: its characters, whether an escaped line end followed it, and
the place after it. -/
def quotedWord (quote : Char) : (fuel : Nat) → Cursor → Option (List Char × Bool × Cursor)
  | 0, _ => none
  | fuel + 1, c =>
    let more (x : Char) (width : Nat) :=
      (quotedWord quote fuel (c.skip width)).map fun (word, escaped, after) =>
        (x :: word, escaped, after)
    match c.rest with
    | [] => some ([], false, c)
    | x :: rest =>
      if isGap x || isBreak x then some ([], false, c)
      else if x == quote then
        if quote == '\'' && rest.head? == some '\'' then more '\'' 2 else some ([], false, c)
      else if x == '\\' && quote == '"' then
        if !rest.isEmpty && atLineEnd rest then some ([], true, c.next.skipBreak)
        else match readEscape rest with
          | none => none
          | some (y, width) => more y width
      else more x 1

/-- Reads words of a quoted scalar up to the closing quote. -/
def quotedFrom (quote : Char) : (fuel : Nat) → (text : List Char) → Cursor →
    Option (List Char × Cursor)
  | 0, _, _ => none
  | fuel + 1, text, c =>
    if c.atMarker || c.rest.isEmpty then none
    else match quotedWord quote (c.rest.length + 1) c with
      | none => none
      | some (word, escaped, c) =>
        let text := text ++ word
        if c.isAt quote then some (text, c.next)
        else match readGap 0 c.rest.length { broken := escaped } c with
          | none => none
          | some (gap, c) => quotedFrom quote fuel (text ++ gap.text) c

/-- Reads a scalar in quotes, from the opening quote on. -/
def readQuoted (quote : Char) (c : Cursor) : Option (List Char × Cursor) :=
  quotedFrom quote (c.rest.length + 1) [] c.next

/-! ## Block scalars -/

/-- What becomes of the line ends at the end of a block scalar. -/
inductive Chomping where
  | strip
  | clip
  | keep
deriving Repr, DecidableEq, Inhabited

/-- The header of a block scalar. -/
structure BlockHeader where
  chomping : Chomping := .clip
  /-- How much further than the block around it the text is indented, if that is said. -/
  increment : Option Nat := none
deriving Inhabited

/-- The chomping that a character says. -/
def chomping? : Option Char → Option Chomping
  | some '+' => some .keep
  | some '-' => some .strip
  | _ => none

/-- Reads the indentation that a header says; zero is refused. -/
def readIncrement (c : Cursor) : Option (Option Nat × Cursor) :=
  match c.head? with
  | some d =>
    if !d.isDigit then some (none, c)
    else if d == '0' then none
    else some (some (d.toNat - '0'.toNat), c.next)
  | none => some (none, c)

/-- Reads the header of a block scalar after its indicator, the two parts in either order. -/
def readHeader (c : Cursor) : Option (BlockHeader × Cursor) :=
  match chomping? c.head? with
  | some chomping =>
    (readIncrement c.next).map fun (increment, c) => ({ chomping, increment }, c)
  | none =>
    (readIncrement c).map fun (increment, c) =>
      match increment, chomping? c.head? with
      | some _, some chomping => ({ chomping, increment }, c.next)
      | _, _ => ({ increment }, c)

/-- Empty lines of a block scalar. -/
structure EmptyLines where
  text : List Char := []
  /-- The furthest column that indentation reached. -/
  widest : Nat := 0
  after : Cursor

/-- Reads empty lines and the indentation after them. With an `indent`, indentation goes no further
than that; a tab in it is refused. -/
def readEmptyLines (indent : Option Nat) : (fuel : Nat) → EmptyLines → Option EmptyLines
  | 0, _ => none
  | fuel + 1, e =>
    let spaces := (e.after.rest.takeWhile (· == ' ')).length
    let c := e.after.skip (match indent with
      | some n => min spaces (n - e.after.column)
      | none => spaces)
    let inside := match indent with
      | some n => decide (c.column < n)
      | none => true
    let e := { e with widest := max e.widest c.column, after := c }
    if inside && c.isAt '\t' then none
    else if c.atBreak then
      let (text, c) := c.takeBreak
      readEmptyLines indent fuel { e with text := e.text ++ text, after := c }
    else some e

/-- Reads the lines of a block scalar. `pending` is what the last line end stands for, `empty` the
empty lines after it, and `indentedBefore` whether the last line was indented further. -/
def blockLines (folds : Bool) (indent : Nat) : (fuel : Nat) → (text pending : List Char) →
    (indentedBefore : Bool) → EmptyLines → Option (List Char × List Char × EmptyLines)
  | 0, _, _, _, _ => none
  | fuel + 1, text, pending, indentedBefore, empty =>
    let c := empty.after
    if c.column != indent || c.rest.isEmpty then some (text, pending, empty)
    else
      let indented := c.atGap
      let joint :=
        if folds && !indentedBefore && !indented && pending.head? == some '\n' then
          (if empty.text.isEmpty then [' '] else [])
        else pending
      let (line, c) := c.spanLine
      let (pending, c) := c.takeBreak
      match readEmptyLines (some indent) (c.rest.length + 1) { after := c } with
      | none => none
      | some next =>
        blockLines folds indent fuel (text ++ joint ++ empty.text ++ line) pending indented next

/-- The indentation of a block scalar whose header does not say it: that of its first line, but
further than the block around it, and never none. -/
def blockIndent (outer : Int) (widest : Nat) : Nat :=
  max 1 (max widest (outer + 1).toNat)

/-- Reads a block scalar, from its indicator on, inside a block indented by `outer`. -/
def readBlock (folds : Bool) (outer : Int) (c : Cursor) : Option (List Char × Cursor) := do
  let (header, c) ← readHeader c.next
  let c := c.skipGaps
  let c := if c.isAt '#' then c.skipToLineEnd else c
  if !atLineEnd c.rest then none
  let c := c.skipBreak
  let said := header.increment.map fun n => outer.toNat + n
  let empty ← readEmptyLines said (c.rest.length + 1) { after := c }
  let indent := said.getD (blockIndent outer empty.widest)
  let (text, pending, empty) ← blockLines folds indent (c.rest.length + 2) [] [] false empty
  let tail := match header.chomping with
    | .strip => []
    | .clip => pending
    | .keep => pending ++ empty.text
  some (text ++ tail, empty.after)

end SchemaGen.Yaml
