import SchemaGen.Yaml.Scalar
import SchemaGen.Yaml.Token

/-!
# Properties and directives

The parts of a document that say something about a node or about the document: anchors, aliases,
tags and directives. All readers give up with `none` where the text is malformed.
-/

set_option autoImplicit false

namespace SchemaGen.Yaml

/-! ## Anchors and aliases -/

/-- Whether the name of an anchor may end before these characters. -/
def endsName : List Char → Bool
  | [] => true
  | c :: rest =>
    atWordEnd (c :: rest) || c == '?' || c == ':' || c == ',' || c == ']' || c == '}' || c == '%' ||
      c == '@' || c == '\x60'

/-- Reads the name after the indicator of an anchor or an alias. -/
def readName (c : Cursor) : Option (String × Cursor) :=
  let (name, c) := c.next.spanWhile isNameChar
  if name.isEmpty || !endsName c.rest then none else some (String.ofList name, c)

/-! ## Tags -/

/-- A character of the part of a tag after its handle. -/
def isTagChar (c : Char) : Bool :=
  isNameChar c || ";/?:@&=+$,.!~*'()[]%".toList.contains c

/-- Reads an octet written as a percent sign and two digits. -/
def readOctet : List Char → Option (Nat × List Char)
  | '%' :: a :: b :: rest =>
    match hexValue? a, hexValue? b with
    | some a, some b => some (a * 16 + b, rest)
    | _, _ => none
  | _ => none

/-- How many octets follow a leading octet, and what it adds to the character. -/
def octetsAfter? (octet : Nat) : Option (Nat × Nat) :=
  if octet < 0x80 then some (0, octet)
  else if 0xc0 ≤ octet && octet < 0xe0 then some (1, octet - 0xc0)
  else if 0xe0 ≤ octet && octet < 0xf0 then some (2, octet - 0xe0)
  else if 0xf0 ≤ octet && octet < 0xf8 then some (3, octet - 0xf0)
  else none

/-- Reads following octets of a character. -/
def readOctets : (count : Nat) → (value : Nat) → List Char → Option (Nat × List Char)
  | 0, value, cs => some (value, cs)
  | n + 1, value, cs =>
    match readOctet cs with
    | none => none
    | some (octet, rest) =>
      if 0x80 ≤ octet && octet < 0xc0 then readOctets n (value * 64 + (octet - 0x80)) rest else none

/-- Replaces octets written as numbers by the characters they make up. -/
def decodeOctets : (fuel : Nat) → List Char → Option (List Char)
  | 0, _ => some []
  | _ + 1, [] => some []
  | fuel + 1, c :: cs =>
    if c == '%' then do
      let (octet, rest) ← readOctet (c :: cs)
      let (count, start) ← octetsAfter? octet
      let (value, rest) ← readOctets count start rest
      let more ← decodeOctets fuel rest
      some (Char.ofNat value :: more)
    else (decodeOctets fuel cs).map (c :: ·)

/-- Reads the part of a tag after its handle. -/
def readTagText (c : Cursor) : Option (List Char × Cursor) :=
  let (text, c) := c.spanWhile isTagChar
  (decodeOctets text.length text).map fun text => (text, c)

/-- Reads a handle: an exclamation mark, and a name and a second mark if there are any. -/
def readHandle (c : Cursor) : Option (List Char × Cursor) :=
  if !c.isAt '!' then none
  else
    let (name, c) := c.next.spanWhile isNameChar
    if c.isAt '!' then some ('!' :: name ++ ['!'], c.next) else some ('!' :: name, c)

/-- Whether a text is a handle with two marks. -/
def isFullHandle (handle : List Char) : Bool :=
  handle.length > 1 && handle.getLast? == some '!'

/-- Reads a tag as its handle and the rest; a tag written out in full has no handle, and neither has
the lone mark. -/
def readTag (c : Cursor) : Option (Token × Cursor) := do
  let (handle, suffix, c) ←
    if c.rest.tail.head? == some '<' then do
      let (text, c) ← readTagText (c.skip 2)
      if text.isEmpty || !c.isAt '>' then none
      some ([], text, c.next)
    else do
      let (handle, c) ← readHandle c
      let (text, c) ← readTagText c
      if isFullHandle handle then
        if text.isEmpty then none else some (handle, text, c)
      else
        let suffix := handle.tail ++ text
        if suffix.isEmpty then some ([], ['!'], c) else some (['!'], suffix, c)
  if atWordEnd c.rest then some (.tag (String.ofList handle) (String.ofList suffix), c) else none

/-! ## Directives -/

/-- Reads a number of one or two digits. -/
def readShortNumber (c : Cursor) : Option (Nat × Cursor) :=
  let (digits, c) := c.spanWhile Char.isDigit
  if digits.isEmpty || digits.length > 2 then none
  else some (digits.foldl (fun n d => n * 10 + (d.toNat - '0'.toNat)) 0, c)

/-- Reads the version that a version directive says. -/
def readVersion (c : Cursor) : Option (Token × Cursor) := do
  let (major, c) ← readShortNumber c.skipGaps
  if !c.isAt '.' then none
  let (minor, c) ← readShortNumber c.next
  some (.version major minor, c)

/-- Reads the handle and the expansion that a tag directive says. -/
def readShorthand (c : Cursor) : Option (Token × Cursor) := do
  let (handle, c) ← readHandle c.skipGaps
  if handle != ['!'] && !isFullHandle handle then none
  if !c.atGap then none
  let (expansion, c) ← readTagText c.skipGaps
  if expansion.isEmpty || !atWordEnd c.rest then none
  some (.shorthand (String.ofList handle) (String.ofList expansion), c)

/-- Reads a directive, from its percent sign to the end of its line. -/
def readDirective (c : Cursor) : Option (Token × Cursor) := do
  let (name, c) := c.next.spanWhile isNameChar
  if !atWordEnd c.rest then none
  let (token, c) ← match String.ofList name with
    | "YAML" => readVersion c
    | "TAG" => readShorthand c
    | _ => none
  let c := c.skipGaps
  let c := if c.isAt '#' then c.skipToLineEnd else c
  if atLineEnd c.rest then some (token, c.skipBreak) else none

end SchemaGen.Yaml
