/-!
# Tokens

What a YAML text is made of once indentation is told. Block collections are opened and closed by
tokens of their own, and a key is announced by a token before it, though the text shows it only by
the colon after it.
-/

set_option autoImplicit false

namespace SchemaGen.Yaml

/-- How a scalar is written. Only plain scalars can mean anything but text. -/
inductive ScalarStyle where
  | plain
  | quoted
  | block
deriving Repr, DecidableEq, Inhabited

/-- A token. -/
inductive Token where
  | streamEnd
  | version (major minor : Nat)
  /-- A tag shorthand: tags that begin with the handle are written out with the expansion. -/
  | shorthand (handle expansion : String)
  | documentStart
  | documentEnd
  | blockSequence
  | blockMapping
  | blockEnd
  | flowSequence
  | flowSequenceEnd
  | flowMapping
  | flowMappingEnd
  | blockEntry
  | flowEntry
  | key
  | value
  | aliasOf (name : String)
  | anchor (name : String)
  | tag (handle suffix : String)
  | scalar (style : ScalarStyle) (text : String)
deriving Repr, DecidableEq, Inhabited

end SchemaGen.Yaml
