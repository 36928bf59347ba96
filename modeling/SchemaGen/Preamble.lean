/-!
# Preambles

The include lines at the head of a generated file: in the order in which they were first asked
for, each once.
-/

set_option autoImplicit false

namespace SchemaGen

/-- The include lines of a file. -/
structure Preamble where
  lines : List String := []
deriving Repr, DecidableEq, Inhabited

namespace Preamble

/-- Adds a line unless it is there. -/
def add (p : Preamble) (line : String) : Preamble :=
  if p.lines.contains line then p else ⟨p.lines ++ [line]⟩

/-- Adds the include of a header. -/
def addHeader (p : Preamble) (header : String) : Preamble :=
  p.add ("#include <" ++ header ++ ">")

/-- Adds the includes of several headers, in order. -/
def addHeaders (p : Preamble) (headers : List String) : Preamble :=
  headers.foldl addHeader p

end Preamble

end SchemaGen
