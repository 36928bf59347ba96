import SchemaGen.Text.Words

/-!
# Names in generated code

How the name of a schema or of one of its parts becomes a namespace, a header file, an include
guard or the name of a base class. Schemas write names in camel case with acronyms (`RSInstanceBase`); the
generated code uses lower snake case for files and namespaces.
-/

set_option autoImplicit false

namespace SchemaGen.Text

/-- Whether a new word starts at an upper case letter standing between `prev` and `next`: after
a lower case letter or a digit, and at the last letter of an acronym that a lower case letter
follows. -/
def startsWord (prev : Char) (next : Option Char) : Bool :=
  isLower prev || isDigit prev || (isUpper prev && next.any isLower)

/-- Snake case of the rest of a text whose previous character was `prev`. -/
def snakeFrom (prev : Option Char) : List Char → List Char
  | [] => []
  | c :: cs =>
    let mark := if isUpper c && prev.any (startsWord · cs.head?) then ['_'] else []
    let shown := if c == '-' || c == ' ' then '_' else toLower c
    mark ++ shown :: snakeFrom (some c) cs

/-- Lower snake case: `RSInstanceBase` becomes `rs_instance_base`. Dashes and spaces inside
become underscores. -/
def snake (s : String) : String :=
  String.ofList (snakeFrom none (trimChars s.toList))

/-- The first character in upper case and all others in lower case. -/
def capitalize : List Char → List Char
  | [] => []
  | c :: cs => toUpper (toLower c) :: cs.map toLower

/-- The words between underscores and dashes, capitalized and joined: `heat_source` becomes
`HeatSource`. -/
def pascal (s : String) : String :=
  String.ofList ((fields (fun c => c == '_' || c == '-') s.toList).flatMap capitalize)

/-- The namespace generated for a schema. -/
def namespaceName (schema : String) : String :=
  snake schema ++ "_ns"

/-- The header generated for an identifier. -/
def headerName (identifier : String) : String :=
  snake identifier ++ ".h"

/-- The include guard of a schema's header. -/
def headerGuard (schema : String) : String :=
  upper (snake schema) ++ "_H_"

/-- The polymorphic base class of a member whose type another member selects. -/
def selectorBase (element : String) : String :=
  pascal element ++ "Base"

end SchemaGen.Text
