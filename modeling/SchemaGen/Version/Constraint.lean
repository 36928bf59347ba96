import SchemaGen.Version.Basic
import SchemaGen.Report
import SchemaGen.Schema.Basic

/-!
# Version constraints

A constraint is a list of alternatives, each a list of conditions that must all hold, such as
`>=1.0,<2 || ==3.*`. Conditions are written in lower case.

The text of an alternative is first checked as a whole, as a row of conditions, and is then cut into
conditions from the left. The two readings need not agree. The check may prefer a longer spelling
that makes the row complete, while the cut takes the first spelling that fits: of `1.0alpha1` it
takes `1.0a`, and what is left over is searched for more conditions.
-/

set_option autoImplicit false

namespace SchemaGen

open SchemaGen.Text

/-! ## The grammar -/

namespace Constraint

open Pattern

/-- Decimal digits, one or more. -/
def number : Pattern :=
  many1 (one Char.isDigit)

/-- At most one separator. -/
def separator : Pattern :=
  opt (one Version.isSeparator)

/-- A mark of one of these words, in this order of preference, with an optional number. -/
def mark (words : List String) : Pattern :=
  inRow [separator, oneOf (words.map literal), separator, opt number]

/-- A word of a local build. -/
def buildWord : Pattern :=
  many1 (one fun c => c.isLower || c.isDigit)

/-- A version in lower case. -/
def version : Pattern :=
  inRow
    [opt (literal "v"),
      opt (seq number (literal "!")),
      number, many (seq (literal ".") number),
      opt (mark ["a", "b", "c", "rc", "alpha", "beta", "pre", "preview"]),
      opt (alt (seq (literal "-") number) (mark ["post", "rev", "r"])),
      opt (mark ["dev"]),
      opt (inRow [literal "+", buildWord, many (seq (one Version.isSeparator) buildWord)])]

/-- How a condition compares. -/
inductive Operator where
  | equal
  | unequal
  | less
  | lessEqual
  | greater
  | greaterEqual
  | compatible
  /-- The same text. -/
  | identical
deriving Repr, DecidableEq, Inhabited

/-- The spellings of the operators; no operator at all means equality. -/
def operatorWords : List (String × Operator) :=
  [("===", .identical), ("==", .equal), ("~=", .compatible), ("!=", .unequal),
    ("<=", .lessEqual), (">=", .greaterEqual), ("=", .equal), ("<", .less), (">", .greater),
    ("", .equal)]

/-- Blanks, as many as there are. -/
def blanks : Pattern :=
  many (one isBlank)

/-- An operator and a version, possibly with a wild card. -/
def condition : Pattern :=
  inRow
    [oneOf (operatorWords.map fun (w, _) => literal w), blanks, version, opt (literal ".*")]

/-- A condition with blanks around it and an optional comma after it. -/
def listedCondition : Pattern :=
  inRow [blanks, condition, blanks, opt (literal ",")]

/-! ## Conditions -/

/-- One condition. -/
structure Condition where
  operator : Operator
  /-- The version as written, without the wild card. -/
  text : String
  wildcard : Bool
deriving Repr, DecidableEq, Inhabited

/-- The condition's version as written, with its wild card. -/
def Condition.fullText (c : Condition) : String :=
  c.text ++ (if c.wildcard then ".*" else "")

/-- Reads the text of a condition. -/
def Condition.ofMatch (cs : List Char) : Condition :=
  let (operator, rest) := (Version.keyword? operatorWords cs).getD (.equal, cs)
  let rest := rest.dropWhile isBlank
  match stripEnd? ".*".toList rest with
  | some start => { operator, text := String.ofList start, wildcard := true }
  | none => { operator, text := String.ofList rest, wildcard := false }

/-- Whether the parts of a condition go together: which operators allow a wild card, a local build
or a release of one number. -/
def Condition.isSound (c : Condition) : Bool :=
  c.operator = .identical ||
    match Version.parse? c.text with
    | none => false
    | some v =>
      match c.operator with
      | .equal | .unequal => !(c.wildcard && (v.dev.isSome || v.build ≠ ""))
      | .compatible => !c.wildcard && 2 ≤ v.release.length && v.build = ""
      | _ => !c.wildcard && v.build = ""

/-- Reads one alternative. -/
def alternative? (s : String) : Option (List Condition) :=
  let s := if trim s = "*" then ">=0.0.0" else s
  if listedCondition.tiles (·.all isBlank) s.toList then
    let conditions := (condition.allMatches s.toList).map Condition.ofMatch
    if !conditions.isEmpty && conditions.all Condition.isSound then some conditions else none
  else none

/-- The texts between double bars. -/
def splitBars : List Char → List (List Char)
  | [] => [[]]
  | '|' :: '|' :: cs => [] :: splitBars cs
  | c :: cs =>
    match splitBars cs with
    | [] => [[c]]
    | piece :: rest => (c :: piece) :: rest

/-- Reads a constraint: alternatives, each a list of conditions. -/
def parse? (s : String) : Option (List (List Condition)) :=
  (splitBars s.toList).mapM fun piece => alternative? (String.ofList piece)

/-! ## Checking a version -/

/-- The parts of a version text between points, where a number with a stage mark is two parts. -/
def splitParts (s : String) : List String :=
  (splitOnChar '.' s).flatMap fun part =>
    let ds := part.toList.takeWhile Char.isDigit
    let rest := part.toList.dropWhile Char.isDigit
    let isStage := ["a", "b", "c", "rc"].any fun w =>
      match stripStart? w.toList rest with
      | some n => !n.isEmpty && n.all Char.isDigit
      | none => false
    if !ds.isEmpty && isStage then [String.ofList ds, String.ofList rest] else [part]

/-- Whether a part is a number. -/
def isNumberPart (s : String) : Bool :=
  s ≠ "" && s.toList.all Char.isDigit

/-- The numbers among the parts, filled up with zeros by half of what they lack of `length`, rounded
up. -/
def padNumbers (numbers : List String) (length : Nat) : List String :=
  numbers ++ List.replicate ((length - numbers.length + 1) / 2) "0"

/-- Whether a version starts with the parts of a wild card. The numbers of both sides are compared
wherever they stand, and whatever follows as many parts as there are numbers is taken from the wild
card on both sides. -/
def matchesWildcard (wildcard : List String) (v : Version) : Bool :=
  let parts := (splitParts v.publicText).take wildcard.length
  let left := wildcard.filter isNumberPart
  let right := parts.filter isNumberPart
  padNumbers left right.length ++ wildcard.drop left.length
    == padNumbers right left.length ++ wildcard.drop right.length

/-- Whether a version equals the one that a condition names; without a local build in the condition,
that of the version does not count. -/
def equalsNamed (named v : Version) : Bool :=
  named.same (if named.build = "" then v.publicPart else v)

/-- The parts that a compatible release has to start with. -/
def compatibleParts (s : String) : List String :=
  ((splitParts s).takeWhile fun part =>
    !startsWith part "post" && !startsWith part "dev").dropLast

/-- Whether a version is below the one named. A pre-release of the very release named is not, unless
a pre-release was named. -/
def below (named v : Version) : Bool :=
  v.cmp named == .lt &&
    !(!named.isPrerelease && v.isPrerelease && v.basePart.same named.basePart)

/-- Whether a version is above the one named. A post-release of the very release named is not, unless
a post-release was named, and a local build of it is not either. -/
def above (named v : Version) : Bool :=
  v.cmp named == .gt &&
    !(!named.isPostrelease && v.isPostrelease && v.basePart.same named.basePart) &&
    !(v.build ≠ "" && v.basePart.same named.basePart)

/-- Whether a version meets a condition. -/
def Condition.holds (c : Condition) (v : Version) : Bool :=
  let named := (Version.parse? c.text).getD default
  let equal := if c.wildcard then matchesWildcard (splitParts c.text) v else equalsNamed named v
  match c.operator with
  | .equal => equal
  | .unequal => !equal
  | .less => below named v
  | .greater => above named v
  | .lessEqual => v.publicPart.cmp named != .gt
  | .greaterEqual => v.publicPart.cmp named != .lt
  | .compatible =>
    v.publicPart.cmp named != .lt && matchesWildcard (compatibleParts c.text) v
  | .identical => Text.lower v.text == Text.lower c.fullText

/-- Whether a version meets all conditions of one of the alternatives. -/
def admits (alternatives : List (List Condition)) (v : Version) : Bool :=
  alternatives.any fun conditions => conditions.all (·.holds v)

end Constraint

/-! ## Checking a schema -/

/-- Checks the version of a schema against a constraint. A blank constraint admits every schema, even
one without a version. -/
def checkVersion (s : Schema) (constraintText : String) : Report Unit :=
  let constraint := trim constraintText
  if constraint = "" then .done ()
  else match Constraint.parse? constraint with
    | none => .fail (.badConstraint constraint)
    | some alternatives =>
      let declared := (s.metadata?.map (·.metadata.version)).getD ""
      if trim declared = "" then .fail (.noVersion s.name constraint)
      else match Version.parse? declared with
        | none => .fail (.badVersion s.name declared)
        | some v =>
          if Constraint.admits alternatives v then .say (.versionAccepted s.name declared)
          else .fail (.versionRefused s.name declared constraint)

end SchemaGen
