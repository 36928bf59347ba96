import SchemaGen.Text.Integer
import SchemaGen.Text.Pattern
import SchemaGen.Text.Words

/-!
# Versions

Version numbers in the scheme of the package index: an optional epoch, a release of numbers and
points, then optional marks for a pre-release, a post-release, a development release and a local
build. A version has many spellings and one normal form. Versions are ordered by epoch and release
first, where trailing zeros do not count; of one release, development releases come first, then
pre-releases, the release itself, and its post-releases.
-/

set_option autoImplicit false

namespace SchemaGen

open SchemaGen.Text

/-- The stage of a pre-release. -/
inductive PreStage where
  | alpha
  | beta
  | candidate
deriving Repr, DecidableEq, Inhabited

/-- The normal spelling of a stage. -/
def PreStage.text : PreStage → String
  | .alpha => "a"
  | .beta => "b"
  | .candidate => "rc"

/-- The place of a stage in the order. -/
def PreStage.rank : PreStage → Nat
  | .alpha => 0
  | .beta => 1
  | .candidate => 2

/-- A version. -/
structure Version where
  epoch : Nat := 0
  release : List Nat
  pre : Option (PreStage × Nat) := none
  post : Option Nat := none
  dev : Option Nat := none
  /-- The local build in lower case; empty for none. -/
  build : String := ""
deriving Repr, DecidableEq, Inhabited

namespace Version

/-! ## Reading -/

/-- The separators that may stand around a mark. -/
def isSeparator (c : Char) : Bool :=
  c == '-' || c == '_' || c == '.'

/-- The rest after an optional separator. -/
def skipSeparator : List Char → List Char
  | [] => []
  | c :: cs => if isSeparator c then cs else c :: cs

/-- The digits at the start and the rest. -/
def digits (cs : List Char) : List Char × List Char :=
  (cs.takeWhile Char.isDigit, cs.dropWhile Char.isDigit)

/-- A number of a version has to fit a word of 64 bits. -/
def number? (ds : List Char) : Option Nat :=
  let n := digitsValue ds
  if ds.isEmpty || Text.Integer.unsignedBound ≤ n then none else some n

/-- The number of a mark; a mark without one counts as zero. -/
def markNumber? (ds : List Char) : Option Nat :=
  if ds.isEmpty then some 0 else number? ds

/-- The first of the words that starts the text, and the rest after it. -/
def keyword? {α : Type} (words : List (String × α)) (cs : List Char) : Option (α × List Char) :=
  words.findSome? fun (w, a) => (stripStart? w.toList cs).map fun rest => (a, rest)

/-- The spellings of the stages. A spelling goes before its own beginnings. -/
def stageWords : List (String × PreStage) :=
  [("alpha", .alpha), ("a", .alpha), ("beta", .beta), ("b", .beta), ("preview", .candidate),
    ("pre", .candidate), ("rc", .candidate), ("c", .candidate)]

/-- The spellings of the mark of a post-release. -/
def postWords : List (String × Unit) :=
  [("post", ()), ("rev", ()), ("r", ())]

/-- Reads a mark of one of these spellings with its number, separators around the spelling. The
outer `none` is a number that does not fit. -/
def mark? {α : Type} (words : List (String × α)) (cs : List Char) :
    Option (Option (α × Nat) × List Char) :=
  match keyword? words (skipSeparator cs) with
  | none => some (none, cs)
  | some (a, rest) =>
    let (ds, rest) := digits (skipSeparator rest)
    (markNumber? ds).map fun n => (some (a, n), rest)

/-- Reads the mark of a post-release: a word, or a dash with a number. -/
def postMark? (cs : List Char) : Option (Option Nat × List Char) :=
  match cs with
  | '-' :: rest =>
    if (digits rest).1.isEmpty then (mark? postWords cs).map fun (m, r) => (m.map Prod.snd, r)
    else (number? (digits rest).1).map fun n => (some n, (digits rest).2)
  | _ => (mark? postWords cs).map fun (m, r) => (m.map Prod.snd, r)

/-- Reads the numbers of a release: one, then as many as follow a point, at most `fuel`. -/
def releaseFrom : (fuel : Nat) → List Char → Option (List Nat × List Char)
  | fuel, cs => do
    let (ds, rest) := digits cs
    let n ← number? ds
    match fuel, rest with
    | fuel + 1, '.' :: c :: more =>
      if c.isDigit then do
        let (ns, rest) ← releaseFrom fuel (c :: more)
        return (n :: ns, rest)
      else return ([n], rest)
    | _, _ => return ([n], rest)

/-- Whether a text is a local build: words of letters and digits with single separators. -/
def isBuild (cs : List Char) : Bool :=
  (splitAll isSeparator cs).all fun w => !w.isEmpty && w.all Char.isAlphanum

/-- Reads a local build, which is the rest of the text. -/
def build? : List Char → Option String
  | [] => some ""
  | '+' :: cs => if isBuild cs then some (String.ofList cs) else none
  | _ => none

/-- Reads a version in any spelling and either case. -/
def parse? (s : String) : Option Version := do
  let cs := (trimChars s.toList).map Char.toLower
  let cs := match cs with
    | 'v' :: rest => rest
    | _ => cs
  let (epoch, cs) ← match digits cs with
    | (ds, '!' :: rest) => (number? ds).map fun n => (n, rest)
    | _ => some (0, cs)
  let (release, cs) ← releaseFrom cs.length cs
  let (pre, cs) ← mark? stageWords cs
  let (post, cs) ← postMark? cs
  let (dev, cs) ← mark? [("dev", ())] cs
  let build ← build? cs
  return { epoch, release, pre, post, dev := dev.map Prod.snd, build }

/-! ## Writing -/

/-- Epoch and release. -/
def baseText (v : Version) : String :=
  (if v.epoch = 0 then "" else v.epoch.repr ++ "!") ++ ".".intercalate (v.release.map Nat.repr)

/-- The normal form without the local build. -/
def publicText (v : Version) : String :=
  v.baseText
    ++ (match v.pre with | some (stage, n) => stage.text ++ n.repr | none => "")
    ++ (match v.post with | some n => ".post" ++ n.repr | none => "")
    ++ (match v.dev with | some n => ".dev" ++ n.repr | none => "")

/-- The normal form. -/
def text (v : Version) : String :=
  v.publicText ++ (if v.build = "" then "" else "+" ++ v.build)

/-! ## Parts -/

/-- The version without its local build. -/
def publicPart (v : Version) : Version :=
  { v with build := "" }

/-- Epoch and release only. -/
def basePart (v : Version) : Version :=
  { epoch := v.epoch, release := v.release }

/-- Whether the version comes before its release. -/
def isPrerelease (v : Version) : Bool :=
  v.pre.isSome || v.dev.isSome

/-- Whether the version comes after its release. -/
def isPostrelease (v : Version) : Bool :=
  v.post.isSome

/-! ## Order -/

/-- The numbers of a release without trailing zeros. -/
def significant (release : List Nat) : List Nat :=
  (release.reverse.dropWhile (· == 0)).reverse

/-- Lexicographic order, a list before its continuations. -/
def compareLists {α : Type} (cmp : α → α → Ordering) : List α → List α → Ordering
  | [], [] => .eq
  | [], _ :: _ => .lt
  | _ :: _, [] => .gt
  | a :: as, b :: bs => (cmp a b).then (compareLists cmp as bs)

/-- The place of the pre-release mark in the order: a development release of the release itself comes
before every stage, and no mark after every stage. -/
def preKey (v : Version) : Nat × Nat :=
  match v.pre with
  | some (stage, n) => (1 + stage.rank, n)
  | none => if v.post.isNone && v.dev.isSome then (0, 0) else (4, 0)

/-- The place of the post-release mark: none comes first. -/
def postKey (v : Version) : Nat :=
  match v.post with
  | some n => n + 1
  | none => 0

/-- The place of the development mark: none comes last. -/
def devKey (v : Version) : Nat × Nat :=
  match v.dev with
  | some n => (0, n)
  | none => (1, 0)

/-- The parts of a local build, cut at points; numbers apart from words. -/
def buildKey (v : Version) : List (Nat ⊕ String) :=
  if v.build = "" then []
  else (splitOnChar '.' v.build).map fun part =>
    if part.toList.all Char.isDigit then
      match number? part.toList with
      | some n => .inl n
      | none => .inr part
    else .inr part

/-- Words come before numbers. -/
def compareParts : Nat ⊕ String → Nat ⊕ String → Ordering
  | .inl a, .inl b => compare a b
  | .inr a, .inr b => compare a b
  | .inl _, .inr _ => .gt
  | .inr _, .inl _ => .lt

/-- Pairs, first things first. -/
def comparePairs (a b : Nat × Nat) : Ordering :=
  (compare a.1 b.1).then (compare a.2 b.2)

/-- The order of versions. -/
def cmp (v w : Version) : Ordering :=
  (compare v.epoch w.epoch).then <|
  (compareLists compare (significant v.release) (significant w.release)).then <|
  (comparePairs v.preKey w.preKey).then <|
  (compare v.postKey w.postKey).then <|
  (comparePairs v.devKey w.devKey).then <|
  compareLists compareParts v.buildKey w.buildKey

/-- Equal in the order of versions, which is less than being the same text. -/
def same (v w : Version) : Bool :=
  v.cmp w == .eq

end Version

end SchemaGen
