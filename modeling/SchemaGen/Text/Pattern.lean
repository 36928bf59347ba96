/-!
# Patterns

Regular patterns over characters. A pattern may match the start of a text in several ways, which
are told apart by what they leave over; `Pattern.ends` lists the leftovers, the preferred way first:
the left branch of an alternative goes before the right one, and a repetition goes on as long as it
can. Two ways that leave the same text over are one way, so the list stays short.
-/

set_option autoImplicit false

namespace SchemaGen.Text

/-- A regular pattern. -/
inductive Pattern where
  | empty
  /-- One character of a class. -/
  | one (p : Char → Bool)
  | seq (a b : Pattern)
  | alt (a b : Pattern)
  /-- Any number of repetitions, as many as possible. -/
  | many (a : Pattern)

namespace Pattern

/-- The leftovers without repetitions, told apart by length. -/
def distinct (ends : List (List Char)) : List (List Char) :=
  ends.foldr (fun e rest => e :: rest.filter (·.length ≠ e.length)) []

/-- The leftovers of repeating a match that leaves `step` over, at most `fuel` times. -/
def manyEnds (step : List Char → List (List Char)) : (fuel : Nat) → List Char → List (List Char)
  | 0, cs => [cs]
  | fuel + 1, cs =>
    distinct (((step cs).filter (·.length < cs.length)).flatMap (manyEnds step fuel) ++ [cs])

/-- What a match at the start of the text can leave over, the preferred match first. -/
def ends : Pattern → List Char → List (List Char)
  | empty, cs => [cs]
  | one _, [] => []
  | one p, c :: cs => if p c then [cs] else []
  | seq a b, cs => distinct ((a.ends cs).flatMap b.ends)
  | alt a b, cs => distinct (a.ends cs ++ b.ends cs)
  | many a, cs => manyEnds a.ends cs.length cs

/-- The pattern or nothing. -/
def opt (a : Pattern) : Pattern :=
  alt a empty

/-- One repetition or more. -/
def many1 (a : Pattern) : Pattern :=
  seq a (many a)

/-- Patterns in a row. -/
def inRow (ps : List Pattern) : Pattern :=
  ps.foldr seq empty

/-- The first of the patterns that lets the whole match, in order. -/
def oneOf : List Pattern → Pattern
  | [] => one fun _ => false
  | [p] => p
  | p :: ps => alt p (oneOf ps)

/-- Exactly this text. -/
def literal (s : String) : Pattern :=
  inRow (s.toList.map fun c => one (· == c))

/-- The texts that `step` leads to from those of a frontier, in rounds, each text once. -/
def reach (step : List Char → List (List Char)) :
    (fuel : Nat) → (frontier seen : List (List Char)) → List (List Char)
  | 0, _, seen => seen
  | fuel + 1, frontier, seen =>
    let fresh := (distinct (frontier.flatMap step)).filter fun e =>
      !seen.any (·.length == e.length)
    if fresh.isEmpty then seen else reach step fuel fresh (seen ++ fresh)

/-- Whether a text is a row of matches of one pattern, up to an end that `done` accepts. -/
def tiles (p : Pattern) (done : List Char → Bool) (cs : List Char) : Bool :=
  (reach p.ends (cs.length + 1) [cs] [cs]).any done

/-- The matches of a pattern in a text from left to right, each the preferred one at the first place
where there is one, none overlapping. The pattern matches no empty text. -/
def matchesWithin (p : Pattern) : (fuel : Nat) → List Char → List (List Char)
  | 0, _ => []
  | _, [] => []
  | fuel + 1, c :: cs =>
    match p.ends (c :: cs) with
    | rest :: _ =>
      if rest.length < (c :: cs).length then
        (c :: cs).take ((c :: cs).length - rest.length) :: p.matchesWithin fuel rest
      else p.matchesWithin fuel cs
    | [] => p.matchesWithin fuel cs

/-- The matches of a pattern in a text, from left to right. -/
def allMatches (p : Pattern) (cs : List Char) : List (List Char) :=
  p.matchesWithin cs.length cs

end Pattern

end SchemaGen.Text
