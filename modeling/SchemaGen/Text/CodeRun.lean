/-!
# Runs of code points

A character class is stored as a short list of runs. Alternating alphabets (upper, lower,
upper, lower, ...) are common, so a run has a step: the class of every second code point is
one run and not a hundred.
-/

set_option autoImplicit false

namespace SchemaGen.Text

/-- Every `step`-th code point from `first` to `last`. -/
structure CodeRun where
  first : Nat
  last : Nat
  step : Nat
deriving Repr, DecidableEq

/-- Whether the code point `n` lies on the run. -/
def CodeRun.contains (r : CodeRun) (n : Nat) : Bool :=
  r.first ≤ n && n ≤ r.last && (n - r.first) % r.step == 0

/-- A run of characters whose other-case partners lie at one distance from them. -/
structure CaseRun where
  source : CodeRun
  /-- The partner of `source.first`. -/
  target : Nat
deriving Repr, DecidableEq

/-- The partner of `n`, if `n` lies on the run. -/
def CaseRun.partner? (r : CaseRun) (n : Nat) : Option Nat :=
  if r.source.contains n then some (r.target + (n - r.source.first)) else none

/-- Membership in a class stored as runs. -/
def inRuns (runs : Array CodeRun) (n : Nat) : Bool :=
  runs.any (·.contains n)

/-- The partner of `n` under a case map stored as runs; `n` itself if it has none. -/
def mapRuns (runs : Array CaseRun) (n : Nat) : Nat :=
  (runs.findSome? (·.partner? n)).getD n

end SchemaGen.Text
