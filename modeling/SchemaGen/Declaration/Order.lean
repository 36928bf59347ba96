import SchemaGen.Declaration.Basic
import SchemaGen.Report
import SchemaGen.Text.Words

/-!
# The order of declarations

A declaration must stand after every sibling that it mentions, itself or in anything nested in it.
A mention is a whole word, in any signature. The order keeps as close to the given one as that
allows: at each step the first of the declarations that wait for none of the remaining ones goes
next. If every remaining one waits, they cannot be ordered.

Nothing is searched for: every declaration has a counter of those that it still waits for, and a
list of those that wait for it. Putting one in order counts its followers down, and a follower that
comes to zero is ready.
-/

set_option autoImplicit false

namespace SchemaGen

/-! ## Mentions -/

/-- The words in the signatures of a declaration and of all that is nested in it, in the order in
which they occur. -/
def mentions (t : Tree Decl) : List String :=
  t.labels.flatMap fun d => Text.identifiers d.signature

/-- What ordering needs to know of a declaration. -/
structure Sibling where
  name : String
  mentions : List String
deriving Repr, DecidableEq, Inhabited

/-- A tree as a sibling of others. -/
def Sibling.ofTree (t : Tree Decl) : Sibling where
  name := t.label.name
  mentions := SchemaGen.mentions t

/-- Whether `a` must stand after `b` because it mentions it; a declaration without a name is
mentioned by none. -/
def Sibling.waitsFor (a b : Sibling) : Bool :=
  b.name ≠ "" && a.mentions.contains b.name

/-! ## Ordering -/

/-- The places of the siblings that the one at place `i` waits for, itself aside. -/
def waitPlaces (siblings : List Sibling) (i : Nat) (sibling : Sibling) : List Nat :=
  (siblings.zipIdx.filter fun (other, j) => j ≠ i && sibling.waitsFor other).map Prod.snd

/-- For every place, the places that it waits for. -/
def waitTable (siblings : List Sibling) : List (List Nat) :=
  siblings.zipIdx.map fun (sibling, i) => waitPlaces siblings i sibling

/-- The books of the ordering. -/
structure Ledger where
  /-- For every place, how many of the places that it waits for are not in order yet. -/
  counters : List Nat
  /-- For every place, the places that wait for it. -/
  followers : List (List Nat)
  /-- The places that wait for nothing any more and are not in order yet, the lowest first. -/
  ready : List Nat := []
deriving Repr, DecidableEq

/-- Puts a place into an increasing list of places, unless it is there. -/
def insertPlace (k : Nat) : List Nat → List Nat
  | [] => [k]
  | i :: rest =>
    if k < i then k :: i :: rest
    else if k = i then i :: rest
    else i :: insertPlace k rest

namespace Ledger

/-- How many places the place `i` still waits for. -/
def counter (l : Ledger) (i : Nat) : Nat :=
  l.counters[i]?.getD 0

/-- The places that wait for the place `j`. -/
def followersOf (l : Ledger) (j : Nat) : List Nat :=
  l.followers[j]?.getD []

/-- The books of `count` places of which none waits. -/
def blank (count : Nat) : Ledger where
  counters := List.replicate count 0
  followers := List.replicate count []

/-- Enters that the place `i` waits for the place `j`. -/
def enter (l : Ledger) (i j : Nat) : Ledger :=
  { l with
    counters := l.counters.modify i (· + 1)
    followers := l.followers.modify j (· ++ [i]) }

/-- Enters all that a place waits for. -/
def enterRow (l : Ledger) (row : List Nat × Nat) : Ledger :=
  row.1.foldl (fun l j => l.enter row.2 j) l

/-- The books before the first place is put in order. -/
def ofTable (table : List (List Nat)) : Ledger :=
  let l := table.zipIdx.foldl enterRow (blank table.length)
  { l with ready := (List.range table.length).filter (l.counter · = 0) }

/-- Tells the place `k` that one of those it waits for is in order now. -/
def release (l : Ledger) (k : Nat) : Ledger :=
  let l := { l with counters := l.counters.modify k (· - 1) }
  if l.counter k = 0 then { l with ready := insertPlace k l.ready } else l

/-- Takes the ready place `i` out and tells those that wait for it; `rest` are the other ready
ones. -/
def emit (l : Ledger) (i : Nat) (rest : List Nat) : Ledger :=
  (l.followersOf i).foldl release { l with ready := rest }

/-- Puts places in order, the lowest that is ready next, as long as one is. Gives them with the
books as they are then. -/
def run : (fuel : Nat) → Ledger → List Nat × Ledger
  | 0, l => ([], l)
  | fuel + 1, l =>
    match l.ready with
    | [] => ([], l)
    | i :: rest =>
      let (ordered, last) := run fuel (l.emit i rest)
      (i :: ordered, last)

/-- The places that still wait for something. -/
def waiting (l : Ledger) : List Nat :=
  (List.range l.counters.length).filter fun i => 0 < l.counter i

end Ledger

/-- The order of siblings by place, or the fault that names those that still wait. -/
def dependencyOrder (siblings : List Sibling) : Except Fault (List Nat) :=
  let (ordered, last) := (Ledger.ofTable (waitTable siblings)).run siblings.length
  if ordered.length = siblings.length then .ok ordered
  else .error (.declarationCycle ((last.waiting.filterMap (siblings[·]?)).map (·.name)))

/-- Things reordered by place. -/
def pick {α : Type} (things : List α) (places : List Nat) : List α :=
  places.filterMap (things[·]?)

/-- Orders the declarations of a scope. -/
def orderTrees (scope : String) (trees : List (Tree Decl)) : Report (List (Tree Decl)) :=
  match dependencyOrder (trees.map .ofTree) with
  | .error fault => .fail fault
  | .ok places =>
    let ordered := pick trees places
    (Report.say (.declarationsOrdered scope ordered.length)).andThen fun _ => .done ordered

end SchemaGen
