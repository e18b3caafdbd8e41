import Dialogue.Pattern.Automaton
import Dialogue.Pattern.Engine

namespace Dialogue.Pattern

open Unicode

/-!
# Matching

A set of places in a text is a number with one bit for each place, from the start of the text to
its end. A pattern leads from places to the places where its matches from there end.

* `Walk`: a pattern over the places of one text.
* `Walk.reach`: where the matches from some places end.
* `Pattern.compile`: the pattern of a text, within a limit on its automaton.
* `Pattern.matchesIn`: whether a pattern matches somewhere in a text.
* `Pattern.engine`: the engine that reads and matches patterns in this way.
-/

/-- A pattern over the places of one text. -/
inductive Walk
  | stay
  /-- From each of the places to the next one. -/
  | advance (places : Nat)
  /-- Only on from the places. -/
  | only (places : Nat)
  | sequence (a b : Walk)
  | choice (a b : Walk)
  | times (least : Nat) (most : Option Nat) (w : Walk)
deriving Repr

/-- A number with the bits of some places. -/
def placesWhere : List Bool → Nat
  | [] => 0
  | b :: rest => (if b then 1 else 0) + 2 * placesWhere rest

/-- Whether a character stands in words. -/
def inWord (ascii : Bool) (c : Option Char) : Bool :=
  c.any fun c => if ascii then c.isAlphanum || c == '_' else isWord c

/-- Whether a condition holds between two characters, either of which may be missing at an end of
the text. -/
def Condition.holds (before after : Option Char) : Condition → Bool
  | start => before.isNone
  | stop => after.isNone
  | startLine => before.all (· == '\n')
  | stopLine => after.all (· == '\n')
  | startLineReturn =>
    before.all (· == '\n') || (before == some '\r' && after != some '\n')
  | stopLineReturn =>
    after.all (· == '\r') || (after == some '\n' && before != some '\r')
  | wordBoundary ascii => inWord ascii before != inWord ascii after
  | noWordBoundary ascii => inWord ascii before == inWord ascii after
  | wordStart ascii => !inWord ascii before && inWord ascii after
  | wordStop ascii => inWord ascii before && !inWord ascii after
  | noWordBefore ascii => !inWord ascii before
  | noWordAfter ascii => !inWord ascii after

/-- Whether a condition holds at each place of a text, of which `before` is the last character that
was passed. -/
def Condition.along (condition : Condition) (before : Option Char) : List Char → List Bool
  | [] => [condition.holds before none]
  | c :: rest => condition.holds before (some c) :: condition.along (some c) rest

/-- A pattern over the places of a text. -/
def walk (text : List Char) : Pattern → Walk
  | .empty => .stay
  | .one r => .advance (placesWhere (text.map fun c => r.has c.toNat))
  | .place condition => .only (placesWhere (condition.along none text))
  | .sequence a b => .sequence (walk text a) (walk text b)
  | .choice a b => .choice (walk text a) (walk text b)
  | .times least most p => .times least most (walk text p)
  | .captured p => walk text p

/-- Applies a function to places a number of times. -/
def iterate (f : Nat → Nat) : Nat → Nat → Nat
  | 0, places => places
  | n + 1, places =>
    let next := f places
    if next = places then places else iterate f n next

/-- All places that are reached by applying a function up to a number of times. Places are looked
at once; `fresh` are those that have not been yet. -/
def spread (f : Nat → Nat) : Nat → Nat → Nat → Nat
  | 0, _, seen => seen
  | n + 1, fresh, seen =>
    let more := (f fresh ||| seen) ^^^ seen
    if more = 0 then seen else spread f n more (seen ||| more)

/-- Where the matches from some places end. There are `count` places in the text. -/
def Walk.reach (count : Nat) : Walk → Nat → Nat
  | .stay, places => places
  | .advance here, places => (places &&& here) <<< 1
  | .only here, places => places &&& here
  | .sequence a b, places => b.reach count (a.reach count places)
  | .choice a b, places => a.reach count places ||| b.reach count places
  | .times least most w, places =>
    let start := iterate (w.reach count) least places
    spread (w.reach count) (most.elim count (· - least)) start start

/-- The pattern that a text stands for, if its automaton keeps to the limit. -/
def compile (limit : Nat) (text : String) : Except Error Pattern :=
  match ofText text with
  | .error fault => .error (.unreadable text fault)
  | .ok p => if fits limit p then .ok p else .error (.tooLarge limit)

/-- Whether a pattern matches somewhere in a text. -/
def matchesIn (p : Pattern) (text : String) : Bool :=
  let cs := text.toList
  let count := cs.length + 1
  (walk cs p).reach count ((1 <<< count) - 1) != 0

/-- An engine that reads patterns of this syntax. -/
def engine : Engine where
  build limit text := do
    let p ← (compile (limit.getD defaultLimit) text).mapError Error.message
    return p.matchesIn

end Dialogue.Pattern
