import Dialogue.Pattern.Escape

namespace Dialogue.Pattern

open Unicode

/-!
# Sets in brackets

Sets of characters are written as items and ranges in brackets. They can be negated, nested, and
put together by operators, which bind less tightly than standing side by side.

* `OpenSet`: a set whose bracket is not closed yet.
* `bracketed`: takes a set off the front of a pattern.
-/

/-- How two sets in brackets are put together. -/
inductive SetOp
  | intersect
  | minus
  | exclusive
deriving Repr, DecidableEq

/-- The result of an operation on sets. -/
def SetOp.apply (f : Flags) (op : SetOp) (a b : Ranges) : Ranges :=
  match op with
  | intersect => (f.folded a).intersect (f.folded b)
  | minus => (f.folded a).minus (f.folded b)
  | exclusive => (f.folded a).exclusive (f.folded b)

/-- A set in brackets that is not closed yet. -/
structure OpenSet where
  negate : Bool
  /-- What stands before the last operator. -/
  left : Option (Ranges × SetOp)
  /-- What stands after it. -/
  union : Ranges
  items : Nat
  depth : Nat
deriving Repr

namespace OpenSet

/-- Adds a set; `depth` tells how deep brackets are nested in it. -/
def add (s : OpenSet) (r : Ranges) (depth : Nat) : OpenSet :=
  { s with union := s.union.union r, items := s.items + 1, depth := max s.depth depth }

/-- The set of all that stands there so far. -/
def value (s : OpenSet) (f : Flags) : Ranges :=
  match s.left with
  | none => s.union
  | some (left, op) => op.apply f left s.union

/-- Goes on after an operator. -/
def operate (s : OpenSet) (f : Flags) (op : SetOp) : OpenSet :=
  { s with left := some (s.value f, op), union := {}, items := 0, depth := s.depth + 2 }

/-- The set when the bracket closes. -/
def close (s : OpenSet) (f : Flags) : Ranges :=
  f.negated s.negate (f.folded (s.value f))

/-- How deep brackets are nested, with these. -/
def nesting (s : OpenSet) : Nat := s.depth + (if s.items = 1 then 1 else 2)

end OpenSet

/-- Takes hyphens off the start of a set; they stand for themselves. -/
def leadingHyphens (f : Flags) (s : OpenSet) :
    List Char → List Char → Except Fault (OpenSet × List Char)
  | _ :: fuel, '-' :: rest => leadingHyphens f (s.add (.single '-') 0) fuel (f.skip rest)
  | _, [] => .error .classUnclosed
  | _, cs => .ok (s, cs)

/-- Takes off what opens a set: after the bracket a circumflex that negates it, hyphens, and a
closing bracket that stands for itself. -/
def openSet (f : Flags) (cs : List Char) : Except Fault (OpenSet × List Char) := do
  let (negate, cs) := match f.skip cs with
    | '^' :: rest => (true, f.skip rest)
    | cs => (false, cs)
  let (s, cs) ← leadingHyphens f ⟨negate, none, {}, 0, 0⟩ cs cs
  match s.items, cs with
  | 0, ']' :: rest =>
    match f.skip rest with
    | [] => .error .classUnclosed
    | rest => return (s.add (.single ']') 0, rest)
  | _, _ => return (s, cs)

/-- The named sets of ASCII characters. -/
def asciiSet? (name : String) : Option Ranges :=
  match name with
  | "alnum" => some ⟨[(48, 57), (65, 90), (97, 122)]⟩
  | "alpha" => some ⟨[(65, 90), (97, 122)]⟩
  | "ascii" => some ⟨[(0, 127)]⟩
  | "blank" => some ⟨[(9, 9), (32, 32)]⟩
  | "cntrl" => some ⟨[(0, 31), (127, 127)]⟩
  | "digit" => some ⟨[(48, 57)]⟩
  | "graph" => some ⟨[(33, 126)]⟩
  | "lower" => some ⟨[(97, 122)]⟩
  | "print" => some ⟨[(32, 126)]⟩
  | "punct" => some ⟨[(33, 47), (58, 64), (91, 96), (123, 126)]⟩
  | "space" => some ⟨[(9, 13), (32, 32)]⟩
  | "upper" => some ⟨[(65, 90)]⟩
  | "word" => some ⟨[(48, 57), (65, 90), (95, 95), (97, 122)]⟩
  | "xdigit" => some ⟨[(48, 57), (65, 70), (97, 102)]⟩
  | _ => none

/-- Takes a named set of ASCII characters off, which stands as `[:name:]`. -/
def namedSet? (f : Flags) (cs : List Char) : Option (Ranges × List Char) :=
  match cs with
  | ':' :: rest =>
    let (negate, rest) := match rest with
      | '^' :: rest => (true, rest)
      | rest => (false, rest)
    match rest.dropWhile (· != ':') with
    | ':' :: ']' :: after =>
      (asciiSet? (String.ofList (rest.takeWhile (· != ':')))).map fun r =>
        (f.negated negate (f.folded r), after)
    | _ => none
  | _ => none

/-- Takes one item of a set off: an escape or a character. -/
def setItem (f : Flags) : List Char → Except Fault (Escape × List Char)
  | [] => .error .classUnclosed
  | '\\' :: rest => escape f rest
  | c :: rest => .ok (.char c, rest)

/-- The set of an item. -/
def Escape.ranges (f : Flags) : Escape → Except Fault Ranges
  | char c => if !f.unicode && 127 < c.toNat then .error .notUnicode else .ok (.single c)
  | set r => .ok r
  | place _ => .error .classEscape

/-- The character that an item stands for at an end of a range. -/
def Escape.endOf (f : Flags) : Escape → Except Fault Char
  | char c => if !f.unicode && 127 < c.toNat then .error .notUnicode else .ok c
  | _ => .error .rangeEnds

/-- Takes an item or a range off. A hyphen makes a range unless a closing bracket or another hyphen
follows it. -/
def setRange (f : Flags) (cs : List Char) : Except Fault (Ranges × List Char) := do
  let (first, rest) ← setItem f cs
  match f.skip rest with
  | [] => .error .classUnclosed
  | '-' :: more =>
    match f.skip more with
    | ']' :: _ | '-' :: _ => return (← first.ranges f, '-' :: more)
    | more =>
      let (second, rest) ← setItem f more
      let a ← first.endOf f
      let b ← second.endOf f
      if a ≤ b then return (.between a b, rest) else .error .rangeReversed
  | rest => return (← first.ranges f, rest)

/-- Takes the rest of a set in brackets off. `outer` holds the sets around it. The result has the
depth of the nesting. Every turn takes a character. -/
def setFrom (f : Flags) :
    List Char → OpenSet → List OpenSet → List Char → Except Fault ((Ranges × Nat) × List Char)
  | [], _, _, _ => .error .classUnclosed
  | _ :: fuel, s, outer, cs =>
    match f.skip cs with
    | [] => .error .classUnclosed
    | '[' :: rest =>
      match namedSet? f rest with
      | some (r, rest) => setFrom f fuel (s.add r 0) outer rest
      | none => do
        let (inner, rest) ← openSet f rest
        setFrom f fuel inner (s :: outer) rest
    | ']' :: rest =>
      match outer with
      | [] => .ok ((s.close f, s.nesting), rest)
      | o :: outer => setFrom f fuel (o.add (s.close f) s.nesting) outer rest
    | '&' :: '&' :: rest => setFrom f fuel (s.operate f .intersect) outer rest
    | '-' :: '-' :: rest => setFrom f fuel (s.operate f .minus) outer rest
    | '~' :: '~' :: rest => setFrom f fuel (s.operate f .exclusive) outer rest
    | cs => do
      let (r, rest) ← setRange f cs
      setFrom f fuel (s.add r 0) outer rest

/-- Takes a set in brackets off, after the opening bracket. -/
def bracketed (f : Flags) (cs : List Char) : Except Fault ((Ranges × Nat) × List Char) := do
  let (s, rest) ← openSet f cs
  setFrom f cs s [] rest

end Dialogue.Pattern
