import Dialogue.Unicode.Category

namespace Dialogue.Unicode

/-!
# Ranges of code points

Sets of code points on which the operations of sets are cheap: ranges in ascending order with gaps
between them.

* `Ranges.ofList`: puts ranges into order and joins those that touch.
* `Ranges.union`, `.complement`, `.intersect`, `.minus`, `.exclusive`: the operations.
* `NamedSet`: a table with the names it is known by.
-/

/-- The last code point. -/
def lastCode : Nat := 0x10FFFF

/-- A set of code points, as pairs of first and last ones. -/
structure Ranges where
  spans : List (Nat × Nat) := []
deriving Repr, DecidableEq

namespace Ranges

/-- Joins ranges in ascending order that overlap or touch; `first` to `last` is the range at
hand. -/
def joinFrom (first last : Nat) : List (Nat × Nat) → List (Nat × Nat)
  | [] => [(first, last)]
  | (a, b) :: rest =>
    if a ≤ last + 1 then joinFrom first (max last b) rest
    else (first, last) :: joinFrom a b rest

/-- Joins ranges in ascending order. -/
def join : List (Nat × Nat) → List (Nat × Nat)
  | [] => []
  | (a, b) :: rest => joinFrom a b rest

/-- The set of all code points in some ranges. -/
def ofList (spans : List (Nat × Nat)) : Ranges :=
  ⟨join (spans.mergeSort fun a b => a.1 ≤ b.1)⟩

/-- The set of some code points. -/
def ofCodes (codes : List Nat) : Ranges := ofList (codes.map fun n => (n, n))

/-- The set of one character. -/
def single (c : Char) : Ranges := ⟨[(c.toNat, c.toNat)]⟩

/-- The characters from one to another. -/
def between (first last : Char) : Ranges := ⟨[(first.toNat, last.toNat)]⟩

/-- Whether a code point is in the set. -/
def has (r : Ranges) (n : Nat) : Bool := r.spans.any fun s => s.1 ≤ n && n ≤ s.2

/-- The code points of either set. -/
def union (a b : Ranges) : Ranges := ofList (a.spans ++ b.spans)

/-- The gaps between ranges, from a code point to `last`. -/
def gaps (last first : Nat) : List (Nat × Nat) → List (Nat × Nat)
  | [] => if first ≤ last then [(first, last)] else []
  | (a, b) :: rest =>
    if first < a then (first, a - 1) :: gaps last (b + 1) rest else gaps last (b + 1) rest

/-- The code points up to `last` that are not in the set. -/
def complement (r : Ranges) (last : Nat) : Ranges := ⟨gaps last 0 r.spans⟩

/-- The code points of both sets. -/
def intersect (a b : Ranges) : Ranges :=
  ((a.complement lastCode).union (b.complement lastCode)).complement lastCode

/-- The code points of the first set that are not in the second. -/
def minus (a b : Ranges) : Ranges := a.intersect (b.complement lastCode)

/-- The code points of one set only. -/
def exclusive (a b : Ranges) : Ranges := (a.union b).minus (a.intersect b)

end Ranges

/-- The ranges of a set. -/
def CodeSet.ranges (s : CodeSet) : Ranges :=
  .ofList (s.runs.toList.flatMap fun r =>
    if r.step = 1 then [(r.first, r.last)]
    else (List.range ((r.last - r.first) / r.step + 1)).map fun i =>
      (r.first + i * r.step, r.first + i * r.step))

/-- A table with the names it is known by. -/
structure NamedSet where
  names : List String
  lines : List String
deriving Repr

/-- The ranges of a table. -/
def NamedSet.ranges (s : NamedSet) : Ranges := (CodeSet.ofText s.lines).ranges

end Dialogue.Unicode
