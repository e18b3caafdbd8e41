import Dialogue.Text.Hex

namespace Dialogue.Unicode

open Text

/-!
# Sets of code points

A set of code points is a list of runs, each an arithmetic progression between two ends. The
tables of character classes are written as lines of text, one item per run:

* `41-5A`: every code point from 41 to 5A (hexadecimal, ends included);
* `100-136/2`: every second one;
* `AA`: one code point alone.

Items stand in ascending order, separated by single blanks.

* `CodeSet.ofText`: reads such a text.
* `CodeSet.has`: membership.
-/

/-- The code points `first`, `first + step`, … up to `last`. -/
structure Run where
  first : Nat
  last : Nat
  step : Nat
deriving Repr, DecidableEq

namespace Run

/-- Whether a code point is on the progression. -/
def has (r : Run) (n : Nat) : Bool :=
  r.first ≤ n && n ≤ r.last && (n - r.first) % r.step == 0

end Run

namespace Run

/-- Reads one item of a table. -/
def ofText (item : String) : Run :=
  let cs := item.toList
  let (ends, step) := (cs.takeWhile (· ≠ '/'), cs.dropWhile (· ≠ '/'))
  let step := match step with
    | [] => 1
    | _ :: digits => hexValue digits
  let first := hexValue (ends.takeWhile (· ≠ '-'))
  match ends.dropWhile (· ≠ '-') with
  | [] => ⟨first, first, step⟩
  | _ :: digits => ⟨first, hexValue digits, step⟩

end Run

/-- A set of code points, as runs in ascending order. -/
structure CodeSet where
  runs : Array Run := #[]
deriving Repr, DecidableEq

namespace CodeSet

/-- Reads a table, line by line. -/
def ofText (lines : List String) : CodeSet :=
  ⟨((lines.flatMap (·.splitOn " ")).map Run.ofText).toArray⟩

/-- Whether a code point is in the set. -/
def hasCode (s : CodeSet) (n : Nat) : Bool :=
  s.runs.any (·.has n)

/-- Whether a character is in the set. -/
def has (s : CodeSet) (c : Char) : Bool :=
  s.hasCode c.toNat

end CodeSet

end Dialogue.Unicode
