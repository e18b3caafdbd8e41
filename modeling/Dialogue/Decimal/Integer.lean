import Dialogue.Decimal.Numeral

namespace Dialogue.Decimal

/-!
# Whole numbers as text

Digits with a sign before them, if need be, and nothing else; numbers outside given bounds are
refused.

* `readNat?`: a number from zero to a bound. It takes no minus sign.
* `readInt?`: a number between two bounds.
-/

/-- The number that digits write; none unless there are digits and nothing else. -/
def magnitude? (cs : List Char) : Option Nat :=
  if cs ≠ [] ∧ cs.all Char.isDigit then some (digitsValue cs) else none

/-- Reads a number that is at most `most`. -/
def readNat? (most : Nat) (cs : List Char) : Option Nat :=
  let digits := match cs with
    | '+' :: rest => rest
    | cs => cs
  (magnitude? digits).filter (· ≤ most)

/-- Reads a number between two bounds, both included. -/
def readInt? (least most : Int) (cs : List Char) : Option Int :=
  let (negative, digits) := takeSign cs
  let value : Option Int := (magnitude? digits).map fun n => if negative then -n else n
  value.filter fun n => least ≤ n ∧ n ≤ most

end Dialogue.Decimal
