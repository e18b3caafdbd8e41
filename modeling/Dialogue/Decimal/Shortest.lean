import Dialogue.Decimal.Binary64

namespace Dialogue.Decimal

/-!
# The shortest decimal

The decimal with the fewest digits that reads back as a given binary64 value, and the nearest of
those. For one digit, two digits, … up to seventeen, the two decimals on both sides of the value
are tried; the first length at which one of them reads back wins.

* `shortest`: the digits of `m · 2^q` and their exponent.
-/

/-- A decimal `digits · 10^exponent`. -/
structure Digits where
  digits : Nat
  exponent : Int
deriving Repr, DecidableEq

/-- Which of two equally near decimals is taken. -/
inductive Tie
  | up
  | toEven
deriving Repr, DecidableEq

/-- The decimal digits of a number, most significant first. -/
def digitChars (n : Nat) : List Char :=
  Nat.toDigits 10 n

/-- The number of decimal digits of a number. -/
def digitCount (n : Nat) : Nat :=
  (digitChars n).length

/-- `m · 2^q` as a quotient. -/
def Magnitude.quotient (v : Magnitude) : Nat × Nat :=
  scaled v.m 1 v.q

/-- The exponent `e` with `10^e ≤ m · 2^q < 10^(e+1)`, for a positive value. -/
def Magnitude.decimalExponent (v : Magnitude) : Int :=
  let (num, den) := v.quotient
  if den ≤ num then ((digitCount (num / den) : Nat) : Int) - 1
  else
    let k := digitCount (den / num)
    if den ≤ num * Nat.pow 10 (k - 1) then -((k - 1 : Nat) : Int) else -(k : Int)

/-- Whether a decimal reads back as `v`: it rounds to the same pattern. -/
def Magnitude.readsBack (v : Magnitude) (d : Digits) : Bool :=
  let (num, den) := v.quotient
  let bits :=
    if 0 ≤ d.exponent then nearestBits (d.digits * Nat.pow 10 d.exponent.toNat) 1
    else nearestBits d.digits (Nat.pow 10 (-d.exponent).toNat)
  bits == nearestBits num den

/-- The decimal nearest to `v` on the grid of multiples of `10^e`, among the two neighbours that
read back. -/
def Magnitude.onGrid (v : Magnitude) (tie : Tie) (e : Int) : Option Digits :=
  let (num, den) := v.quotient
  let (a, b) :=
    if 0 ≤ e then (num, den * Nat.pow 10 e.toNat) else (num * Nat.pow 10 (-e).toNat, den)
  let below : Digits := ⟨a / b, e⟩
  let above : Digits := ⟨a / b + 1, e⟩
  let rest := a % b
  match v.readsBack below, v.readsBack above with
  | true, true =>
    if 2 * rest < b then some below
    else if b < 2 * rest then some above
    else match tie with
      | .up => some above
      | .toEven => if below.digits % 2 = 0 then some below else some above
  | true, false => some below
  | false, true => some above
  | false, false => none

/-- Drops the zeros at the end of the digits. -/
def Digits.trim (fuel : Nat) (d : Digits) : Digits :=
  match fuel with
  | 0 => d
  | fuel + 1 =>
    if d.digits ≠ 0 ∧ d.digits % 10 = 0 then trim fuel ⟨d.digits / 10, d.exponent + 1⟩ else d

/-- The shortest decimal of a positive value. -/
def shortest (tie : Tie) (v : Magnitude) : Digits :=
  let e := v.decimalExponent
  let tries := (List.range 17).findSome? fun n => v.onGrid tie (e - Int.ofNat n)
  (tries.getD ⟨v.m, 0⟩).trim 20

end Dialogue.Decimal
