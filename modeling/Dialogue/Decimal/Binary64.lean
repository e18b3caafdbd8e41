namespace Dialogue.Decimal

/-!
# Binary64 values

A finite binary64 value is `m · 2^q` with `m < 2^53` and `-1074 ≤ q`. Everything here is exact
arithmetic on natural numbers.

* `Magnitude.ofBits`: the value of a bit pattern, without its sign.
* `nearestBits`: the pattern nearest to a quotient, a tie going to the even pattern.
-/

/-- A value `m · 2^q`. -/
structure Magnitude where
  m : Nat
  q : Int
deriving Repr, DecidableEq

/-- What a bit pattern stands for. -/
inductive Binary64
  | finite (negative : Bool) (magnitude : Magnitude)
  | infinite (negative : Bool)
  | notANumber
deriving Repr, DecidableEq

/-- The bits below the sign. -/
def magnitudeMask : Nat := 0x7FFFFFFFFFFFFFFF

/-- The number of patterns with the same sign and exponent. -/
def fractionUnit : Nat := 1 <<< 52

/-- The value of a bit pattern. -/
def Binary64.ofBits (bits : UInt64) : Binary64 :=
  let n := bits.toNat
  let negative := magnitudeMask < n
  let fraction : Nat := n % fractionUnit
  let exponent : Nat := n / fractionUnit % 2048
  if exponent = 2047 then
    if fraction = 0 then .infinite negative else .notANumber
  else if exponent = 0 then .finite negative ⟨fraction, -1074⟩
  else .finite negative ⟨fractionUnit + fraction, Int.ofNat exponent - 1075⟩

/-- `num / den` rounded to the nearest integer, a tie going to the even one. -/
def roundHalfEven (num den : Nat) : Nat :=
  let (quotient, rest) := (num / den, num % den)
  if 2 * rest < den then quotient
  else if den < 2 * rest then quotient + 1
  else quotient + quotient % 2

/-- The quotient `num / den` scaled by `2^k`, as a numerator and a denominator. -/
def scaled (num den : Nat) (k : Int) : Nat × Nat :=
  if 0 ≤ k then (num <<< k.toNat, den) else (num, den <<< (-k).toNat)

/-- The `q` for which `num / den` has 53 bits before the point when divided by `2^q`, but not below
the least exponent of the format. -/
def exponentFor (num den : Nat) : Int :=
  let guess := (Nat.log2 num : Int) - Nat.log2 den
  let (a, b) := scaled num den (-guess)
  let top := if a < b then guess - 1 else guess
  max (top - 52) (-1074)

/-- The pattern of the positive infinity. -/
def infinityBits : UInt64 := 0x7FF0000000000000

/-- The pattern of the value nearest to `num / den`; too large a quotient becomes infinite. -/
def nearestBits (num den : Nat) : UInt64 :=
  if num = 0 then 0
  else
    let q := exponentFor num den
    let (a, b) := scaled num den (-q)
    let m := roundHalfEven a b
    let bits :=
      if q = -1074 then m else ((q + 1075).toNat - 1) * fractionUnit + m
    if infinityBits.toNat ≤ bits then infinityBits else bits.toUInt64

/-- Sets the sign of a pattern that has none. -/
def withSign (negative : Bool) (bits : UInt64) : UInt64 :=
  if negative then bits ||| 0x8000000000000000 else bits

end Dialogue.Decimal
