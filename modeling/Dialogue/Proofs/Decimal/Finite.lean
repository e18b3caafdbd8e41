import Dialogue.Decimal.Order
import Mathlib

namespace Dialogue.Decimal

/-!
# Finite patterns

A pattern whose exponent is not the greatest one stands for a finite value. Such a pattern is kept
as it is by the numbers that programs calculate with, and it is not the value that is no number.

* `isFinite_ofBits`: the patterns of finite values.
* `toBits_ofBits`: the number of a finite pattern has that pattern.
* `isNaN_of_isFinite`: a number with a finite pattern is a number.
-/

open Float.Model (Format)
open Float.Model.UnpackedFloat

variable {b : UInt64}

/-- The patterns of finite values are those without the greatest exponent. -/
theorem isFinite_ofBits :
    (Binary64.ofBits b).isFinite ↔ b.toNat / fractionUnit % 2048 ≠ 2047 := by
  unfold Binary64.ofBits
  by_cases htop : b.toNat / fractionUnit % 2048 = 2047
  · by_cases hfraction : b.toNat % fractionUnit = 0
    · simp [htop, hfraction, Binary64.isFinite]
    · simp [htop, hfraction, Binary64.isFinite]
  · by_cases hzero : b.toNat / fractionUnit % 2048 = 0
    · simp [hzero, Binary64.isFinite]
    · simp [htop, hzero, Binary64.isFinite]

/-! ### Numbers of finite patterns -/

theorem toNat_unpackExponent (v : BitVec Format.binary64.numBits) :
    (unpackExponent v).toNat = v.toNat / fractionUnit % 2048 := by
  have hunit : fractionUnit = 2 ^ 52 := rfl
  rw [hunit]
  simp [unpackExponent, Nat.shiftRight_eq_div_pow]

/-- The exponent of a finite pattern is not the greatest one. -/
theorem unpackExponent_ne (h : (Binary64.ofBits b).isFinite) :
    @unpackExponent .binary64 b.toBitVec ≠ -1#11 := by
  intro htop
  have hnat := toNat_unpackExponent b.toBitVec
  rw [htop] at hnat
  exact isFinite_ofBits.1 h hnat.symm

/-- The number of a finite pattern has that pattern. -/
theorem toBits_ofBits (h : (Binary64.ofBits b).isFinite) : (Float.ofBits b).toBits = b := by
  have hnumber : ¬@isNaNBits .binary64 b.toBitVec := by
    intro hnan
    exact unpackExponent_ne h (of_decide_eq_true hnan).1
  show UInt64.ofBitVec (pack .binary64 (unpack .binary64 b.toBitVec)) = b
  rw [pack_unpack, if_neg hnumber]

/-- A number with a finite pattern is a number. -/
theorem isNaN_of_isFinite {n : Float} (h : (Binary64.ofBits n.toBits).isFinite) :
    n.isNaN = false := by
  show (unpack .binary64 n.toBits.toBitVec).isNaN = false
  unfold unpack
  rw [if_neg (unpackExponent_ne h)]
  split
  · split <;> rfl
  · rfl

end Dialogue.Decimal
