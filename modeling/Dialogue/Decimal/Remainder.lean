import Dialogue.Decimal.Numeral

namespace Dialogue.Decimal

/-!
# Remainders

* `remainderBits`: what is left of a binary64 value after a division whose quotient is cut to an
  integer. It is exact and has the sign of the dividend.
-/

/-- The remainder of magnitudes; the divisor is not zero. -/
def Magnitude.remainder (a b : Magnitude) : Magnitude :=
  let q := min a.q b.q
  ⟨(a.m <<< (a.q - q).toNat) % (b.m <<< (b.q - q).toNat), q⟩

/-- The pattern nearest to a magnitude. -/
def Magnitude.bits (v : Magnitude) : UInt64 :=
  if 0 ≤ v.q then nearestBits (v.m <<< v.q.toNat) 1 else nearestBits v.m (1 <<< (-v.q).toNat)

/-- The pattern of the remainder of two values, given by their patterns. -/
def remainderBits (a b : UInt64) : UInt64 :=
  match Binary64.ofBits a, Binary64.ofBits b with
  | .finite negative v, .finite _ w =>
    if w.m = 0 then notANumberBits else withSign negative (v.remainder w).bits
  | .finite _ _, .infinite _ => a
  | _, _ => notANumberBits

end Dialogue.Decimal
