import Dialogue.Decimal.Numeral
import Dialogue.Text.Trim

namespace Dialogue.Decimal

/-!
# The order of finite values

* `Binary64.isFinite`: whether a value is a number.
* `Binary64.less`: the order of finite values, in exact arithmetic.
* `finite?`: the finite value that a text stands for.
-/

namespace Binary64

/-- Whether a value is a number. -/
def isFinite : Binary64 → Bool
  | finite _ _ => true
  | _ => false

end Binary64

/-- A magnitude with a sign, in units of `2^q`; `q` is not above that of the magnitude. -/
def Magnitude.inUnits (v : Magnitude) (negative : Bool) (q : Int) : Int :=
  let n : Int := (v.m <<< (v.q - q).toNat : Nat)
  if negative then -n else n

/-- Whether a finite value is less than another one. Zeros of both signs are alike. -/
def Binary64.less : Binary64 → Binary64 → Bool
  | .finite s v, .finite t w => v.inUnits s (min v.q w.q) < w.inUnits t (min v.q w.q)
  | _, _ => false

/-- The finite value that a text stands for; blanks around it do not count. -/
def finite? (text : String) : Option Binary64 :=
  ((Numeral.read? (Text.trim text.toList)).map fun n => Binary64.ofBits n.bits).filter
    Binary64.isFinite

end Dialogue.Decimal
