namespace Dialogue.Decimal

/-!
# The bounds of 64 bits

* `greatestWord`: the greatest number without a sign.
* `leastInteger`, `greatestInteger`: the bounds of numbers with a sign.
-/

/-- The greatest number of 64 bits without a sign. -/
def greatestWord : Nat := 0xFFFFFFFFFFFFFFFF

/-- The least number of 64 bits with a sign. -/
def leastInteger : Int := -0x8000000000000000

/-- The greatest number of 64 bits with a sign. -/
def greatestInteger : Int := 0x7FFFFFFFFFFFFFFF

end Dialogue.Decimal
