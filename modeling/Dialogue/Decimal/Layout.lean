import Dialogue.Decimal.Shortest

namespace Dialogue.Decimal

/-!
# Layouts of decimals

How the digits of a decimal are laid out: with a point at its place, with an exponent, or with a
fixed number of places.

* `Layout`: which exponents are written positionally, and how whole numbers end.
* `Layout.text`: the text of a finite value.
* `fixedText`: the text with a fixed number of places, correctly rounded.
-/

/-- The decisions of a number format. A value is written positionally when the exponent of its
first digit is within `least` and `most`; without bounds it always is. -/
structure Layout where
  least : Option Int
  most : Option Int
  /-- Whether a whole number ends in `.0`. -/
  pointZero : Bool
  tie : Tie

namespace Layout

/-- The text of an integer. -/
def intText (n : Int) : List Char :=
  if n < 0 then '-' :: digitChars n.natAbs else digitChars n.natAbs

/-- Digits with the point at its place. -/
def positional (pointZero : Bool) (d : Digits) : List Char :=
  let cs := digitChars d.digits
  if 0 ≤ d.exponent then
    cs ++ List.replicate d.exponent.toNat '0' ++ (if pointZero then ['.', '0'] else [])
  else
    let places := (-d.exponent).toNat
    if places < cs.length then
      cs.take (cs.length - places) ++ '.' :: cs.drop (cs.length - places)
    else '0' :: '.' :: (List.replicate (places - cs.length) '0' ++ cs)

/-- Digits with one before the point, and the exponent of that one. -/
def scientific (d : Digits) : List Char :=
  let cs := digitChars d.digits
  let top := d.exponent + (cs.length : Int) - 1
  let mantissa := match cs with
    | [] => []
    | [c] => [c]
    | c :: rest => c :: '.' :: rest
  mantissa ++ 'e' :: intText top

/-- Whether a decimal is written positionally. -/
def isPositional (f : Layout) (d : Digits) : Bool :=
  let top := d.exponent + (digitCount d.digits : Int) - 1
  f.least.all (· ≤ top) && f.most.all (top ≤ ·)

/-- The text of a magnitude. -/
def magnitudeText (f : Layout) (v : Magnitude) : List Char :=
  if v.m = 0 then positional f.pointZero ⟨0, 0⟩
  else
    let d := shortest f.tie v
    if f.isPositional d then positional f.pointZero d else scientific d

/-- The text of a binary64 value. -/
def text (f : Layout) (bits : UInt64) : List Char :=
  match Binary64.ofBits bits with
  | .finite negative v => (if negative then ['-'] else []) ++ f.magnitudeText v
  | .infinite negative => (if negative then ['-'] else []) ++ ['i', 'n', 'f']
  | .notANumber => ['N', 'a', 'N']

end Layout

/-- The text of a magnitude with a fixed number of places: the exact value rounded to the nearest
decimal of that many places, a tie going to the even one. -/
def Magnitude.fixedText (v : Magnitude) (places : Nat) : List Char :=
  let (num, den) := v.quotient
  let n := roundHalfEven (num * Nat.pow 10 places) den
  let cs := digitChars n
  let cs := List.replicate (places + 1 - cs.length) '0' ++ cs
  if places = 0 then cs
  else cs.take (cs.length - places) ++ '.' :: cs.drop (cs.length - places)

/-- The text of a finite value with a fixed number of places; the sign is kept on zero. -/
def fixedText (bits : UInt64) (places : Nat) : List Char :=
  match Binary64.ofBits bits with
  | .finite negative v => (if negative then ['-'] else []) ++ v.fixedText places
  | .infinite negative => (if negative then ['-'] else []) ++ ['i', 'n', 'f']
  | .notANumber => ['N', 'a', 'N']

end Dialogue.Decimal
