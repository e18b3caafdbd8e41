import Dialogue.Decimal.Shortest

namespace Dialogue.Decimal

/-!
# Numerals

The written form of a number: an optional sign, then digits with an optional point and exponent,
or the name of an infinity or of the value that is no number. At least one digit stands before or
after the point, and at least one in an exponent.

* `Numeral.read?`: reads a whole text.
* `Numeral.bits`: the binary64 value nearest to a numeral.
-/

/-- A number as it is written. -/
inductive Numeral
  | decimal (negative : Bool) (digits : Digits)
  | infinity (negative : Bool)
  | notANumber
deriving Repr, DecidableEq

/-- The number written by decimal digits. -/
def digitsValue (cs : List Char) : Nat :=
  cs.foldl (fun n c => n * 10 + (c.toNat - '0'.toNat)) 0

/-- Takes a sign off: whether it is a minus, and what follows it. -/
def takeSign : List Char → Bool × List Char
  | '-' :: rest => (true, rest)
  | '+' :: rest => (false, rest)
  | cs => (false, cs)

namespace Numeral

/-- Reads the exponent that ends a numeral; nothing at all is the exponent zero. -/
def exponent? : List Char → Option Int
  | [] => some 0
  | c :: rest =>
    if c = 'e' ∨ c = 'E' then
      let (negative, digits) := takeSign rest
      if digits ≠ [] ∧ digits.all Char.isDigit then
        let n := digitsValue digits
        some (if negative then -(n : Int) else n)
      else none
    else none

/-- Reads a numeral without sign or name: digits, an optional point with digits, an exponent. -/
def decimal? (cs : List Char) : Option Digits :=
  let whole := cs.takeWhile Char.isDigit
  let (places, rest) := match cs.dropWhile Char.isDigit with
    | '.' :: rest => (rest.takeWhile Char.isDigit, rest.dropWhile Char.isDigit)
    | rest => ([], rest)
  if whole = [] ∧ places = [] then none
  else (exponent? rest).map fun e => ⟨digitsValue (whole ++ places), e - places.length⟩

/-- Reads a numeral. Names are read in any case. -/
def read? (cs : List Char) : Option Numeral :=
  let (negative, body) := takeSign cs
  match String.ofList (body.map Char.toLower) with
  | "inf" | "infinity" => some (.infinity negative)
  | "nan" => some .notANumber
  | _ => (decimal? body).map (.decimal negative)

end Numeral

/-- The pattern nearest to a decimal. Decimals far beyond the range of the format are not
expanded. -/
def Digits.bits (d : Digits) : UInt64 :=
  if d.digits = 0 then 0
  else
    let top := d.exponent + (digitCount d.digits : Int)
    if 400 < top then infinityBits
    else if top < -400 then 0
    else if 0 ≤ d.exponent then nearestBits (d.digits * Nat.pow 10 d.exponent.toNat) 1
    else nearestBits d.digits (Nat.pow 10 (-d.exponent).toNat)

/-- The pattern of the value that is no number. -/
def notANumberBits : UInt64 := 0x7FF8000000000000

/-- The pattern nearest to a numeral. -/
def Numeral.bits : Numeral → UInt64
  | .decimal negative d => withSign negative d.bits
  | .infinity negative => withSign negative infinityBits
  | .notANumber => notANumberBits

/-- Reads a text as a number. -/
def readFloat? (cs : List Char) : Option Float :=
  (Numeral.read? cs).map fun n => Float.ofBits n.bits

end Dialogue.Decimal
