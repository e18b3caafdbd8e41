import Dialogue.Decimal.Numeral
import Dialogue.Time.Date
import Dialogue.Unicode.Classes

namespace Dialogue.Time

/-!
# Instants

A point in time, to the nanosecond, in universal time. The written form is a date, a time and an
offset, `2026-03-01T09:30:00.5Z`. A second with number 60 is kept as the 59th with more than a
thousand million nanoseconds.

* `Instant.text`: the written form, with a fraction of 0, 3, 6 or 9 digits as needed.
* `Instant.read?`: reads a written form with any offset. Numbers may have fewer digits than they
  are written with, blanks may stand before them, and digits after the ninth of a fraction are
  dropped.
-/

/-- Seconds since 1970-01-01T00:00:00, and nanoseconds on top of them. -/
structure Instant where
  seconds : Int
  nanos : Nat := 0
deriving Repr, DecidableEq

/-- The seconds of a day. -/
def daySeconds : Int := 86400

/-- The nanoseconds of a second. -/
def secondNanos : Nat := 1000000000

/-- How universal time is marked. -/
inductive ZoneMark
  /-- `Z`. -/
  | letter
  /-- `+00:00`. -/
  | offset
deriving Repr, DecidableEq

namespace Instant

/-- The day of an instant, counted from 1970-01-01. -/
def days (t : Instant) : Int :=
  Int.fdiv t.seconds daySeconds

/-- The text of a fraction of a second. -/
def fractionText (nanos : Nat) : List Char :=
  if nanos = 0 then []
  else if nanos % 1000000 = 0 then '.' :: padded 3 (nanos / 1000000)
  else if nanos % 1000 = 0 then '.' :: padded 6 (nanos / 1000)
  else '.' :: padded 9 nanos

/-- The written form of an instant. -/
def textWith (mark : ZoneMark) (t : Instant) : List Char :=
  let time := (t.seconds - t.days * daySeconds).toNat
  let (second, nanos) :=
    if secondNanos ≤ t.nanos then (time % 60 + 1, t.nanos - secondNanos)
    else (time % 60, t.nanos)
  let zone := match mark with
    | .letter => ['Z']
    | .offset => ['+', '0', '0', ':', '0', '0']
  (Date.ofDays t.days).text ++ 'T' :: (padded 2 (time / 3600) ++ ':' ::
    (padded 2 (time / 60 % 60) ++ ':' :: (padded 2 second ++ (fractionText nanos ++ zone))))

/-- The written form of an instant, marked with `Z`. -/
def text (t : Instant) : String :=
  String.ofList (t.textWith .letter)

/-! ### Reading -/

/-- Drops blanks. -/
def skipBlanks (cs : List Char) : List Char :=
  cs.dropWhile Unicode.isBlank

/-- Reads a number of at least one and at most `width` digits, after blanks. -/
def takeNumber (width : Nat) (cs : List Char) : Option (Nat × List Char) :=
  let cs := skipBlanks cs
  let digits := (cs.take width).takeWhile Char.isDigit
  if digits = [] then none else some (Decimal.digitsValue digits, cs.drop digits.length)

/-- Reads a year: up to four digits, or a sign and any number of digits. -/
def takeYear (cs : List Char) : Option (Int × List Char) :=
  let signed (negative : Bool) (cs : List Char) : Option (Int × List Char) :=
    let digits := cs.takeWhile Char.isDigit
    if digits = [] then none
    else
      let n : Int := Decimal.digitsValue digits
      some (if negative then -n else n, cs.dropWhile Char.isDigit)
  match skipBlanks cs with
  | '-' :: rest => signed true rest
  | '+' :: rest => signed false rest
  | cs => (takeNumber 4 cs).map fun (n, rest) => ((n : Int), rest)

/-- Reads a mark that is exactly `c`, after blanks. -/
def takeMark (c : Char) (cs : List Char) : Option (List Char) :=
  match skipBlanks cs with
  | d :: rest => if c = d then some rest else none
  | [] => none

/-- Reads a fraction of a second as nanoseconds, if there is one. -/
def takeFraction : List Char → Option (Nat × List Char)
  | '.' :: rest =>
    let digits := rest.takeWhile Char.isDigit
    let nine := digits.take 9
    if digits = [] then none
    else some (Decimal.digitsValue nine * Nat.pow 10 (9 - nine.length), rest.dropWhile Char.isDigit)
  | cs => some (0, cs)

/-- Reads the hours and minutes of an offset, as seconds. -/
def takeOffsetDigits (cs : List Char) : Option (Int × List Char) :=
  match cs with
  | a :: b :: rest =>
    if a.isDigit && b.isDigit then
      match rest.dropWhile fun c => c == ':' || Unicode.isBlank c with
      | c :: d :: rest =>
        if '0' ≤ c && c ≤ '5' && d.isDigit then
          some ((Decimal.digitsValue [a, b] * 3600 + Decimal.digitsValue [c, d] * 60 : Nat), rest)
        else none
      | _ => none
    else none
  | _ => none

/-- Reads an offset from universal time, in seconds. -/
def takeOffset (cs : List Char) : Option (Int × List Char) :=
  match cs with
  | 'Z' :: rest | 'z' :: rest => some (0, rest)
  | '+' :: rest => takeOffsetDigits rest
  | '-' :: rest | '−' :: rest => (takeOffsetDigits rest).map fun (n, rest) => (-n, rest)
  | a :: b :: c :: rest =>
    if [a, b, c].map Char.toUpper = ['U', 'T', 'C'] then some (0, rest) else none
  | _ => none

/-- The years that can be told apart. -/
def yearInRange (year : Int) : Bool :=
  -262143 ≤ year && year ≤ 262142

/-- The instant of a date and a time with an offset. -/
def ofParts? (date : Date) (hour minute second nanos : Nat) (offset : Int) : Option Instant :=
  if date.valid && yearInRange date.year && hour < 24 && minute < 60 && second ≤ 60 &&
      -daySeconds < offset && offset < daySeconds then
    let leap := second = 60
    let time : Int := hour * 3600 + minute * 60 + (if leap then 59 else second)
    let t : Instant :=
      ⟨date.toDays * daySeconds + time - offset, if leap then nanos + secondNanos else nanos⟩
    if yearInRange (Date.ofDays t.days).year then some t else none
  else none

/-- Reads a written form. -/
def read? (text : String) : Option Instant := do
  let (year, cs) ← takeYear text.toList
  let cs ← takeMark '-' cs
  let (month, cs) ← takeNumber 2 cs
  let cs ← takeMark '-' cs
  let (day, cs) ← takeNumber 2 cs
  let cs ← match cs with
    | c :: rest => if c = 'T' ∨ c = 't' ∨ c = ' ' then some rest else none
    | [] => none
  let (hour, cs) ← takeNumber 2 cs
  let cs ← takeMark ':' cs
  let (minute, cs) ← takeNumber 2 cs
  let cs ← takeMark ':' cs
  let (second, cs) ← takeNumber 2 cs
  let (nanos, cs) ← takeFraction cs
  let (offset, cs) ← takeOffset (skipBlanks cs)
  if skipBlanks cs = [] then ofParts? ⟨year, month, day⟩ hour minute second nanos offset else none

end Instant

end Dialogue.Time
