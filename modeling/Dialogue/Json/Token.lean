import Dialogue.Decimal.Layout
import Dialogue.Decimal.Word
import Dialogue.Json.Value
import Dialogue.Text.Hex

namespace Dialogue.Json

open Decimal Text

/-!
# The tokens of JSON text

* `Token.text`: the compact written form of a token.
* `Token.next`: takes the first token off a text.
* `Token.scan`: all tokens of a text, up to the first fault.

A number is kept exact where 64 bits hold it; any other number becomes a binary64 value, computed
from a significand of 64 bits and a power of ten.
-/

/-- A token of JSON text. -/
inductive Token
  | openArray
  | closeArray
  | openObject
  | closeObject
  | comma
  | colon
  | null
  | bool (b : Bool)
  | num (n : Number)
  | str (s : String)
deriving Repr, DecidableEq

/-- Why a text is no JSON text. -/
inductive Fault
  | endOfText (place : String)
  | expectedValue
  | expectedName
  | expectedColon
  | expectedCommaOrBracket
  | expectedCommaOrBrace
  | trailingComma
  | trailingText
  | badWord
  | badNumber
  | numberRange
  | badEscape
  | loneSurrogate
  | controlCharacter
  | tooDeep
deriving Repr, DecidableEq

namespace Fault

/-- The wording of a fault. -/
def message : Fault → String
  | .endOfText place => "EOF while parsing " ++ place
  | .expectedValue => "expected value"
  | .expectedName => "key must be a string"
  | .expectedColon => "expected `:`"
  | .expectedCommaOrBracket => "expected `,` or `]`"
  | .expectedCommaOrBrace => "expected `,` or `\x7d`"
  | .trailingComma => "trailing comma"
  | .trailingText => "trailing characters"
  | .badWord => "expected ident"
  | .badNumber => "invalid number"
  | .numberRange => "number out of range"
  | .badEscape => "invalid escape"
  | .loneSurrogate => "lone surrogate in hex escape"
  | .controlCharacter => "control character found while parsing a string"
  | .tooDeep => "recursion limit exceeded"

end Fault

/-! ### Written forms -/

/-- A character inside quotes: quotes, backslashes and control characters are escaped. -/
def escapeChar (c : Char) : List Char :=
  if c = '"' then ['\\', '"']
  else if c = '\\' then ['\\', '\\']
  else if c = '\x08' then ['\\', 'b']
  else if c = '\x0c' then ['\\', 'f']
  else if c = '\n' then ['\\', 'n']
  else if c = '\r' then ['\\', 'r']
  else if c = '\t' then ['\\', 't']
  else if c.toNat < 32 then
    ['\\', 'u', '0', '0', hexChar (c.toNat / 16), hexChar (c.toNat % 16)]
  else [c]

/-- A text in quotes. -/
def quoted (s : String) : List Char :=
  '"' :: (s.toList.flatMap escapeChar ++ ['"'])

/-- Numbers are written with the fewest digits that read back, positionally from `1e-5` up to
`1e16`; a whole number keeps a fraction. -/
def numberLayout : Layout where
  least := some (-5)
  most := some 15
  pointZero := true
  tie := .toEven

/-- The written form of a number. -/
def Number.text : Number → List Char
  | .int n => Layout.intText n
  | .float bits => numberLayout.text bits

/-- The written form of a token. -/
def Token.text : Token → List Char
  | .openArray => ['[']
  | .closeArray => [']']
  | .openObject => ['\x7b']
  | .closeObject => ['\x7d']
  | .comma => [',']
  | .colon => [':']
  | .null => ['n', 'u', 'l', 'l']
  | .bool true => ['t', 'r', 'u', 'e']
  | .bool false => ['f', 'a', 'l', 's', 'e']
  | .num n => n.text
  | .str s => quoted s

/-! ### Numbers -/

/-- A significand that is being read, with its power of ten. Once a digit does not fit, `full` is
set. -/
structure Significand where
  value : Nat := 0
  exponent : Int := 0
  full : Bool := false
deriving Repr, DecidableEq

namespace Significand

/-- The value of a digit. -/
def digit (c : Char) : Nat := c.toNat - '0'.toNat

/-- Reads a digit before the point. A digit that does not fit raises the power of ten. -/
def pushWhole (s : Significand) (c : Char) : Significand :=
  if s.full then ⟨s.value, s.exponent + 1, true⟩
  else if greatestWord < s.value * 10 + digit c then ⟨s.value, s.exponent + 1, true⟩
  else ⟨s.value * 10 + digit c, s.exponent, false⟩

/-- Reads a digit after the point. From the first digit that does not fit all are dropped. -/
def pushPlace (s : Significand) (c : Char) : Significand :=
  if s.full then s
  else if greatestWord < s.value * 10 + digit c then ⟨s.value, s.exponent, true⟩
  else ⟨s.value * 10 + digit c, s.exponent - 1, false⟩

end Significand

/-- The binary64 value nearest to a power of ten. -/
def tenTo (k : Nat) : Float := Float.ofBits (nearestBits (Nat.pow 10 k) 1)

/-- A significand times a power of ten, by one multiplication or division, after dividing by
`10^308` as long as the power is below `-308`. `none` when the result is out of range. -/
def assemble (fuel : Nat) (f : Float) (exponent : Int) : Option Float :=
  if exponent.natAbs ≤ 308 then
    if 0 ≤ exponent then
      let product := f * tenTo exponent.natAbs
      if product.isInf then none else some product
    else some (f / tenTo exponent.natAbs)
  else if f == 0 then some f
  else if 0 ≤ exponent then none
  else match fuel with
    | 0 => some 0
    | fuel + 1 => assemble fuel (f / tenTo 308) (exponent + 308)

/-- A number as it is written: digits before the point, digits after it, and an exponent with its
sign. -/
structure Written where
  negative : Bool
  whole : List Char
  places : List Char
  exponent : Option (Bool × List Char)
deriving Repr, DecidableEq

namespace Written

/-- The largest exponent that is still counted. -/
def exponentLimit : Nat := 0x7FFFFFFF

/-- A number that is no integer of 64 bits. -/
def assembled (w : Written) (s : Significand) (exponent : Int) : Except Fault Number :=
  match assemble 8 s.value.toUInt64.toFloat (s.exponent + exponent) with
  | some f => .ok (.float (if w.negative then -f else f).toBits)
  | none => .error .numberRange

/-- The value of a written number. Minus zero, and what 64 bits do not hold, become binary64
values. -/
def value (w : Written) : Except Fault Number :=
  let s := w.whole.foldl Significand.pushWhole {}
  match w.places, w.exponent with
  | [], none =>
    if s.full then w.assembled s 0
    else if !w.negative then .ok (.int s.value)
    else if s.value = 0 ∨ -leastInteger < s.value then w.assembled s 0
    else .ok (.int (-(s.value : Int)))
  | places, exponent =>
    let s := places.foldl Significand.pushPlace { s with full := false }
    match exponent with
    | none => w.assembled s 0
    | some (below, digits) =>
      let n := digits.foldl (fun n c => n * 10 + Significand.digit c) 0
      if exponentLimit < n then
        if s.value ≠ 0 ∧ !below then .error .numberRange
        else .ok (.float (withSign w.negative 0))
      else w.assembled s (if below then -(n : Int) else n)

end Written

/-- Takes a minus off. -/
def takeMinus : List Char → Bool × List Char
  | '-' :: rest => (true, rest)
  | cs => (false, cs)

/-- Takes a point and the digits after it off, if there is a point. -/
def takePlaces : List Char → Except Fault (List Char × List Char)
  | '.' :: rest =>
    if rest.takeWhile Char.isDigit = [] then .error .badNumber
    else .ok (rest.takeWhile Char.isDigit, rest.dropWhile Char.isDigit)
  | cs => .ok ([], cs)

/-- Takes the digits of an exponent off. -/
def takeExponentDigits (below : Bool) (cs : List Char) :
    Except Fault (Option (Bool × List Char) × List Char) :=
  if cs.takeWhile Char.isDigit = [] then .error .badNumber
  else .ok (some (below, cs.takeWhile Char.isDigit), cs.dropWhile Char.isDigit)

/-- Takes an exponent off, if there is one. -/
def takeExponent : List Char → Except Fault (Option (Bool × List Char) × List Char)
  | c :: '-' :: rest =>
    if c = 'e' ∨ c = 'E' then takeExponentDigits true rest else .ok (none, c :: '-' :: rest)
  | c :: '+' :: rest =>
    if c = 'e' ∨ c = 'E' then takeExponentDigits false rest else .ok (none, c :: '+' :: rest)
  | c :: rest =>
    if c = 'e' ∨ c = 'E' then takeExponentDigits false rest else .ok (none, c :: rest)
  | [] => .ok (none, [])

/-- Takes a number off, after its sign. No zero stands in front of other digits. -/
def takeUnsigned (negative : Bool) (cs : List Char) : Except Fault (Written × List Char) :=
  match cs.takeWhile Char.isDigit with
  | [] => .error .badNumber
  | '0' :: _ :: _ => .error .badNumber
  | whole =>
    match takePlaces (cs.dropWhile Char.isDigit) with
    | .error fault => .error fault
    | .ok (places, rest) =>
      match takeExponent rest with
      | .error fault => .error fault
      | .ok (exponent, rest) => .ok (⟨negative, whole, places, exponent⟩, rest)

/-- Takes a number off. -/
def takeNumber (cs : List Char) : Except Fault (Number × List Char) :=
  let (negative, digits) := takeMinus cs
  match takeUnsigned negative digits with
  | .error fault => .error fault
  | .ok (w, rest) => w.value.map fun n => (n, rest)

/-! ### Texts -/

/-- The number written by four hexadecimal digits. -/
def hex4? (a b c d : Char) : Option Nat := do
  let a ← hexDigit? a
  let b ← hexDigit? b
  let c ← hexDigit? c
  let d ← hexDigit? d
  return ((a * 16 + b) * 16 + c) * 16 + d

/-- The character of a one-letter escape. -/
def escaped? : Char → Option Char
  | '"' => some '"'
  | '\\' => some '\\'
  | '/' => some '/'
  | 'b' => some '\x08'
  | 'f' => some '\x0c'
  | 'n' => some '\n'
  | 'r' => some '\r'
  | 't' => some '\t'
  | _ => none

/-- Reads the body of a text up to its closing quote; `done` is what was read, in reverse. A
character beyond the first plane is escaped by two surrogates. -/
def textBody (done : List Char) : List Char → Except Fault (String × List Char)
  | [] => .error (.endOfText "a string")
  | '"' :: rest => .ok (String.ofList done.reverse, rest)
  | '\\' :: 'u' :: a :: b :: c :: d :: rest =>
    match hex4? a b c d with
    | none => .error .badEscape
    | some n =>
      if 0xDC00 ≤ n ∧ n ≤ 0xDFFF then .error .loneSurrogate
      else if 0xD800 ≤ n ∧ n ≤ 0xDBFF then
        match rest with
        | '\\' :: 'u' :: a :: b :: c :: d :: rest =>
          match hex4? a b c d with
          | none => .error .badEscape
          | some low =>
            if 0xDC00 ≤ low ∧ low ≤ 0xDFFF then
              textBody (Char.ofNat (0x10000 + (n - 0xD800) * 0x400 + (low - 0xDC00)) :: done) rest
            else .error .loneSurrogate
        | _ => .error .loneSurrogate
      else textBody (Char.ofNat n :: done) rest
  | ['\\'] => .error (.endOfText "a string")
  | '\\' :: c :: rest =>
    match escaped? c with
    | some c => textBody (c :: done) rest
    | none => .error .badEscape
  | c :: rest =>
    if c.toNat < 32 then .error .controlCharacter else textBody (c :: done) rest

/-! ### Scanning -/

/-- The blanks of JSON text. -/
def isGap (c : Char) : Bool :=
  c == ' ' || c == '\n' || c == '\r' || c == '\t'

/-- Takes the first token off a text that starts with no blank. -/
def Token.next : List Char → Except Fault (Token × List Char)
  | [] => .error (.endOfText "a value")
  | '[' :: rest => .ok (.openArray, rest)
  | ']' :: rest => .ok (.closeArray, rest)
  | '\x7b' :: rest => .ok (.openObject, rest)
  | '\x7d' :: rest => .ok (.closeObject, rest)
  | ',' :: rest => .ok (.comma, rest)
  | ':' :: rest => .ok (.colon, rest)
  | '"' :: rest => (textBody [] rest).map fun (s, rest) => (.str s, rest)
  | 'n' :: 'u' :: 'l' :: 'l' :: rest => .ok (.null, rest)
  | 't' :: 'r' :: 'u' :: 'e' :: rest => .ok (.bool true, rest)
  | 'f' :: 'a' :: 'l' :: 's' :: 'e' :: rest => .ok (.bool false, rest)
  | c :: rest =>
    if c = '-' ∨ c.isDigit then (takeNumber (c :: rest)).map fun (n, rest) => (.num n, rest)
    else if c = 'n' ∨ c = 't' ∨ c = 'f' then .error .badWord
    else .error .expectedValue

/-! ### Every token takes characters -/

private theorem dropWhile_length_le (p : Char → Bool) (cs : List Char) :
    (cs.dropWhile p).length ≤ cs.length :=
  (List.dropWhile_sublist p).length_le

private theorem textBody_length {done cs rest : List Char} {s : String}
    (h : textBody done cs = .ok (s, rest)) : rest.length < cs.length := by
  fun_induction textBody done cs <;> simp_all <;> omega

private theorem map_ok {α β ε : Type} {f : α → β} {r : Except ε α} {b : β}
    (h : r.map f = .ok b) : ∃ a, r = .ok a ∧ f a = b := by
  cases r with
  | error e => simp [Except.map] at h
  | ok a => exact ⟨a, rfl, by simpa [Except.map] using h⟩

private theorem takeMinus_length (cs : List Char) : (takeMinus cs).2.length ≤ cs.length := by
  unfold takeMinus
  split <;> simp

private theorem takePlaces_length {cs places rest : List Char}
    (h : takePlaces cs = .ok (places, rest)) : rest.length ≤ cs.length := by
  unfold takePlaces at h
  split at h
  case h_1 tail =>
    have := dropWhile_length_le Char.isDigit tail
    split at h
    · simp at h
    · simp only [Except.ok.injEq, Prod.mk.injEq] at h
      rw [← h.2, List.length_cons]
      omega
  case h_2 => simp_all

private theorem takeExponentDigits_length {below : Bool} {cs rest : List Char}
    {e : Option (Bool × List Char)} (h : takeExponentDigits below cs = .ok (e, rest)) :
    rest.length ≤ cs.length := by
  unfold takeExponentDigits at h
  split at h
  · simp at h
  · simp only [Except.ok.injEq, Prod.mk.injEq] at h
    exact h.2 ▸ dropWhile_length_le _ _

private theorem takeExponent_length {cs rest : List Char} {e : Option (Bool × List Char)}
    (h : takeExponent cs = .ok (e, rest)) : rest.length ≤ cs.length := by
  unfold takeExponent at h
  split at h
  case h_4 => simp_all
  all_goals
    split at h
    · have := takeExponentDigits_length h
      simp only [List.length_cons]
      omega
    · simp_all

private theorem takeUnsigned_length {negative : Bool} {cs rest : List Char} {w : Written}
    (h : takeUnsigned negative cs = .ok (w, rest)) : rest.length < cs.length := by
  have hsplit := congrArg List.length
    (List.takeWhile_append_dropWhile (p := Char.isDigit) (l := cs))
  rw [List.length_append] at hsplit
  unfold takeUnsigned at h
  split at h
  · simp at h
  · simp at h
  · rename_i hne _
    have hpos : 0 < (cs.takeWhile Char.isDigit).length := List.length_pos_iff.2 hne
    split at h
    · simp at h
    · rename_i hplaces
      split at h
      · simp at h
      · rename_i hexponent
        have h1 := takePlaces_length hplaces
        have h2 := takeExponent_length hexponent
        simp only [Except.ok.injEq, Prod.mk.injEq] at h
        rw [← h.2]
        omega

private theorem takeNumber_length {cs rest : List Char} {n : Number}
    (h : takeNumber cs = .ok (n, rest)) : rest.length < cs.length := by
  unfold takeNumber at h
  split at h
  rename_i negative digits hminus
  split at h
  · simp at h
  · rename_i hunsigned
    obtain ⟨x, _, hx⟩ := map_ok h
    have h1 := takeMinus_length cs
    have h2 := takeUnsigned_length hunsigned
    simp only [Prod.mk.injEq] at hx
    rw [hminus] at h1
    rw [← hx.2]
    exact Nat.lt_of_lt_of_le h2 h1

theorem Token.next_length {cs rest : List Char} {t : Token}
    (h : Token.next cs = .ok (t, rest)) : rest.length < cs.length := by
  unfold Token.next at h
  split at h
  case h_8 =>
    obtain ⟨⟨s, r⟩, hbody, hx⟩ := map_ok h
    have := textBody_length hbody
    simp_all
    omega
  case h_12 =>
    split at h
    · obtain ⟨⟨n, r⟩, hnum, hx⟩ := map_ok h
      have := takeNumber_length hnum
      simp_all
    · split at h <;> simp at h
  all_goals simp_all <;> omega

/-- The tokens of a text, and the fault that ends them if the text cannot be read to its end;
`done` holds the tokens that were read, in reverse. -/
def Token.scanFrom (done : List Token) (cs : List Char) : List Token × Option Fault :=
  match _hgap : cs.dropWhile isGap with
  | [] => (done.reverse, none)
  | c :: rest =>
    match _h : Token.next (c :: rest) with
    | .ok (t, rest) => Token.scanFrom (t :: done) rest
    | .error fault => (done.reverse, some fault)
termination_by cs.length
decreasing_by
  have h1 := Token.next_length _h
  have h2 := dropWhile_length_le isGap cs
  rw [_hgap] at h2
  omega

/-- The tokens of a text, and the fault that ends them if there is one. -/
def Token.scan (cs : List Char) : List Token × Option Fault :=
  Token.scanFrom [] cs

end Dialogue.Json
