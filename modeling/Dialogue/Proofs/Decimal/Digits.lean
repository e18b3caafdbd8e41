import Dialogue.Decimal.Numeral
import Dialogue.Time.Date

namespace Dialogue

/-!
# Digits read back

The digits of a number, with zeros in front of them or without, write that number and nothing else.

* `Decimal.digitsValue_digitChars`: the digits of a number write it.
* `Decimal.eq_singleton_of_digitChars`: no zero stands in front of other digits.
* `Time.digitsValue_padded`, `Time.length_padded`: zeros in front change the length only.
* `Decimal.NoDigitHead`: a text at which digits end.
-/

namespace Decimal

/-! ### The digits of a number -/

theorem digitsValue_eq_ofDigitChars (cs : List Char) :
    digitsValue cs = Nat.ofDigitChars 10 cs 0 := by
  unfold digitsValue Nat.ofDigitChars
  simp only [Nat.mul_comm]

/-- The digits of a number write it. -/
theorem digitsValue_digitChars (n : Nat) : digitsValue (digitChars n) = n := by
  rw [digitsValue_eq_ofDigitChars]
  exact Nat.ofDigitChars_ten_toDigits

theorem digitChars_ne_nil (n : Nat) : digitChars n ≠ [] :=
  Nat.toDigits_ne_nil

theorem isDigit_of_mem_digitChars {n : Nat} {c : Char} (h : c ∈ digitChars n) : c.isDigit :=
  Nat.isDigit_of_mem_toDigits (by decide) (by decide) h

/-- The digits of a number in front of its last one. -/
theorem digitChars_of_ten_le {n : Nat} (h : 10 ≤ n) :
    digitChars n = digitChars (n / 10) ++ [Nat.digitChar (n % 10)] :=
  Nat.toDigits_of_base_le (by decide) h

/-- No zero stands in front of other digits. -/
theorem eq_singleton_of_digitChars {n : Nat} {rest : List Char}
    (h : digitChars n = '0' :: rest) : rest = [] := by
  -- All but the last digit are the digits of the tenth, so the induction is on smaller numbers.
  induction n using Nat.strongRecOn generalizing rest with
  | ind n ih =>
    by_cases hn : n < 10
    · have hone : digitChars n = [Nat.digitChar n] := Nat.toDigits_of_lt_base hn
      rw [hone] at h
      exact (List.cons.inj h).2.symm
    · rw [digitChars_of_ten_le (by omega)] at h
      -- The digits of the tenth would be a zero alone, but the tenth is not zero.
      obtain ⟨first, more, hmore⟩ := List.exists_cons_of_ne_nil (digitChars_ne_nil (n / 10))
      rw [hmore, List.cons_append] at h
      obtain ⟨rfl, -⟩ := List.cons.inj h
      have hnil : more = [] := ih (n / 10) (by omega) hmore
      have hvalue := digitsValue_digitChars (n / 10)
      rw [hmore, hnil] at hvalue
      have hzero : digitsValue ['0'] = 0 := by decide
      omega

/-! ### Where digits end -/

/-- A text that does not go on with a digit. -/
def NoDigitHead (cs : List Char) : Prop :=
  ∀ c, cs.head? = some c → c.isDigit = false

/-- Digits are taken off up to where they end. -/
theorem takeWhile_digits {digits rest : List Char} (h : ∀ c ∈ digits, c.isDigit)
    (hrest : NoDigitHead rest) : (digits ++ rest).takeWhile Char.isDigit = digits := by
  rw [List.takeWhile_append_of_pos h]
  have hstop : rest.takeWhile Char.isDigit = [] := by
    cases rest with
    | nil => rfl
    | cons c rest => simp [hrest c rfl]
  rw [hstop, List.append_nil]

/-- What remains behind the digits is the rest. -/
theorem dropWhile_digits {digits rest : List Char} (h : ∀ c ∈ digits, c.isDigit)
    (hrest : NoDigitHead rest) : (digits ++ rest).dropWhile Char.isDigit = rest := by
  -- What is left is what the digits that are taken off leave of the whole.
  have hsplit := List.takeWhile_append_dropWhile (p := Char.isDigit) (l := digits ++ rest)
  rw [takeWhile_digits h hrest] at hsplit
  exact List.append_cancel_left hsplit

end Decimal

namespace Time

open Decimal

/-! ### Zeros in front -/

/-- Zeros in front do not change what digits write. -/
theorem digitsValue_padded (width n : Nat) : digitsValue (padded width n) = n := by
  unfold padded
  rw [digitsValue_eq_ofDigitChars, Nat.ofDigitChars_append, Nat.ofDigitChars_replicate_zero,
    Nat.mul_zero, ← digitsValue_eq_ofDigitChars, digitsValue_digitChars]

theorem isDigit_of_mem_padded {width n : Nat} {c : Char} (h : c ∈ padded width n) : c.isDigit := by
  unfold padded at h
  rcases List.mem_append.1 h with h | h
  · rw [List.eq_of_mem_replicate h]
    decide
  · exact isDigit_of_mem_digitChars h

theorem padded_ne_nil (width n : Nat) : padded width n ≠ [] := by
  unfold padded
  exact List.append_ne_nil_of_right_ne_nil _ (digitChars_ne_nil n)

/-- A number that fits is written with exactly so many digits. -/
theorem length_padded {width n : Nat} (hwidth : 0 < width) (h : n < Nat.pow 10 width) :
    (padded width n).length = width := by
  have hle : (digitChars n).length ≤ width :=
    (Nat.length_toDigits_le_iff (by decide) hwidth).2 h
  unfold padded
  rw [List.length_append, List.length_replicate]
  omega

end Time

end Dialogue
