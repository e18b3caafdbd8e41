import Dialogue.Proofs.Decimal.Digits
import Dialogue.Proofs.Time.Calendar
import Dialogue.Time.Instant
import Mathlib.Data.List.Induction
import Mathlib.Data.List.TakeWhile

namespace Dialogue.Time

open Decimal

/-!
# Instants read back

The written form of an instant is read back as the instant, if it is one that can be told apart: its
year is in range, and only the last second of a minute is a leap second.

* `Instant.Representable`: the instants that can be told apart.
* `Instant.read?_text`: their written form is read back.
* `Instant.read?_text_iff`: those are all the instants whose written form is read back.
-/

/-! ### Blanks and digits -/

/-- Digits and the signs between them are no blanks. -/
theorem isBlank_of_isDigit {c : Char} (h : c.isDigit) : Unicode.isBlank c = false := by
  -- There are few digits: each of them is looked at.
  have hall : ∀ n < 58, 48 ≤ n → Unicode.isBlank (Char.ofNat n) = false := by decide
  have hbounds : 48 ≤ c.toNat ∧ c.toNat ≤ 57 := by
    simpa [Char.isDigit, UInt32.le_iff_toNat_le] using h
  have hc := hall c.toNat (by omega) hbounds.1
  rwa [Char.ofNat_toNat] at hc

namespace Instant

theorem skipBlanks_cons {c : Char} (cs : List Char) (h : Unicode.isBlank c = false) :
    skipBlanks (c :: cs) = c :: cs := by
  unfold skipBlanks
  rw [List.dropWhile_cons, h]
  rfl

/-- Where a number is written, no blanks are passed over. -/
theorem skipBlanks_padded (width n : Nat) (rest : List Char) :
    skipBlanks (padded width n ++ rest) = padded width n ++ rest := by
  obtain ⟨c, cs, hcs⟩ := List.exists_cons_of_ne_nil (padded_ne_nil width n)
  have hmem : c ∈ padded width n := by rw [hcs]; exact List.mem_cons_self
  rw [hcs, List.cons_append]
  exact skipBlanks_cons _ (isBlank_of_isDigit (isDigit_of_mem_padded hmem))

/-- A number written with exactly so many digits is taken off, whatever follows it. -/
theorem takeNumber_padded (width n : Nat) (rest : List Char) (hwidth : 0 < width)
    (h : n < Nat.pow 10 width) : takeNumber width (padded width n ++ rest) = some (n, rest) := by
  have hlength := length_padded hwidth h
  have htake : (padded width n ++ rest).take width = padded width n := by
    rw [List.take_append_of_le_length (by omega), List.take_of_length_le (by omega)]
  have hdigits : (padded width n).takeWhile Char.isDigit = padded width n := by
    have hnil : NoDigitHead [] := fun c hc => by cases hc
    have hall := takeWhile_digits (fun c (hc : c ∈ padded width n) => isDigit_of_mem_padded hc) hnil
    rwa [List.append_nil] at hall
  -- Only so many characters are looked at, so it does not matter whether digits follow.
  unfold takeNumber
  rw [skipBlanks_padded]
  dsimp only
  rw [htake, hdigits, if_neg (padded_ne_nil width n), digitsValue_padded, List.drop_left]

theorem takeMark_cons {c : Char} (rest : List Char) (h : Unicode.isBlank c = false) :
    takeMark c (c :: rest) = some rest := by
  unfold takeMark
  rw [skipBlanks_cons rest h]
  exact if_pos rfl

/-! ### Years -/

/-- The digits of a year that is written with a sign. -/
theorem digits_of_signed (n : Nat) (rest : List Char) (hrest : NoDigitHead rest) :
    (padded 4 n ++ rest).takeWhile Char.isDigit = padded 4 n ∧
      (padded 4 n ++ rest).dropWhile Char.isDigit = rest :=
  ⟨takeWhile_digits (fun _ hc => isDigit_of_mem_padded hc) hrest,
    dropWhile_digits (fun _ hc => isDigit_of_mem_padded hc) hrest⟩

/-- The year is taken off a text that goes on with the month. -/
theorem takeYear_yearText (year : Int) (rest : List Char) :
    takeYear (Date.yearText year ++ '-' :: rest) = some (year, '-' :: rest) := by
  have hend : NoDigitHead ('-' :: rest) := by
    intro c hc
    obtain rfl := Option.some.inj hc
    decide
  unfold takeYear Date.yearText
  -- A year of four digits is written as it is, any other one with a sign in front.
  by_cases hplain : 0 ≤ year ∧ year ≤ 9999
  · rw [if_pos hplain, skipBlanks_padded]
    obtain ⟨c, cs, hcs⟩ := List.exists_cons_of_ne_nil (padded_ne_nil 4 year.toNat)
    have hmem : c ∈ padded 4 year.toNat := by rw [hcs]; exact List.mem_cons_self
    have hc : c.isDigit := isDigit_of_mem_padded hmem
    have hnumber := takeNumber_padded 4 year.toNat ('-' :: rest) (by decide)
      (show year.toNat < 10000 by omega)
    rw [hcs, List.cons_append] at hnumber ⊢
    dsimp only
    split
    · rename_i hminus
      obtain ⟨rfl, -⟩ := List.cons.inj hminus
      exact absurd hc (by decide)
    · rename_i hplus
      obtain ⟨rfl, -⟩ := List.cons.inj hplus
      exact absurd hc (by decide)
    · rw [hnumber]
      show some ((year.toNat : Int), _) = some (year, _)
      rw [Int.toNat_of_nonneg hplain.1]
  · obtain ⟨htake, hdrop⟩ := digits_of_signed year.natAbs ('-' :: rest) hend
    rw [if_neg hplain, List.cons_append]
    by_cases hneg : year < 0
    · rw [if_pos hneg, skipBlanks_cons _ (by decide)]
      show (if (padded 4 year.natAbs ++ '-' :: rest).takeWhile Char.isDigit = [] then none
        else some
          (-(digitsValue ((padded 4 year.natAbs ++ '-' :: rest).takeWhile Char.isDigit) : Int),
          (padded 4 year.natAbs ++ '-' :: rest).dropWhile Char.isDigit)) = _
      rw [htake, hdrop, if_neg (padded_ne_nil 4 _), digitsValue_padded,
        show -(year.natAbs : Int) = year by omega]
    · rw [if_neg hneg, skipBlanks_cons _ (by decide)]
      show (if (padded 4 year.natAbs ++ '-' :: rest).takeWhile Char.isDigit = [] then none
        else some
          ((digitsValue ((padded 4 year.natAbs ++ '-' :: rest).takeWhile Char.isDigit) : Int),
          (padded 4 year.natAbs ++ '-' :: rest).dropWhile Char.isDigit)) = _
      rw [htake, hdrop, if_neg (padded_ne_nil 4 _), digitsValue_padded,
        show (year.natAbs : Int) = year by omega]

/-! ### Fractions -/

/-- As many digits of a fraction as are written stand for nanoseconds. -/
theorem takeFraction_padded {width n : Nat} (rest : List Char) (hwidth : 0 < width)
    (hnine : width ≤ 9) (h : n < Nat.pow 10 width) (hrest : NoDigitHead rest) :
    takeFraction ('.' :: (padded width n ++ rest)) = some (n * Nat.pow 10 (9 - width), rest) := by
  have hlength := length_padded hwidth h
  rw [takeFraction.eq_1, takeWhile_digits (fun _ hc => isDigit_of_mem_padded hc) hrest,
    dropWhile_digits (fun _ hc => isDigit_of_mem_padded hc) hrest, if_neg (padded_ne_nil width n),
    List.take_of_length_le (by omega), digitsValue_padded, hlength]

/-- The fraction is taken off a text that goes on with the offset. -/
theorem takeFraction_fractionText {nanos : Nat} (h : nanos < secondNanos) :
    takeFraction (fractionText nanos ++ ['Z']) = some (nanos, ['Z']) := by
  have hend : NoDigitHead ['Z'] := by
    intro c hc
    obtain rfl := Option.some.inj hc
    decide
  unfold secondNanos at h
  unfold fractionText
  -- A fraction is left out, or written in milliseconds, microseconds or nanoseconds.
  split
  · rename_i hzero
    rw [hzero]
    rfl
  · split
    · rw [List.cons_append, takeFraction_padded _ (by decide) (by decide)
        (show nanos / 1000000 < 1000 by omega) hend]
      rw [show nanos / 1000000 * 1000000 = nanos by omega]
    · split
      · rw [List.cons_append, takeFraction_padded _ (by decide) (by decide)
          (show nanos / 1000 < 1000000 by omega) hend]
        rw [show nanos / 1000 * 1000 = nanos by omega]
      · rw [List.cons_append, takeFraction_padded _ (by decide) (by decide)
          (show nanos < 1000000000 by omega) hend]
        rw [show nanos * 1 = nanos by omega]

/-! ### Instants -/

/-- An instant that can be told apart: the year of its date is in range, and its nanoseconds fill a
second, or two in the last second of a minute, which may be a leap second. -/
structure Representable (t : Instant) : Prop where
  year : yearInRange (Date.ofDays t.days).year
  nanos : t.nanos < secondNanos ∨ t.nanos < 2 * secondNanos ∧ t.seconds % 60 = 59

/-- The seconds of an instant since its day began. -/
def timeOfDay (t : Instant) : Nat := (t.seconds - t.days * daySeconds).toNat

/-- The time of day is what the days leave over. -/
theorem timeOfDay_spec (t : Instant) :
    t.timeOfDay < 86400 ∧ t.seconds = t.days * daySeconds + (t.timeOfDay : Int) ∧
      (t.timeOfDay % 60 : Int) = t.seconds % 60 := by
  unfold timeOfDay days daySeconds
  rw [Int.fdiv_eq_ediv_of_nonneg _ (by decide)]
  omega

/-- The parts of the written form of an instant, once they are taken off, are the instant. -/
theorem ofParts?_parts {t : Instant} (h : t.Representable) :
    ofParts? (Date.ofDays t.days) (t.timeOfDay / 3600) (t.timeOfDay / 60 % 60)
      (if secondNanos ≤ t.nanos then t.timeOfDay % 60 + 1 else t.timeOfDay % 60)
      (if secondNanos ≤ t.nanos then t.nanos - secondNanos else t.nanos) 0 = some t := by
  obtain ⟨htime, hseconds, hsecond⟩ := t.timeOfDay_spec
  have hdays := Date.toDays_ofDays t.days
  have hvalid := Date.valid_ofDays t.days
  have hyear := h.year
  have hback : ∀ seconds nanos, seconds = t.seconds → nanos = t.nanos →
      (if yearInRange (Date.ofDays (⟨seconds, nanos⟩ : Instant).days).year then
        some (⟨seconds, nanos⟩ : Instant) else none) = some t := by
    rintro _ _ rfl rfl
    exact if_pos hyear
  unfold ofParts?
  -- A leap second is written as second 60 and kept as the one before it.
  by_cases hleap : secondNanos ≤ t.nanos
  · have hlast : t.timeOfDay % 60 = 59 := by
      rcases h.nanos with hn | ⟨-, hn⟩ <;> omega
    rw [if_pos hleap, if_pos hleap, hlast, if_pos (by simp [hvalid, hyear, daySeconds]; omega),
      hdays]
    refine hback _ _ ?_ (Nat.sub_add_cancel hleap)
    show t.days * daySeconds + ((t.timeOfDay / 3600 : Nat) * 3600 +
      (t.timeOfDay / 60 % 60 : Nat) * 60 + (59 : Nat)) - 0 = t.seconds
    omega
  · have hno : ¬t.timeOfDay % 60 = 60 := by omega
    rw [if_neg hleap, if_neg hleap, if_pos (by simp [hvalid, hyear, daySeconds]; omega), hdays]
    refine hback _ _ ?_ (by simp [hno])
    simp only [hno, if_false]
    omega

theorem daysInMonth_le (year : Int) (month : Nat) : Date.daysInMonth year month ≤ 31 := by
  unfold Date.daysInMonth
  split
  iterate 4 decide
  · split <;> decide
  · decide

/-- The written form of an instant, with its seconds and nanoseconds as they are shown. -/
theorem toList_text (t : Instant) :
    t.text.toList = Date.yearText (Date.ofDays t.days).year ++ '-' ::
      (padded 2 (Date.ofDays t.days).month ++ '-' :: (padded 2 (Date.ofDays t.days).day ++ 'T' ::
        (padded 2 (t.timeOfDay / 3600) ++ ':' :: (padded 2 (t.timeOfDay / 60 % 60) ++ ':' ::
          (padded 2 (if secondNanos ≤ t.nanos then t.timeOfDay % 60 + 1 else t.timeOfDay % 60) ++
            (fractionText (if secondNanos ≤ t.nanos then t.nanos - secondNanos else t.nanos) ++
              ['Z'])))))) := by
  have hpair : (if secondNanos ≤ t.nanos then (t.timeOfDay % 60 + 1, t.nanos - secondNanos)
      else (t.timeOfDay % 60, t.nanos)) =
        (if secondNanos ≤ t.nanos then t.timeOfDay % 60 + 1 else t.timeOfDay % 60,
          if secondNanos ≤ t.nanos then t.nanos - secondNanos else t.nanos) := by
    split <;> rfl
  unfold text
  rw [String.toList_ofList]
  unfold textWith Date.text
  rw [show (t.seconds - t.days * daySeconds).toNat = t.timeOfDay from rfl]
  dsimp only
  rw [hpair, List.append_assoc, List.cons_append, List.append_assoc, List.cons_append]

/-- The written form of an instant is read back. -/
theorem read?_text {t : Instant} (h : t.Representable) : read? t.text = some t := by
  have hhyphen : ∀ rest, takeMark '-' ('-' :: rest) = some rest := fun rest =>
    takeMark_cons rest (by decide)
  have hcolon : ∀ rest, takeMark ':' (':' :: rest) = some rest := fun rest =>
    takeMark_cons rest (by decide)
  have htwo : ∀ {n : Nat} (rest), n < 100 → takeNumber 2 (padded 2 n ++ rest) = some (n, rest) :=
    fun rest hn => takeNumber_padded 2 _ rest (by decide) hn
  have hdate := Date.valid_ofDays t.days
  simp only [Date.valid, Bool.and_eq_true, decide_eq_true_eq] at hdate
  have hday := daysInMonth_le (Date.ofDays t.days).year (Date.ofDays t.days).month
  have htime := t.timeOfDay_spec.1
  have hsecond : (if secondNanos ≤ t.nanos then t.timeOfDay % 60 + 1 else t.timeOfDay % 60) <
      100 := by
    split <;> omega
  have hnanos : (if secondNanos ≤ t.nanos then t.nanos - secondNanos else t.nanos) <
      secondNanos := by
    rcases h.nanos with hn | ⟨hn, -⟩ <;> split <;> omega
  have hoffset : takeOffset (skipBlanks ['Z']) = some (0, []) := by
    rw [skipBlanks_cons [] (by decide)]
    rfl
  -- One part after the other is taken off the text, and the bounds of a date tell that it fits.
  unfold read?
  rw [toList_text, takeYear_yearText]
  simp only [Option.bind_eq_bind]
  rw [Option.bind_some, hhyphen, Option.bind_some, htwo _ (by omega), Option.bind_some, hhyphen,
    Option.bind_some, htwo _ (by omega), Option.bind_some]
  dsimp only
  rw [if_pos (Or.inl rfl), Option.bind_some, htwo _ (by omega), Option.bind_some, hcolon,
    Option.bind_some, htwo _ (by omega), Option.bind_some, hcolon, Option.bind_some,
    htwo _ hsecond, Option.bind_some, takeFraction_fractionText hnanos, Option.bind_some, hoffset,
    Option.bind_some, if_pos (show skipBlanks [] = [] from rfl)]
  exact ofParts?_parts h

/-! ### What is read -/

/-- Digits stand for less than ten to the power of their number. -/
theorem digitsValue_lt {cs : List Char} (h : ∀ c ∈ cs, c.isDigit) :
    digitsValue cs < Nat.pow 10 cs.length := by
  have hdigit : ∀ c : Char, c.isDigit → c.toNat - '0'.toNat < 10 := by
    intro c hc
    have hbounds : 48 ≤ c.toNat ∧ c.toNat ≤ 57 := by
      simpa [Char.isDigit, UInt32.le_iff_toNat_le] using hc
    have hzero : '0'.toNat = 48 := rfl
    omega
  induction cs using List.reverseRecOn with
  | nil => decide
  | append_singleton cs c ih =>
    obtain ⟨hcs, hc⟩ := List.forall_mem_append.1 h
    have hvalue : digitsValue (cs ++ [c]) = digitsValue cs * 10 + (c.toNat - '0'.toNat) := by
      unfold digitsValue
      rw [List.foldl_append]
      rfl
    have hlt := hdigit c (hc c (List.mem_singleton_self c))
    have hih := ih hcs
    rw [hvalue, List.length_append, List.length_singleton,
      show Nat.pow 10 (cs.length + 1) = Nat.pow 10 cs.length * 10 from rfl]
    omega

/-- A fraction that is read is less than a second. -/
theorem takeFraction_lt {cs rest : List Char} {nanos : Nat}
    (h : takeFraction cs = some (nanos, rest)) : nanos < secondNanos := by
  unfold takeFraction at h
  split at h
  · rename_i tail
    dsimp only at h
    split at h
    · cases h
    · cases h
      -- nine digits make less than a second, and fewer ones are filled up to nine
      generalize hnine : (tail.takeWhile Char.isDigit).take 9 = nine
      have hdigits : ∀ c ∈ nine, c.isDigit := fun c hc => by
        rw [← hnine] at hc
        exact List.mem_takeWhile_imp (List.mem_of_mem_take hc)
      have hlength : nine.length ≤ 9 := by
        rw [← hnine]
        exact List.length_take_le 9 _
      calc digitsValue nine * Nat.pow 10 (9 - nine.length)
          < Nat.pow 10 nine.length * Nat.pow 10 (9 - nine.length) :=
            Nat.mul_lt_mul_of_pos_right (digitsValue_lt hdigits) (Nat.pow_pos (by decide))
        _ = Nat.pow 10 (nine.length + (9 - nine.length)) := (Nat.pow_add 10 _ _).symm
        _ = secondNanos := by
            rw [Nat.add_sub_cancel' hlength]
            rfl
  · cases h
    decide

/-- An offset is a number of whole minutes. -/
theorem takeOffsetDigits_mod {cs rest : List Char} {offset : Int}
    (h : takeOffsetDigits cs = some (offset, rest)) : offset % 60 = 0 := by
  unfold takeOffsetDigits at h
  repeat' split at h
  all_goals cases h
  omega

/-- An offset that is read has no seconds. -/
theorem takeOffset_mod {cs rest : List Char} {offset : Int}
    (h : takeOffset cs = some (offset, rest)) : offset % 60 = 0 := by
  unfold takeOffset at h
  split at h
  · cases h
    rfl
  · cases h
    rfl
  · exact takeOffsetDigits_mod h
  · obtain ⟨⟨n, tail⟩, hdigits, heq⟩ := Option.map_eq_some_iff.1 h
    cases heq
    have := takeOffsetDigits_mod hdigits
    omega
  · obtain ⟨⟨n, tail⟩, hdigits, heq⟩ := Option.map_eq_some_iff.1 h
    cases heq
    have := takeOffsetDigits_mod hdigits
    omega
  · split at h
    · cases h
      rfl
    · cases h
  · cases h

/-- The instant of a date and a time can be told apart if the time is given to the nanosecond, and
the offset to the minute. -/
theorem representable_of_ofParts? {date : Date} {hour minute second nanos : Nat} {offset : Int}
    {t : Instant} (hnanos : nanos < secondNanos) (hoffset : offset % 60 = 0)
    (h : ofParts? date hour minute second nanos offset = some t) : t.Representable := by
  unfold ofParts? at h
  simp only [Option.ite_none_right_eq_some] at h
  obtain ⟨-, hyear, h⟩ := h
  cases h
  refine ⟨hyear, ?_⟩
  by_cases hleap : second = 60
  · -- a sixtieth second is kept as the one before it, with a second more of nanoseconds
    simp only [hleap, if_true, daySeconds]
    omega
  · refine .inl ?_
    show (if second = 60 then nanos + secondNanos else nanos) < secondNanos
    rwa [if_neg hleap]

/-- Whatever is read can be told apart. -/
theorem representable_of_read? {text : String} {t : Instant} (h : read? text = some t) :
    t.Representable := by
  unfold read? at h
  -- the date, and the mark behind it
  obtain ⟨⟨_, _⟩, -, h⟩ := Option.bind_eq_some_iff.1 h
  obtain ⟨_, -, h⟩ := Option.bind_eq_some_iff.1 h
  obtain ⟨⟨_, _⟩, -, h⟩ := Option.bind_eq_some_iff.1 h
  obtain ⟨_, -, h⟩ := Option.bind_eq_some_iff.1 h
  obtain ⟨⟨_, _⟩, -, h⟩ := Option.bind_eq_some_iff.1 h
  dsimp only at h
  split at h
  · split at h
    · -- the time; only its fraction and the offset could make an instant that is none
      obtain ⟨_, -, h⟩ := Option.bind_eq_some_iff.1 h
      obtain ⟨⟨_, _⟩, -, h⟩ := Option.bind_eq_some_iff.1 h
      obtain ⟨_, -, h⟩ := Option.bind_eq_some_iff.1 h
      obtain ⟨⟨_, _⟩, -, h⟩ := Option.bind_eq_some_iff.1 h
      obtain ⟨_, -, h⟩ := Option.bind_eq_some_iff.1 h
      obtain ⟨⟨_, _⟩, -, h⟩ := Option.bind_eq_some_iff.1 h
      obtain ⟨⟨nanos, _⟩, hfraction, h⟩ := Option.bind_eq_some_iff.1 h
      obtain ⟨⟨offset, _⟩, hoffset, h⟩ := Option.bind_eq_some_iff.1 h
      dsimp only at h
      split at h
      · exact representable_of_ofParts? (takeFraction_lt hfraction) (takeOffset_mod hoffset) h
      · cases h
    · cases h
  · cases h

/-- The instants whose written form is read back are those that can be told apart. -/
theorem read?_text_iff {t : Instant} : read? t.text = some t ↔ t.Representable :=
  ⟨representable_of_read?, read?_text⟩

end Instant

end Dialogue.Time
