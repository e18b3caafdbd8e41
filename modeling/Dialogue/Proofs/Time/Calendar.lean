import Dialogue.Time.Date

namespace Dialogue.Time

/-!
# Days and dates

Every count of days is the count of its date, and the date is one of the calendar.

Both directions of the calendar count years from March, in eras of 400 years. A `Reckoning` is such
a count: counting days in it and naming its date are simple, and every day has one.

* `Date.toDays_ofDays`: the date of a day has the count of the day.
* `Date.valid_ofDays`: the date of a day is valid.
-/

/-- A day by its era of 400 years, the year of the era and the day of the year; years begin in
March. A year has a 366th day only if the next February has a 29th. -/
structure Reckoning where
  era : Int
  year : Int
  day : Int
  year_nonneg : 0 ≤ year
  year_le : year ≤ 399
  day_nonneg : 0 ≤ day
  day_le : day ≤ 365
  leap : day = 365 → year % 4 = 3 ∧ (year % 100 ≠ 99 ∨ year = 399)

namespace Reckoning

/-- The count of days from 1970-01-01. -/
def days (r : Reckoning) : Int :=
  r.era * 146097 + (365 * r.year + r.year / 4 - r.year / 100 + r.day) - 719468

/-- The month, counted from March. -/
def month (r : Reckoning) : Int := (5 * r.day + 2) / 153

/-- The day of the month. -/
def dayOfMonth (r : Reckoning) : Int := r.day - (153 * r.month + 2) / 5 + 1

/-- The date. January and February belong to the next year. -/
def date (r : Reckoning) : Date :=
  if r.month < 10 then ⟨r.year + r.era * 400, (r.month + 3).toNat, r.dayOfMonth.toNat⟩
  else ⟨r.year + r.era * 400 + 1, (r.month - 9).toNat, r.dayOfMonth.toNat⟩

variable (r : Reckoning)

theorem month_bounds : 0 ≤ r.month ∧ r.month ≤ 11 := by
  have hday := r.day_nonneg
  have hday' := r.day_le
  unfold month
  omega

theorem dayOfMonth_pos : 1 ≤ r.dayOfMonth := by
  have hday := r.day_nonneg
  unfold dayOfMonth month
  omega

/-- Counting the days of the date gives the day back. -/
theorem toDays_date : r.date.toDays = r.days := by
  have hmonth := r.month_bounds
  have hday := r.dayOfMonth_pos
  have hyear := r.year_nonneg
  have hyear' := r.year_le
  -- The days before the month and the day of the month make up the day of the year.
  have hback : (153 * r.month + 2) / 5 + r.dayOfMonth - 1 = r.day := by
    unfold dayOfMonth
    omega
  unfold date
  by_cases h : r.month < 10
  · have hlate : ¬(r.month + 3).toNat ≤ 2 := by omega
    have hera : (r.year + r.era * 400) / 400 = r.era := by omega
    rw [if_pos h]
    simp only [Date.toDays, hlate, if_false, Int.fdiv_eq_ediv_of_nonneg, Int.reduceLE, hera]
    unfold days
    omega
  · have hearly : (r.month - 9).toNat ≤ 2 := by omega
    have hera : (r.year + r.era * 400 + 1 - 1) / 400 = r.era := by omega
    rw [if_neg h]
    simp only [Date.toDays, hearly, if_true, Int.fdiv_eq_ediv_of_nonneg, Int.reduceLE, hera]
    unfold days
    omega

/-- A year of the calendar follows one whose last day is the 366th. -/
theorem isLeap_of_day (h : r.day = 365) : Date.isLeap (r.year + r.era * 400 + 1) := by
  have hleap := r.leap h
  have hyear := r.year_nonneg
  have hyear' := r.year_le
  unfold Date.isLeap
  simp only [Bool.and_eq_true, Bool.or_eq_true, beq_iff_eq, bne_iff_ne]
  omega

/-- The last day of a month, counted from March. -/
theorem dayOfMonth_le : r.dayOfMonth ≤ 31 ∧
    (r.month = 1 ∨ r.month = 3 ∨ r.month = 6 ∨ r.month = 8 → r.dayOfMonth ≤ 30) ∧
    (r.month = 11 → r.dayOfMonth ≤ 28 ∨ r.day = 365) := by
  have hday := r.day_nonneg
  have hday' := r.day_le
  unfold dayOfMonth month
  omega

theorem daysInMonth_of_ne {year : Int} {month : Nat}
    (h : month ≠ 2 ∧ month ≠ 4 ∧ month ≠ 6 ∧ month ≠ 9 ∧ month ≠ 11) :
    Date.daysInMonth year month = 31 := by
  unfold Date.daysInMonth
  split <;> omega

theorem daysInMonth_ge (year : Int) {month : Nat} (h : month ≠ 2) :
    30 ≤ Date.daysInMonth year month := by
  unfold Date.daysInMonth
  split <;> omega

/-- The date is one of the calendar. -/
theorem valid_date : r.date.valid := by
  have hmonth := r.month_bounds
  have hday := r.dayOfMonth_pos
  obtain ⟨hlong, hshort, hfebruary⟩ := r.dayOfMonth_le
  unfold date
  by_cases h : r.month < 10
  · rw [if_pos h]
    simp only [Date.valid, Bool.and_eq_true, decide_eq_true_eq]
    refine ⟨⟨⟨by omega, by omega⟩, by omega⟩, ?_⟩
    by_cases h30 : r.month = 1 ∨ r.month = 3 ∨ r.month = 6 ∨ r.month = 8
    · have hlast := hshort h30
      have hmarch : (r.month + 3).toNat ≠ 2 := by omega
      have hdays := daysInMonth_ge (r.year + r.era * 400) hmarch
      omega
    · rw [daysInMonth_of_ne (by omega)]
      omega
  · rw [if_neg h]
    simp only [Date.valid, Bool.and_eq_true, decide_eq_true_eq]
    refine ⟨⟨⟨by omega, by omega⟩, by omega⟩, ?_⟩
    -- Of the two months that are left only February is short, and shorter in most years.
    by_cases hjanuary : r.month = 10
    · rw [daysInMonth_of_ne (by omega)]
      omega
    · rw [show (r.month - 9).toNat = 2 by omega]
      rcases hfebruary (by omega) with hlast | hlast
      · show r.dayOfMonth.toNat ≤ if Date.isLeap _ then 29 else 28
        split <;> omega
      · have hleap := r.isLeap_of_day hlast
        show r.dayOfMonth.toNat ≤ if Date.isLeap _ then 29 else 28
        rw [if_pos hleap]
        unfold dayOfMonth month
        omega

end Reckoning

/-! ### Every day -/

/-- The year of a day of an era, as the calendar estimates it: the leap days before it are taken off
before the division. -/
def yearOfEra (day : Int) : Int :=
  (day - day / 1460 + day / 36524 - day / 146096) / 365

/-- The estimate is right: the day is one of its year. -/
theorem yearOfEra_spec {day : Int} (h0 : 0 ≤ day) (h1 : day ≤ 146096) :
    let year := yearOfEra day
    let rest := day - (365 * year + year / 4 - year / 100)
    (0 ≤ year ∧ year ≤ 399) ∧ (0 ≤ rest ∧ rest ≤ 365) ∧
      (rest = 365 → year % 4 = 3 ∧ (year % 100 ≠ 99 ∨ year = 399)) := by
  unfold yearOfEra
  dsimp only
  generalize hyear : (day - day / 1460 + day / 36524 - day / 146096) / 365 = year
  -- The century and the place of the year next to its leap year decide every division.
  have hcentury : day / 36524 = 0 ∨ day / 36524 = 1 ∨ day / 36524 = 2 ∨ day / 36524 = 3 ∨
      day = 146096 := by omega
  have hplace : year - 4 * (day / 1460) = -1 ∨ year - 4 * (day / 1460) = 0 ∨
      year - 4 * (day / 1460) = 1 ∨ year - 4 * (day / 1460) = 2 ∨
      year - 4 * (day / 1460) = 3 := by omega
  rcases hcentury with hc | hc | hc | hc | hc
  · rcases hplace with hp | hp | hp | hp | hp <;> omega
  · rcases hplace with hp | hp | hp | hp | hp <;> omega
  · rcases hplace with hp | hp | hp | hp | hp <;> omega
  · rcases hplace with hp | hp | hp | hp | hp <;> omega
  · omega

/-- Every day has a reckoning, and the calendar names the date of it. -/
theorem exists_reckoning (days : Int) :
    ∃ r : Reckoning, r.days = days ∧ Date.ofDays days = r.date := by
  have hday : 0 ≤ (days + 719468) - (days + 719468) / 146097 * 146097 ∧
      (days + 719468) - (days + 719468) / 146097 * 146097 ≤ 146096 := by omega
  obtain ⟨hyear, hrest, hleap⟩ := yearOfEra_spec hday.1 hday.2
  refine ⟨⟨(days + 719468) / 146097, _, _, hyear.1, hyear.2, hrest.1, hrest.2, hleap⟩, ?_, ?_⟩
  · dsimp only [Reckoning.days]
    omega
  · simp only [Date.ofDays, Int.fdiv_eq_ediv_of_nonneg, Int.reduceLE]
    rfl

/-- The date of a day has the count of the day. -/
theorem Date.toDays_ofDays (days : Int) : (Date.ofDays days).toDays = days := by
  obtain ⟨r, hdays, hdate⟩ := exists_reckoning days
  rw [hdate, r.toDays_date, hdays]

/-- The date of a day is valid. -/
theorem Date.valid_ofDays (days : Int) : (Date.ofDays days).valid := by
  obtain ⟨r, -, hdate⟩ := exists_reckoning days
  rw [hdate]
  exact r.valid_date

end Dialogue.Time
