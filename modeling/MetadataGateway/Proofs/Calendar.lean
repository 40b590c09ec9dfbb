import Mathlib.Tactic.Common
import MetadataGateway.Calendar

/-!
# Counting days

The day number of a date is given by a formula with divisions. Here the days are counted: the years
since 1970 or up to it, the months of the year and the days of the month
(`Date.dayNumber_eq_daysFromEpoch`). The way back from a day number counts cycles of 400 years,
centuries, fours, years and months off; it lands in the right 400 years (`Date.year_ofDayNumber`),
and on a date that there is and that has the number (`Date.ofDayNumber_spec`).
-/

namespace MetadataGateway.Calendar

/-- The number of days of a year. -/
def daysInYear (year : Int) : Nat :=
  daysOfMonths year 12

/-- The days of so many years from the first day of a year on. -/
def daysOfYears (year : Int) : Nat → Nat
  | 0 => 0
  | years + 1 => daysInYear year + daysOfYears (year + 1) years

/-- The days from 1970-01-01 to a date. Years before 1970 count down. -/
def Date.daysFromEpoch (d : Date) : Int :=
  (if 1970 ≤ d.year then (daysOfYears 1970 (d.year - 1970).toNat : Int)
    else -(daysOfYears d.year (1970 - d.year).toNat : Int))
    + daysOfMonths d.year (d.month - 1) + ((d.day : Int) - 1)

/-- A leap year has 366 days, and another 365. -/
lemma daysInYear_eq (year : Int) : daysInYear year = if isLeapYear year then 366 else 365 := by
  by_cases leap : isLeapYear year = true <;>
    simp [daysInYear, daysOfMonths, daysInMonth, leap]

/-- The formula grows by the days of a year from each year to the next. -/
lemma daysBeforeYear_succ (year : Int) :
    daysBeforeYear (year + 1) = daysBeforeYear year + daysInYear year := by
  rw [daysInYear_eq]
  unfold daysBeforeYear isLeapYear
  simp only [Bool.and_eq_true, Bool.or_eq_true, decide_eq_true_eq, ne_eq]
  split <;> omega

/-- Before a later year there are the days before an earlier one and those of the years between. -/
lemma daysBeforeYear_add (year : Int) (years : Nat) :
    daysBeforeYear (year + years) = daysBeforeYear year + daysOfYears year years := by
  induction years generalizing year with
  | zero =>
    show daysBeforeYear (year + 0) = daysBeforeYear year + 0
    rw [Int.add_zero, Int.add_zero]
  | succ years ih =>
    have rest := ih (year + 1)
    rw [daysBeforeYear_succ] at rest
    rw [show year + ((years + 1 : Nat) : Int) = year + 1 + years by omega, rest, daysOfYears]
    push_cast
    omega

/-- The day number of a date is the number of days from 1970-01-01 to it. -/
theorem Date.dayNumber_eq_daysFromEpoch (d : Date) : d.dayNumber = d.daysFromEpoch := by
  have epoch : daysBeforeYear 1970 = daysBeforeEpoch := rfl
  -- Years are counted on from 1970, or on from the date to 1970.
  have years : daysBeforeYear d.year - daysBeforeEpoch =
      if 1970 ≤ d.year then (daysOfYears 1970 (d.year - 1970).toNat : Int)
      else -(daysOfYears d.year (1970 - d.year).toNat : Int) := by
    split
    · have since := daysBeforeYear_add 1970 (d.year - 1970).toNat
      rw [show (1970 : Int) + ((d.year - 1970).toNat : Int) = d.year by omega] at since
      omega
    · have up_to := daysBeforeYear_add d.year (1970 - d.year).toNat
      rw [show d.year + ((1970 - d.year).toNat : Int) = 1970 by omega] at up_to
      omega
  unfold dayNumber daysFromEpoch
  omega

/-- A date exists just if there is such a month and such a day in it. -/
lemma Date.exists_iff (d : Date) :
    d.exists = true ↔
      1 ≤ d.month ∧ d.month ≤ 12 ∧ 1 ≤ d.day ∧ d.day ≤ daysInMonth d.year d.month := by
  simp only [Date.exists, Bool.and_eq_true, decide_eq_true_eq, and_assoc]

/-! ## How far off a date is -/

/-- No month has more than 31 days. -/
lemma daysInMonth_le (year : Int) (month : Nat) : daysInMonth year month ≤ 31 := by
  unfold daysInMonth
  split
  -- Only February depends on the year.
  case h_12 => split <;> decide
  all_goals decide

/-- The first months of a year have no more than 31 days each. -/
lemma daysOfMonths_le (year : Int) (months : Nat) : daysOfMonths year months ≤ 31 * months := by
  induction months with
  | zero => exact Nat.le_refl _
  | succ months ih =>
    have last := daysInMonth_le year (months + 1)
    rw [daysOfMonths]
    omega

/-! ## The way back -/

section counted

variable (cycle : Int) {days century four one rest : Nat}

/-- The days before a year that is counted off in cycles, centuries, fours and single years. -/
lemma daysBeforeYear_counted (centuries : century ≤ 3) (fours : four ≤ 24) (ones : one ≤ 3) :
    daysBeforeYear (cycle * 400 + (century * 100 + four * 4 + one : Nat) + 1) =
      cycle * 146097 + (century * 36524 + four * 1461 + one * 365 : Nat) := by
  unfold daysBeforeYear
  dsimp only
  omega

/-- Such a year is a leap year if it is the last of four, of a century only in the last one. -/
lemma isLeapYear_counted (centuries : century ≤ 3) (fours : four ≤ 24) (ones : one ≤ 3) :
    isLeapYear (cycle * 400 + (century * 100 + four * 4 + one : Nat) + 1) = true ↔
      one = 3 ∧ (four = 24 → century = 3) := by
  unfold isLeapYear
  simp only [Bool.and_eq_true, Bool.or_eq_true, decide_eq_true_eq, ne_eq]
  omega

/-- The days of a cycle are counted off without remainder. -/
lemma counted_off (inside : days < 146097) (hc : min (days / 36524) 3 = century)
    (hf : (days - century * 36524) / 1461 = four)
    (ho : min ((days - century * 36524) % 1461 / 365) 3 = one)
    (hr : (days - century * 36524) % 1461 - one * 365 = rest) :
    (century ≤ 3 ∧ four ≤ 24 ∧ one ≤ 3) ∧
      century * 36524 + four * 1461 + one * 365 + rest = days ∧
      rest < if one = 3 ∧ (four = 24 → century = 3) then 366 else 365 := by
  refine ⟨⟨by omega, by omega, by omega⟩, by omega, ?_⟩
  split <;> omega

/-- A day number is counted off to a day of a year. -/
lemma Date.ofDayNumber_counted (n : Int) :
    ∃ (century four one days : Nat) (year : Int), (century ≤ 3 ∧ four ≤ 24 ∧ one ≤ 3) ∧
      (n + daysBeforeEpoch) % 146097 = (century * 36524 + four * 1461 + one * 365 + days : Nat) ∧
      days < (if one = 3 ∧ (four = 24 → century = 3) then 366 else 365) ∧
      year = (n + daysBeforeEpoch) / 146097 * 400 + (century * 100 + four * 4 + one : Nat) + 1 ∧
      ofDayNumber n =
        { year := year
          month := (monthAndDay year 11 1 days).1
          day := (monthAndDay year 11 1 days).2 } := by
  have inCycle : ((n + daysBeforeEpoch) % 146097).toNat < 146097 := by omega
  obtain ⟨bounds, counted, inside⟩ := counted_off inCycle rfl rfl rfl rfl
  exact ⟨_, _, _, _, _, bounds, by omega, inside, rfl, rfl⟩

end counted

/-- The year of a day number lies in the cycle of 400 years that the day lies in. -/
lemma Date.year_ofDayNumber (n : Int) :
    (n + daysBeforeEpoch) / 146097 * 400 < (ofDayNumber n).year ∧
      (ofDayNumber n).year ≤ (n + daysBeforeEpoch) / 146097 * 400 + 400 := by
  obtain ⟨century, four, one, days, year, ⟨centuries, fours, ones⟩, -, -, counted, same⟩ :=
    ofDayNumber_counted n
  rw [same]
  dsimp only
  omega

/-- Counting off months ends at a day of one of them, as many days behind. -/
lemma monthAndDay_spec (year : Int) (left before days : Nat)
    (inside : daysOfMonths year before + days < daysOfMonths year (before + left + 1)) :
    ∃ month day, monthAndDay year left (before + 1) days = (month, day) ∧
      1 ≤ month ∧ month ≤ before + left + 1 ∧ 1 ≤ day ∧ day ≤ daysInMonth year month ∧
      daysOfMonths year (month - 1) + (day - 1) = daysOfMonths year before + days := by
  induction left generalizing before days with
  | zero =>
    rw [Nat.add_zero, daysOfMonths] at inside
    exact ⟨before + 1, days + 1, rfl, by omega, by omega, by omega, by omega, rfl⟩
  | succ left ih =>
    rw [monthAndDay]
    by_cases here : days < daysInMonth year (before + 1)
    · rw [if_pos here]
      exact ⟨before + 1, days + 1, rfl, by omega, by omega, by omega, by omega, rfl⟩
    · rw [if_neg here]
      have behind := ih (before + 1) (days - daysInMonth year (before + 1)) (by
        rw [show before + 1 + left + 1 = before + (left + 1) + 1 by omega, daysOfMonths]
        omega)
      obtain ⟨month, day, found, low, high, first, last, same⟩ := behind
      refine ⟨month, day, found, low, by omega, first, last, ?_⟩
      rw [same, daysOfMonths]
      omega

/-- The date of a day number is there, and has that day number. -/
theorem Date.ofDayNumber_spec (n : Int) :
    (ofDayNumber n).exists = true ∧ (ofDayNumber n).dayNumber = n := by
  obtain ⟨century, four, one, days, year, ⟨centuries, fours, ones⟩, left, inside, counted, same⟩ :=
    ofDayNumber_counted n
  have before := daysBeforeYear_counted ((n + daysBeforeEpoch) / 146097) centuries fours ones
  have leap := isLeapYear_counted ((n + daysBeforeEpoch) / 146097) centuries fours ones
  rw [← counted] at before leap
  rw [← if_congr leap rfl rfl, ← daysInYear_eq] at inside
  obtain ⟨month, day, found, low, high, first, last, of_year⟩ :=
    monthAndDay_spec year 11 0 days (by rwa [daysOfMonths, Nat.zero_add])
  have found' : monthAndDay year 11 1 days = (month, day) := found
  rw [same, found']
  constructor
  · exact (exists_iff _).2 ⟨low, high, first, last⟩
  · rw [daysOfMonths, Nat.zero_add] at of_year
    have whole := Int.mul_ediv_add_emod (n + daysBeforeEpoch) 146097
    rw [dayNumber]
    dsimp only
    omega

end MetadataGateway.Calendar
