/-!
# The proleptic Gregorian calendar

Dates of the Gregorian calendar, extended to all years, and the number of days from 1970-01-01 to
each of them. The calendar repeats after 400 years, which are 146097 days.
-/

namespace MetadataGateway.Calendar

/-- A date; `day` counts from 1, and so does `month`. -/
structure Date where
  year : Int
  month : Nat
  day : Nat
deriving DecidableEq, Repr

/-- Every fourth year is a leap year, of the centuries only every fourth. -/
def isLeapYear (year : Int) : Bool :=
  year % 4 = 0 && (year % 100 ≠ 0 || year % 400 = 0)

/-- The number of days of a month, 0 if there is no such month. -/
def daysInMonth (year : Int) : Nat → Nat
  | 1 | 3 | 5 | 7 | 8 | 10 | 12 => 31
  | 4 | 6 | 9 | 11 => 30
  | 2 => if isLeapYear year then 29 else 28
  | _ => 0

/-- Whether the calendar has this date. -/
def Date.exists (d : Date) : Bool :=
  1 ≤ d.month && d.month ≤ 12 && 1 ≤ d.day && d.day ≤ daysInMonth d.year d.month

/-- The days from 0001-01-01 to the first day of a year. -/
def daysBeforeYear (year : Int) : Int :=
  let past := year - 1
  past * 365 + past / 4 - past / 100 + past / 400

/-- The days from the first day of a year to the first day of the month behind `months` months. -/
def daysOfMonths (year : Int) : Nat → Nat
  | 0 => 0
  | months + 1 => daysOfMonths year months + daysInMonth year (months + 1)

/-- The days from 0001-01-01 to 1970-01-01. -/
def daysBeforeEpoch : Int := 719162

/-- The days from 1970-01-01 to a date. -/
def Date.dayNumber (d : Date) : Int :=
  daysBeforeYear d.year + daysOfMonths d.year (d.month - 1) + ((d.day : Int) - 1) - daysBeforeEpoch

/-- The month and day that lie `days` days behind the first day of month `month`, where `left`
months follow it. -/
def monthAndDay (year : Int) : Nat → Nat → Nat → Nat × Nat
  | 0, month, days => (month, days + 1)
  | left + 1, month, days =>
    if days < daysInMonth year month then (month, days + 1)
    else monthAndDay year left (month + 1) (days - daysInMonth year month)

/-- The date that lies so many days behind 1970-01-01. Cycles of 400 years, centuries, cycles of
four years and years are counted off in turn; the last century of a cycle and the last year of four
are one day longer, so their counts stop at 3. -/
def Date.ofDayNumber (n : Int) : Date :=
  let days := n + daysBeforeEpoch
  let cycle := days / 146097
  let inCycle := (days % 146097).toNat
  let century := min (inCycle / 36524) 3
  let inCentury := inCycle - century * 36524
  let four := inCentury / 1461
  let inFour := inCentury % 1461
  let one := min (inFour / 365) 3
  let year := cycle * 400 + ((century * 100 + four * 4 + one : Nat) : Int) + 1
  let (month, day) := monthAndDay year 11 1 (inFour - one * 365)
  { year, month, day }

end MetadataGateway.Calendar
