/-!
# The proleptic Gregorian calendar

Days are counted from 1970-01-01, which is day `0`. `CivilDate.toDays` and `CivilDate.ofDays`
convert between a day number and its year, month and day by the era arithmetic of the
Gregorian cycle: 400 years are exactly 146097 days, and inside a cycle the year is taken to
begin on the first of March, so that the leap day falls at its end.
-/

namespace SeatBilling.Time

/-- A day of the proleptic Gregorian calendar, as its year, month (1 to 12) and day. -/
structure CivilDate where
  year : Int
  month : Nat
  day : Nat
  deriving DecidableEq, Repr

/-- A year is a leap year when 4 divides it, unless 100 does and 400 does not. -/
def isLeapYear (year : Int) : Bool :=
  year % 4 == 0 && (year % 100 != 0 || year % 400 == 0)

/-- The number of days of a month in a year. -/
def daysInMonth (year : Int) (month : Nat) : Nat :=
  match month with
  | 2 => if isLeapYear year then 29 else 28
  | 4 | 6 | 9 | 11 => 30
  | _ => 31

/-- Whether month and day name a day of the calendar in that year. -/
def CivilDate.isValid (date : CivilDate) : Bool :=
  1 ≤ date.month && date.month ≤ 12 && 1 ≤ date.day && date.day ≤ daysInMonth date.year date.month

/-- The day number of a date, 1970-01-01 being day `0`. -/
def CivilDate.toDays (date : CivilDate) : Int :=
  let shifted : Int := if date.month ≤ 2 then date.year - 1 else date.year
  let era := shifted / 400
  let yearOfEra := shifted % 400
  let marchMonth : Int := if date.month > 2 then (date.month : Int) - 3 else (date.month : Int) + 9
  let dayOfYear := (153 * marchMonth + 2) / 5 + (date.day : Int) - 1
  let dayOfEra := yearOfEra * 365 + yearOfEra / 4 - yearOfEra / 100 + dayOfYear
  era * 146097 + dayOfEra - 719468

/-- The date of a day number, the inverse of `CivilDate.toDays` on valid dates. -/
def CivilDate.ofDays (days : Int) : CivilDate :=
  let z := days + 719468
  let era := z / 146097
  let dayOfEra := z % 146097
  let yearOfEra := (dayOfEra - dayOfEra / 1460 + dayOfEra / 36524 - dayOfEra / 146096) / 365
  let dayOfYear := dayOfEra - (365 * yearOfEra + yearOfEra / 4 - yearOfEra / 100)
  let marchMonth := (5 * dayOfYear + 2) / 153
  let day := dayOfYear - (153 * marchMonth + 2) / 5 + 1
  let month := if marchMonth < 10 then marchMonth + 3 else marchMonth - 9
  let year := yearOfEra + era * 400
  ⟨if month ≤ 2 then year + 1 else year, month.toNat, day.toNat⟩

example : CivilDate.toDays ⟨1970, 1, 1⟩ = 0 := by decide
example : CivilDate.toDays ⟨2026, 1, 1⟩ = 20454 := by decide
example : CivilDate.ofDays 20454 = ⟨2026, 1, 1⟩ := by decide
example : CivilDate.ofDays (CivilDate.toDays ⟨-9999, 1, 1⟩) = ⟨-9999, 1, 1⟩ := by decide
example : CivilDate.ofDays (CivilDate.toDays ⟨2024, 2, 29⟩) = ⟨2024, 2, 29⟩ := by decide

end SeatBilling.Time
