/-!
# Dates

A date is held as its number of days from 1970-01-01, within the years that are supported; the
civil form (year, month, day) is computed from it. Order and distance of dates are then those of
integers, and the calendar's irregularities stay in one pair of functions, `Civil.dayNumber` and
`Civil.ofDayNumber`.

Both functions count years from March, so that the leap day is the last day of its year and the
lengths of the months before it follow one formula. Years are proleptic Gregorian; the year before
year 1 is year 0.
-/

namespace SemanticLayer.Calendar

/-! ### Civil dates -/

/-- A date as it is written: a year, a month from 1 and a day from 1. -/
structure Civil where
  /-- The year, astronomically numbered. -/
  year : Int
  /-- The month, from 1 to 12 in a valid date. -/
  month : Nat
  /-- The day of the month, from 1. -/
  day : Nat
  deriving DecidableEq, Repr

/-- Whether a year has a 29th of February. -/
def isLeapYear (year : Int) : Bool :=
  year % 4 == 0 && (year % 100 != 0 || year % 400 == 0)

/-- The number of days of a month. -/
def daysInMonth (year : Int) (month : Nat) : Nat :=
  if month = 2 then (if isLeapYear year then 29 else 28)
  else if month = 4 ∨ month = 6 ∨ month = 9 ∨ month = 11 then 30
  else 31

namespace Civil

/-- The month and the day exist in the calendar. -/
def IsValid (date : Civil) : Prop :=
  1 ≤ date.month ∧ date.month ≤ 12 ∧ 1 ≤ date.day ∧ date.day ≤ daysInMonth date.year date.month

instance (date : Civil) : Decidable date.IsValid := by
  unfold IsValid
  infer_instance

/-- The number of days from 1970-01-01. -/
def dayNumber (date : Civil) : Int :=
  let year := if date.month ≤ 2 then date.year - 1 else date.year
  let month : Int := (date.month + 9) % 12
  365 * year + year / 4 - year / 100 + year / 400 + (153 * month + 2) / 5 + date.day - 719469

/-- The date a number of days after 1970-01-01. -/
def ofDayNumber (number : Int) : Civil :=
  let fromMarch := number + 719468
  let era := fromMarch / 146097
  let dayOfEra := fromMarch % 146097
  let yearOfEra :=
    (dayOfEra - dayOfEra / 1460 + dayOfEra / 36524 - dayOfEra / 146096) / 365
  let dayOfYear := dayOfEra - (365 * yearOfEra + yearOfEra / 4 - yearOfEra / 100)
  let month := (5 * dayOfYear + 2) / 153
  let day := dayOfYear - (153 * month + 2) / 5 + 1
  let year := yearOfEra + 400 * era
  if month < 10 then ⟨year, (month + 3).toNat, day.toNat⟩
  else ⟨year + 1, (month - 9).toNat, day.toNat⟩

end Civil

/-! ### Dates within the supported years -/

/-- The number of the first supported day, the first of January of the year -262143. -/
def firstDay : Int := -96465292

/-- The number of the last supported day, the last of December of the year 262142. -/
def lastDay : Int := 95026236

example : firstDay = Civil.dayNumber ⟨-262143, 1, 1⟩ := by decide

example : lastDay = Civil.dayNumber ⟨262142, 12, 31⟩ := by decide

/-- A day of a supported year. -/
structure Date where
  /-- The number of days from 1970-01-01. -/
  number : Int
  /-- The day lies in a supported year. -/
  inRange : firstDay ≤ number ∧ number ≤ lastDay
  deriving DecidableEq

namespace Date

/-- The day with a given number, if it is supported. -/
def ofNumber? (number : Int) : Option Date :=
  if h : firstDay ≤ number ∧ number ≤ lastDay then some ⟨number, h⟩ else none

/-- The day with a given civil form, if the form is valid and the day is supported. -/
def ofCivil? (date : Civil) : Option Date :=
  if date.IsValid then ofNumber? date.dayNumber else none

/-- The year, month and day of a date. -/
def civil (date : Date) : Civil :=
  Civil.ofDayNumber date.number

/-- The number of days since Monday. -/
def daysFromMonday (date : Date) : Int :=
  (date.number + 3) % 7

theorem number_of_ofNumber? {number : Int} {date : Date} (h : ofNumber? number = some date) :
    date.number = number := by
  unfold ofNumber? at h
  split at h
  · cases h; rfl
  · cases h

end Date

end SemanticLayer.Calendar
