/-!
Contract: the proleptic Gregorian calendar.

Owns:
- a day's year, month and day of month from its number, and back;
- leap years and the lengths of months.

The count of days starts at 1970-01-01. Inside the conversion a year starts in March, so the
leap day is the last one, and years are grouped by 400, after which the calendar repeats.

Does not own: clock times and the texts of dates.
-/

namespace SchemaMatch

/-- A day by its year, month and day of month. -/
structure CivilDate where
  year : Int
  month : Nat
  day : Nat
deriving DecidableEq, Repr

namespace CivilDate

/-- Days in 400 years. -/
def daysPerEra : Nat := 146097

/-- Days from 0000-03-01, where the first group of 400 years starts, to 1970-01-01. -/
def epochShift : Int := 719468

/-- Days before a year in its group of 400. -/
def daysBeforeYear (yearOfEra : Nat) : Nat :=
  yearOfEra * 365 + yearOfEra / 4 - yearOfEra / 100

/-- The year within its group of 400 that holds a day of the group. -/
def yearOfDay (dayOfEra : Nat) : Nat :=
  (dayOfEra - dayOfEra / 1460 + dayOfEra / 36524 - dayOfEra / 146096) / 365

/-- Days before a month of the year that starts in March. -/
def daysBeforeMonth (marchMonth : Nat) : Nat :=
  (153 * marchMonth + 2) / 5

/-- The date of the day `number` days after 1970-01-01. -/
def ofDayNumber (number : Int) : CivilDate :=
  let shifted := number + epochShift
  let era := shifted / daysPerEra
  let dayOfEra := (shifted % daysPerEra).toNat
  let yearOfEra := yearOfDay dayOfEra
  let dayOfYear := dayOfEra - daysBeforeYear yearOfEra
  let marchMonth := (5 * dayOfYear + 2) / 153
  let month := if marchMonth < 10 then marchMonth + 3 else marchMonth - 9
  { year := yearOfEra + era * 400 + (if month ≤ 2 then 1 else 0)
    month := month
    day := dayOfYear - daysBeforeMonth marchMonth + 1 }

/-- The number of days from 1970-01-01 to a date. -/
def dayNumber (date : CivilDate) : Int :=
  let year := date.year - (if date.month ≤ 2 then 1 else 0)
  let era := year / 400
  let yearOfEra := (year % 400).toNat
  let marchMonth := if date.month ≤ 2 then date.month + 9 else date.month - 3
  era * daysPerEra + daysBeforeYear yearOfEra + daysBeforeMonth marchMonth + date.day - 1 -
    epochShift

def isLeapYear (year : Int) : Bool :=
  year % 4 == 0 && (year % 100 != 0 || year % 400 == 0)

/-- The number of days of a month; no month has the number 0 or more than 12. -/
def daysInMonth (year : Int) (month : Nat) : Nat :=
  if month = 2 then (if isLeapYear year then 29 else 28)
  else if month = 4 ∨ month = 6 ∨ month = 9 ∨ month = 11 then 30
  else if 1 ≤ month ∧ month ≤ 12 then 31
  else 0

/-- Whether the month and the day exist. -/
def exists? (date : CivilDate) : Bool :=
  1 ≤ date.day && date.day ≤ daysInMonth date.year date.month

end CivilDate

end SchemaMatch
