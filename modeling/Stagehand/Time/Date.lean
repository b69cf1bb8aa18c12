/-!
# Days of the calendar
The Gregorian calendar, reckoned in both directions without end, and the count of days from the
first of January 1970. Years begin in March for the arithmetic, so that a leap day is the last day
of its year; 400 of them repeat exactly.
-/

namespace Stagehand

/-- A day of the calendar. -/
structure Date where
  year : Int
  month : Nat
  day : Nat
deriving DecidableEq

namespace Date

/-- The days of 400 years. -/
def daysPerCycle : Nat := 146097

/-- The days from the first of March of the year 0 up to the first of January 1970. -/
def daysToEpoch : Int := 719468

/-- The days of a cycle before its year `y`. -/
def daysBeforeYear (y : Nat) : Nat := 365 * y + y / 4 - y / 100

/-- The days of a year before its month `m`, March being month 0. -/
def daysBeforeMonth (m : Nat) : Nat := (153 * m + 2) / 5

/-- The year of a cycle that a day of the cycle falls into. -/
def yearOfCycle (d : Nat) : Nat := (d - d / 1460 + d / 36524 - d / 146096) / 365

/-- The month of a year that a day of the year falls into. -/
def monthOfYear (d : Nat) : Nat := (5 * d + 2) / 153

/-- The number of a day: how many days it comes after the first of January 1970. -/
def dayNumber (date : Date) : Int :=
  let early := date.month ≤ 2
  let y := if early then date.year - 1 else date.year
  let m := if early then date.month + 9 else date.month - 3
  y / 400 * daysPerCycle +
    (daysBeforeYear (y % 400).toNat + daysBeforeMonth m + date.day : Nat) - 1 - daysToEpoch

/-- The day of a number. -/
def ofDayNumber (n : Int) : Date :=
  let d := n + daysToEpoch
  let cycle := d / daysPerCycle
  let dayOfCycle := (d % daysPerCycle).toNat
  let y := yearOfCycle dayOfCycle
  let dayOfYear := dayOfCycle - daysBeforeYear y
  let m := monthOfYear dayOfYear
  let early := 10 ≤ m
  { year := cycle * 400 + y + (if early then 1 else 0)
    month := if early then m - 9 else m + 3
    day := dayOfYear - daysBeforeMonth m + 1 }

end Date

end Stagehand
