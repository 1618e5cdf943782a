import AccessPortal.Text.Column

/-!
# Calendar time

A moment given in milliseconds since the start of 1970, as a date of the proleptic Gregorian
calendar and a time of day in UTC.

The date is found by counting years from the first of March, so that the day that some Februaries
have more is the last of a year, and by splitting the days into cycles of 400 years.
-/

namespace AccessPortal
namespace Calendar

/-- A date and a time of day, without fractions of a second. -/
structure DateTime where
  year : Int
  month : Nat
  day : Nat
  hour : Nat
  minute : Nat
  second : Nat
  deriving DecidableEq, Repr

/-- The years in which a date can lie. -/
def minYear : Int := -262143
def maxYear : Int := 262142

/-- Year, month and day of the date that lies a number of days after the start of 1970. -/
def civil (days : Int) : Int × Nat × Nat :=
  let shifted := days + 719468
  let cycle := shifted / 146097
  let dayOfCycle := (shifted % 146097).toNat
  let yearOfCycle :=
    (dayOfCycle - dayOfCycle / 1460 + dayOfCycle / 36524 - dayOfCycle / 146096) / 365
  let dayOfYear := dayOfCycle - (365 * yearOfCycle + yearOfCycle / 4 - yearOfCycle / 100)
  let monthFromMarch := (5 * dayOfYear + 2) / 153
  let day := dayOfYear - (153 * monthFromMarch + 2) / 5 + 1
  let month := if monthFromMarch < 10 then monthFromMarch + 3 else monthFromMarch - 9
  let year := cycle * 400 + yearOfCycle
  (if month ≤ 2 then year + 1 else year, month, day)

/-- The date and time of a moment, unless its year is out of range. -/
def ofMilliseconds? (moment : Int) : Option DateTime :=
  let seconds := moment / 1000
  let (year, month, day) := civil (seconds / 86400)
  let secondOfDay := (seconds % 86400).toNat
  if minYear ≤ year ∧ year ≤ maxYear then
    some
      { year, month, day
        hour := secondOfDay / 3600
        minute := secondOfDay / 60 % 60
        second := secondOfDay % 60 }
  else none

/-- A year: four digits, with a sign if it is negative or has more digits. -/
def yearText (year : Int) : String :=
  if year < 0 then "-" ++ Text.zeroPadded 4 year.natAbs
  else if 9999 < year then "+" ++ Text.zeroPadded 4 year.natAbs
  else Text.zeroPadded 4 year.natAbs

/-- A date and time as the console prints it. -/
def DateTime.text (t : DateTime) : String :=
  yearText t.year ++ "-" ++ Text.zeroPadded 2 t.month ++ "-" ++ Text.zeroPadded 2 t.day ++ " "
    ++ Text.zeroPadded 2 t.hour ++ ":" ++ Text.zeroPadded 2 t.minute ++ ":"
    ++ Text.zeroPadded 2 t.second ++ " UTC"

end Calendar
end AccessPortal
