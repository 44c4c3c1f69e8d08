/-!
# The civil calendar

* `Date` : year, month and day of the proleptic Gregorian calendar;
* `Date.toDays`, `Date.ofDays` : days since 1 January 1970, both ways;
* `weekday`, `Date.dayOfYear`, `Date.isoWeek` : where a day stands in its week and year.

Years are counted from March, so that the leap day is the last of its year; four hundred of them are
146097 days.
-/

namespace Bringup

/-- A day of the proleptic Gregorian calendar. -/
structure Date where
  year : Int
  month : Nat
  day : Nat
  deriving DecidableEq, Repr

/-- A year with a leap day. -/
def isLeapYear (y : Int) : Bool := y % 4 == 0 && (y % 100 != 0 || y % 400 == 0)

/-- The number of days in a month. -/
def daysInMonth (y : Int) (m : Nat) : Nat :=
  if m = 2 then (if isLeapYear y then 29 else 28)
  else if m = 4 ∨ m = 6 ∨ m = 9 ∨ m = 11 then 30 else 31

namespace Date

/-- A month and a day that the calendar has. -/
def isValid (d : Date) : Bool :=
  1 ≤ d.month && d.month ≤ 12 && 1 ≤ d.day && d.day ≤ daysInMonth d.year d.month

/-- Days since 1 January 1970. -/
def toDays (d : Date) : Int :=
  let y : Int := if d.month ≤ 2 then d.year - 1 else d.year
  let era := y / 400
  let yearOfEra := y % 400
  let monthFromMarch : Int := if d.month ≤ 2 then d.month + 9 else d.month - 3
  let dayOfYear := (153 * monthFromMarch + 2) / 5 + d.day - 1
  let dayOfEra := yearOfEra * 365 + yearOfEra / 4 - yearOfEra / 100 + dayOfYear
  era * 146097 + dayOfEra - 719468

/-- The day so many days after 1 January 1970. -/
def ofDays (n : Int) : Date :=
  let z := n + 719468
  let era := z / 146097
  let dayOfEra := z % 146097
  let yearOfEra := (dayOfEra - dayOfEra / 1460 + dayOfEra / 36524 - dayOfEra / 146096) / 365
  let dayOfYear := dayOfEra - (365 * yearOfEra + yearOfEra / 4 - yearOfEra / 100)
  let monthFromMarch := (5 * dayOfYear + 2) / 153
  let month := if monthFromMarch < 10 then monthFromMarch + 3 else monthFromMarch - 9
  { year := yearOfEra + era * 400 + (if month ≤ 2 then 1 else 0)
    month := month.toNat
    day := (dayOfYear - (153 * monthFromMarch + 2) / 5 + 1).toNat }

/-- The place of a day in its year, from one. -/
def dayOfYear (d : Date) : Int := d.toDays - toDays ⟨d.year, 1, 1⟩ + 1

end Date

/-- The day of the week of a day, from Sunday as zero. -/
def weekday (days : Int) : Nat := ((days + 4) % 7).toNat

namespace Date

/-- The year and number of the week a day belongs to: weeks begin on Monday, and the first week of a
year is the one that holds its first Thursday. -/
def isoWeek (d : Date) : Int × Int :=
  let days := d.toDays
  let thursday := days - (days + 3) % 7 + 3
  let year := (ofDays thursday).year
  (year, (thursday - toDays ⟨year, 1, 1⟩) / 7 + 1)

end Date

end Bringup
