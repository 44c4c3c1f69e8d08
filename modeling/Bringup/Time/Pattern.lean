import Bringup.Time.Instant

/-!
# Date patterns

`formatTime` writes a wall time by a pattern in which `%` and a letter stand for a part of the time:
`%Y-%m-%d %H:%M:%S` gives `2025-01-15 10:30:45`.  Names are English; the zone is universal time.  A
letter that stands for nothing is written with its sign.
-/

namespace Bringup

def weekdayNames : List String :=
  ["Sunday", "Monday", "Tuesday", "Wednesday", "Thursday", "Friday", "Saturday"]

def monthNames : List String :=
  ["January", "February", "March", "April", "May", "June", "July", "August", "September", "October",
    "November", "December"]

/-- The first three letters of a name. -/
def shortName (s : String) : String := String.ofList (s.toList.take 3)

/-- A number filled with spaces to two places. -/
def spacePadded (n : Nat) : String := if n < 10 then " " ++ toString n else toString n

namespace WallTime

/-- Days since the start of 1970. -/
def days (t : WallTime) : Int := t.date.toDays

def weekdayName (t : WallTime) : String := weekdayNames.getD (weekday t.days) ""

def monthName (t : WallTime) : String := monthNames.getD (t.date.month - 1) ""

/-- The hour on a clock of twelve. -/
def hour12 (t : WallTime) : Nat := if t.hour % 12 = 0 then 12 else t.hour % 12

/-- The number of the week of the year when weeks begin on day `first` (Sunday is zero). -/
def weekOfYear (first : Nat) (t : WallTime) : Nat :=
  ((t.date.dayOfYear.toNat - 1) + 7 - ((weekday t.days + 7 - first) % 7)) / 7

/-- Year, month and day. -/
def dayText (t : WallTime) : String :=
  toString t.date.year ++ "-" ++ zeroPadded 2 t.date.month ++ "-" ++ zeroPadded 2 t.date.day

/-- Month, day and year in two digits each. -/
def shortDayText (t : WallTime) : String :=
  zeroPadded 2 t.date.month ++ "/" ++ zeroPadded 2 t.date.day ++ "/"
    ++ zeroPadded 2 (t.date.year % 100).toNat

/-- Hour and minute. -/
def minuteText (t : WallTime) : String := zeroPadded 2 t.hour ++ ":" ++ zeroPadded 2 t.minute

/-- Hour, minute and second. -/
def timeText (t : WallTime) : String := t.minuteText ++ ":" ++ zeroPadded 2 t.second

def halfDay (t : WallTime) : String := if t.hour < 12 then "AM" else "PM"

/-- What a letter of a pattern stands for. -/
def part? (t : WallTime) (letter : Char) : Option String :=
  match letter with
  | 'Y' => some (toString t.date.year)
  | 'y' => some (zeroPadded 2 (t.date.year % 100).toNat)
  | 'C' => some (zeroPadded 2 (t.date.year / 100).toNat)
  | 'm' => some (zeroPadded 2 t.date.month)
  | 'd' => some (zeroPadded 2 t.date.day)
  | 'e' => some (spacePadded t.date.day)
  | 'H' => some (zeroPadded 2 t.hour)
  | 'k' => some (spacePadded t.hour)
  | 'I' => some (zeroPadded 2 t.hour12)
  | 'l' => some (spacePadded t.hour12)
  | 'M' => some (zeroPadded 2 t.minute)
  | 'S' => some (zeroPadded 2 t.second)
  | 'j' => some (zeroPadded 3 t.date.dayOfYear.toNat)
  | 'a' => some (shortName t.weekdayName)
  | 'A' => some t.weekdayName
  | 'b' | 'h' => some (shortName t.monthName)
  | 'B' => some t.monthName
  | 'p' => some t.halfDay
  | 'P' => some (if t.hour < 12 then "am" else "pm")
  | 'u' => some (toString (if weekday t.days = 0 then 7 else weekday t.days))
  | 'w' => some (toString (weekday t.days))
  | 'U' => some (zeroPadded 2 (t.weekOfYear 0))
  | 'W' => some (zeroPadded 2 (t.weekOfYear 1))
  | 'V' => some (zeroPadded 2 t.date.isoWeek.2.toNat)
  | 'G' => some (toString t.date.isoWeek.1)
  | 'g' => some (zeroPadded 2 (t.date.isoWeek.1 % 100).toNat)
  | 'F' => some t.dayText
  | 'D' | 'x' => some t.shortDayText
  | 'R' => some t.minuteText
  | 'T' | 'X' => some t.timeText
  | 'r' => some (zeroPadded 2 t.hour12 ++ ":" ++ zeroPadded 2 t.minute ++ ":"
      ++ zeroPadded 2 t.second ++ " " ++ t.halfDay)
  | 'c' => some (shortName t.weekdayName ++ " " ++ shortName t.monthName ++ " "
      ++ spacePadded t.date.day ++ " " ++ t.timeText ++ " " ++ toString t.date.year)
  | 's' => some (toString (t.days * 86400 + (t.micros / 1000000 : Nat)))
  | 'z' => some "+0000"
  | 'Z' => some "GMT"
  | 'n' => some "\n"
  | 't' => some "\t"
  | '%' => some "%"
  | _ => none

end WallTime

/-- The characters of a wall time written by a pattern. -/
def formatTimeList (t : WallTime) : List Char → List Char
  | [] => []
  | '%' :: letter :: cs =>
    (match t.part? letter with
      | some s => s.toList
      | none => ['%', letter]) ++ formatTimeList t cs
  | c :: cs => c :: formatTimeList t cs

/-- A wall time written by a pattern. -/
def formatTime (pattern : String) (t : WallTime) : String :=
  String.ofList (formatTimeList t pattern.toList)

end Bringup
