import Bringup.Time.Calendar
import Bringup.Number.Binary64

/-!
# Instants

* `Instant` : microseconds since the start of 1970 in universal time, and the offset they are shown in;
* `Instant.isoText`, `Instant.parse?` : the text `2025-01-15T10:30:45.123456+00:00` and back;
* `Instant.ofSeconds` : the instant of a number of seconds, to the nearest microsecond;
* `ClockFault` : why a number of seconds has none.

The fraction of a second has six digits or is left out when it is zero.  An instant without an offset
is shown without one; it is never the same as one that has an offset.
-/

namespace Bringup

/-- Microseconds since the start of 1970 in universal time, and the offset in seconds that the instant
is shown in, if it has one. -/
structure Instant where
  micros : Int
  offset : Option Int
  deriving DecidableEq, Repr

/-- Why a number of seconds is no moment of the calendar: it is no number, no clock counts so far, the
year does not fit a calendar, or the year is not one of 1 to 9999. -/
inductive ClockFault where
  | notNumber
  | beyondClock
  | beyondCalendar
  | year (n : Int)
  deriving DecidableEq, Repr

/-- What is said of such a number of seconds. -/
def ClockFault.message : ClockFault → String
  | .notNumber => "Invalid value NaN (not a number)"
  | .beyondClock => "timestamp out of range for platform time_t"
  | .beyondCalendar => "[Errno 75] Value too large for defined data type"
  | .year n => s!"year {n} is out of range"

/-- A moment on the wall clock: a day, and microseconds from its start. -/
structure WallTime where
  date : Date
  micros : Nat
  deriving DecidableEq, Repr

namespace WallTime

/-- Microseconds of a day. -/
def dayMicros : Int := 86400 * 1000000

/-- The wall time so many microseconds after the start of 1970. -/
def ofMicros (n : Int) : WallTime :=
  ⟨Date.ofDays (n / dayMicros), (n % dayMicros).toNat⟩

def hour (t : WallTime) : Nat := t.micros / 3600000000
def minute (t : WallTime) : Nat := t.micros / 60000000 % 60
def second (t : WallTime) : Nat := t.micros / 1000000 % 60
def microsecond (t : WallTime) : Nat := t.micros % 1000000

end WallTime

/-- The digits of `n` with zeros before them up to `width`. -/
def zeroPadded (width n : Nat) : String :=
  let ds := Nat.toDigits 10 n
  String.ofList (List.replicate (width - ds.length) '0' ++ ds)

namespace Instant

/-- The wall clock where the instant is shown. -/
def wall (t : Instant) : WallTime :=
  WallTime.ofMicros (t.micros + (t.offset.getD 0) * 1000000)

/-- An offset: sign, hours and minutes, and seconds when there are any. -/
def offsetText (seconds : Int) : String :=
  let n := seconds.natAbs
  let text := zeroPadded 2 (n / 3600) ++ ":" ++ zeroPadded 2 (n / 60 % 60)
  (if seconds < 0 then "-" else "+") ++ text
    ++ (if n % 60 = 0 then "" else ":" ++ zeroPadded 2 (n % 60))

/-- The text of an instant, with `separator` between day and time; `always` writes the fraction even
when it is zero. -/
def textWith (separator : String) (always : Bool) (t : Instant) : String :=
  let w := t.wall
  let day := zeroPadded 4 w.date.year.toNat ++ "-" ++ zeroPadded 2 w.date.month ++ "-"
    ++ zeroPadded 2 w.date.day
  let time := zeroPadded 2 w.hour ++ ":" ++ zeroPadded 2 w.minute ++ ":" ++ zeroPadded 2 w.second
  let fraction :=
    if w.microsecond = 0 && !always then "" else "." ++ zeroPadded 6 w.microsecond
  day ++ separator ++ time ++ fraction ++ (t.offset.map offsetText).getD ""

/-- The text of an instant with a `T` between day and time. -/
def isoText (t : Instant) : String := t.textWith "T" false

/-- The text of an instant for readers: a space stands between day and time. -/
def display (t : Instant) : String := t.textWith " " false

/-- Reads exactly `count` digits. -/
def digits? : Nat → List Char → Option (Nat × List Char)
  | 0, cs => some (0, cs)
  | n + 1, c :: cs =>
    if c.isDigit then
      (digits? n cs).map fun (v, rest) => ((c.toNat - '0'.toNat) * tenTo n + v, rest)
    else none
  | _ + 1, [] => none

/-- Reads one given character. -/
def expect? (c : Char) : List Char → Option (List Char)
  | d :: cs => if c = d then some cs else none
  | [] => none

/-- Reads an optional fraction of a second: a point and six digits. -/
def fraction? (cs : List Char) : Option (Nat × List Char) :=
  match cs with
  | '.' :: rest => digits? 6 rest
  | _ => some (0, cs)

/-- Reads hours and minutes, and seconds if a colon follows. -/
def offsetSize? (cs : List Char) : Option Int := do
  let (h, cs) ← digits? 2 cs
  let cs ← expect? ':' cs
  let (m, cs) ← digits? 2 cs
  match cs with
  | [] => some ((h * 3600 + m * 60 : Nat) : Int)
  | _ =>
    let cs ← expect? ':' cs
    let (s, cs) ← digits? 2 cs
    if cs.isEmpty then some ((h * 3600 + m * 60 + s : Nat) : Int) else none

/-- Reads an offset, which may be missing. -/
def offset? : List Char → Option (Option Int)
  | [] => some none
  | ['Z'] => some (some 0)
  | '+' :: cs => (offsetSize? cs).map some
  | '-' :: cs => (offsetSize? cs).map fun n => some (-n)
  | _ => none

/-- Reads the text that `isoText` writes. -/
def parse? (s : String) : Option Instant := do
  let (year, cs) ← digits? 4 s.toList
  let cs ← expect? '-' cs
  let (month, cs) ← digits? 2 cs
  let cs ← expect? '-' cs
  let (day, cs) ← digits? 2 cs
  let cs ← expect? 'T' cs
  let (hour, cs) ← digits? 2 cs
  let cs ← expect? ':' cs
  let (minute, cs) ← digits? 2 cs
  let cs ← expect? ':' cs
  let (second, cs) ← digits? 2 cs
  let (micro, cs) ← fraction? cs
  let offset ← offset? cs
  let date : Date := ⟨year, month, day⟩
  if date.isValid && hour < 24 && minute < 60 && second < 60 then
    let seconds := date.toDays * 86400 + ((hour * 3600 + minute * 60 + second : Nat) : Int)
    some ⟨(seconds - offset.getD 0) * 1000000 + micro, offset⟩
  else none

/-- The same point of time; one with an offset never equals one without. -/
def same (t u : Instant) : Bool := t.micros == u.micros && t.offset.isSome == u.offset.isSome

/-- The seconds from `start` to `finish`, as the nearest floating-point number. -/
def secondsBetween (start finish : Instant) : Binary64 :=
  let d := finish.micros - start.micros
  Binary64.ofRatio (d < 0) d.natAbs 1000000

/-- Seconds since the start of 1970 that a clock can show: they fit into 64 bits and their year into 32. -/
def clockSeconds (seconds : Int) : Except ClockFault Int :=
  if seconds < -((1 <<< 63 : Nat) : Int) ∨ ((1 <<< 63 : Nat) : Int) ≤ seconds then .error .beyondClock
  else if seconds < -67768040609740800 ∨ 67768036191676800 ≤ seconds then .error .beyondCalendar
  else .ok seconds

/-- The whole seconds of a number of seconds, downward. -/
def wholeSeconds (x : Binary64) : Except ClockFault Int :=
  if x.isNan then .error .notNumber
  else
    match x.floor? with
    | none => .error .beyondClock
    | some n => clockSeconds n

/-- The microseconds nearest to a number of seconds.  The fraction is taken to millionths in floating
point, and those are rounded half to even; `none` for what is not finite. -/
def microsOf? (x : Binary64) : Option Int :=
  x.ratio?.bind fun (num, den) =>
    let whole := num / den
    let millionths := Binary64.ofRatio false (num % den * 1000000) den
    millionths.ratio?.map fun (n, d) =>
      let micros : Int := (whole * 1000000 + roundHalfEven n d : Nat)
      if x.negative then -micros else micros

/-- The instant of so many seconds since the start of 1970, in universal time. -/
def ofSeconds (x : Binary64) : Except ClockFault Instant :=
  if x.isNan then .error .notNumber
  else
    match microsOf? x with
    | none => .error .beyondClock
    | some micros => do
      let seconds ← clockSeconds (micros / 1000000)
      let year := (Date.ofDays (seconds / 86400)).year
      if 1 ≤ year ∧ year ≤ 9999 then .ok ⟨micros, some 0⟩ else .error (.year year)

end Instant

end Bringup
