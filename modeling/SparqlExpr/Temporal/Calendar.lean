/-!
The proleptic Gregorian calendar and the clock: civil dates, times of day with nanoseconds
(a leap second is second 59 with at least `10^9` nanoseconds), and instants counted in seconds
from 1970-01-01T00:00:00 UTC. Dates are supported from -262143-01-01 to +262142-12-31.

`CivilDate.toDays` and `CivilDate.ofDays` convert between dates and day numbers (day 0 is
1970-01-01) by the era arithmetic of 400-year cycles.
-/

namespace SparqlExpr.Temporal

/-- A date of the proleptic Gregorian calendar. -/
structure CivilDate where
  year : Int
  month : Nat
  day : Nat
  deriving DecidableEq, Repr, Inhabited

def isLeapYear (y : Int) : Bool := (y % 4 == 0 && y % 100 != 0) || y % 400 == 0

def daysInMonth (y : Int) (m : Nat) : Nat :=
  if m == 2 then (if isLeapYear y then 29 else 28)
  else if m == 4 || m == 6 || m == 9 || m == 11 then 30
  else 31

/-- The first supported year. -/
def minYear : Int := -262143

/-- The last supported year. -/
def maxYear : Int := 262142

namespace CivilDate

/-- Whether the month and day exist and the year is supported. -/
def isValid (d : CivilDate) : Bool :=
  minYear ≤ d.year && d.year ≤ maxYear && 1 ≤ d.month && d.month ≤ 12 && 1 ≤ d.day &&
    d.day ≤ daysInMonth d.year d.month

/-- The day number of a date; 1970-01-01 is day 0. -/
def toDays (d : CivilDate) : Int :=
  let y : Int := if d.month ≤ 2 then d.year - 1 else d.year
  let era := y / 400
  let yearOfEra := y - era * 400
  let shiftedMonth : Int := if d.month > 2 then d.month - 3 else d.month + 9
  let dayOfYear := (153 * shiftedMonth + 2) / 5 + d.day - 1
  let dayOfEra := yearOfEra * 365 + yearOfEra / 4 - yearOfEra / 100 + dayOfYear
  era * 146097 + dayOfEra - 719468

/-- The date with a given day number. -/
def ofDays (n : Int) : CivilDate :=
  let z := n + 719468
  let era := z / 146097
  let dayOfEra := z - era * 146097
  let yearOfEra := (dayOfEra - dayOfEra / 1460 + dayOfEra / 36524 - dayOfEra / 146096) / 365
  let dayOfYear := dayOfEra - (365 * yearOfEra + yearOfEra / 4 - yearOfEra / 100)
  let shiftedMonth := (5 * dayOfYear + 2) / 153
  let day := dayOfYear - (153 * shiftedMonth + 2) / 5 + 1
  let month := if shiftedMonth < 10 then shiftedMonth + 3 else shiftedMonth - 9
  let year := yearOfEra + era * 400
  ⟨if month ≤ 2 then year + 1 else year, month.toNat, day.toNat⟩

end CivilDate

/-- A time of day. `nano` is below `2·10^9`; it reaches `10^9` only in a leap second, which is
written as second 59. -/
structure ClockTime where
  hour : Nat
  minute : Nat
  second : Nat
  nano : Nat
  deriving DecidableEq, Repr, Inhabited

namespace ClockTime

/-- Whole seconds since midnight. -/
def secondOfDay (t : ClockTime) : Nat := t.hour * 3600 + t.minute * 60 + t.second

def ofSecondOfDay (s : Nat) (nano : Nat) : ClockTime :=
  ⟨s / 3600, s % 3600 / 60, s % 60, nano⟩

/-- Order by seconds since midnight, then nanoseconds. -/
def compare (a b : ClockTime) : Ordering :=
  (Ord.compare a.secondOfDay b.secondOfDay).then (Ord.compare a.nano b.nano)

end ClockTime

/-- A date and a time of day, without a time zone. -/
structure LocalDateTime where
  date : CivilDate
  time : ClockTime
  deriving DecidableEq, Repr, Inhabited

/-- A point in time: whole seconds since 1970-01-01T00:00:00 UTC and nanoseconds (at least
`10^9` in a leap second). -/
structure Instant where
  seconds : Int
  nano : Nat
  deriving DecidableEq, Repr, Inhabited

namespace LocalDateTime

/-- The instant at which a clock `offset` seconds ahead of UTC shows this date and time. -/
def toInstant (l : LocalDateTime) (offset : Int) : Instant :=
  ⟨l.date.toDays * 86400 + l.time.secondOfDay - offset, l.time.nano⟩

end LocalDateTime

namespace Instant

/-- What a clock `offset` seconds ahead of UTC shows at this instant. -/
def toLocal (i : Instant) (offset : Int) : LocalDateTime :=
  let s := i.seconds + offset
  ⟨CivilDate.ofDays (s / 86400), ClockTime.ofSecondOfDay (s % 86400).toNat i.nano⟩

/-- Chronological order. -/
def compare (a b : Instant) : Ordering :=
  (Ord.compare a.seconds b.seconds).then (Ord.compare a.nano b.nano)

end Instant

/-- `n` written with at least `width` digits, padded with zeros. -/
def padded (width : Nat) (n : Nat) : String :=
  let ds := toString n
  String.ofList (List.replicate (width - ds.length) '0') ++ ds

/-- A year: four digits within 0 to 9999, otherwise a sign and at least four digits. -/
def yearText (y : Int) : String :=
  if 0 ≤ y && y ≤ 9999 then padded 4 y.toNat
  else (if y < 0 then "-" else "+") ++ padded 4 y.natAbs

/-- A fraction of a second: nothing when zero, else a point and three, six or nine digits,
the fewest that are exact. Whole seconds of a leap second are not part of it. -/
def fractionText (nano : Nat) : String :=
  let n := nano % 1000000000
  if n == 0 then ""
  else if n % 1000000 == 0 then "." ++ padded 3 (n / 1000000)
  else if n % 1000 == 0 then "." ++ padded 6 (n / 1000)
  else "." ++ padded 9 n

def CivilDate.text (d : CivilDate) : String :=
  yearText d.year ++ "-" ++ padded 2 d.month ++ "-" ++ padded 2 d.day

/-- `HH:MM:SS` and the fraction; a leap second shows second 60. -/
def ClockTime.text (t : ClockTime) : String :=
  padded 2 t.hour ++ ":" ++ padded 2 t.minute ++ ":" ++
    padded 2 (t.second + t.nano / 1000000000) ++ fractionText t.nano

def LocalDateTime.text (l : LocalDateTime) : String := l.date.text ++ "T" ++ l.time.text

end SparqlExpr.Temporal
