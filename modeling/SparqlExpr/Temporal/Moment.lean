import SparqlExpr.Temporal.Zone
import SparqlExpr.Temporal.Pattern

/-!
The three temporal value types of XSD, each remembering the zone offset it was written with:

* `DateTime`: an instant; one written without a zone is taken as UTC. Ordered by instant and
  written in its own offset (`2024-01-15T10:30:00+05:00`), the fraction with 3, 6 or 9 digits.
* `Date`: a calendar date, ordered by its midnight in UTC.
* `Time`: a time of day, ordered by the time of day in UTC, wrapping around midnight.
-/

namespace SparqlExpr.Temporal

/-- The seconds east of UTC of an optional offset; none counts as UTC. -/
def offsetSeconds (o : Option ZoneOffset) : Int := (o.map ZoneOffset.seconds).getD 0

/-- The text of an optional offset; none writes nothing. -/
def offsetText (o : Option ZoneOffset) : String := (o.map ZoneOffset.text).getD ""

/-- Whether the UTC date of an instant is in the supported range. -/
def Instant.inRange (i : Instant) : Bool :=
  let y := (i.toLocal 0).date.year
  minYear ≤ y && y ≤ maxYear

/-- An xsd:dateTime value. -/
structure DateTime where
  instant : Instant
  offset : Option ZoneOffset
  deriving Repr, Inhabited

namespace DateTime

/-- The value of a local date and time read with an optional zone. -/
def ofLocal? (l : LocalDateTime) (offset : Option ZoneOffset) : Option DateTime :=
  let instant := l.toInstant (offsetSeconds offset)
  if instant.inRange then some ⟨instant, offset⟩ else none

/-- Reads `year-month-dayThour:minute:second[.fraction]` with an optional zone. -/
def parse? (s : String) : Option DateTime :=
  let read (text : String) (offset : Option ZoneOffset) : Option DateTime := do
    if !text.contains 'T' then none
    let fields ← readPattern dateTimePattern text
    ofLocal? ⟨← fields.date?, ← fields.time?⟩ offset
  match splitZone s with
  | .invalid => none
  | .unzoned text => read text none
  | .zoned text offset => read text (some offset)

/-- The date and time a clock in the value's own offset shows. -/
def wallClock (d : DateTime) : LocalDateTime := d.instant.toLocal (offsetSeconds d.offset)

/-- The canonical text: local date and time, then the offset when there is one. -/
def text (d : DateTime) : String := d.wallClock.text ++ offsetText d.offset

/-- Chronological order. -/
def compare (a b : DateTime) : Ordering := a.instant.compare b.instant

end DateTime

/-- An xsd:date value. -/
structure Date where
  date : CivilDate
  offset : Option ZoneOffset
  deriving Repr, Inhabited

namespace Date

/-- Reads `year-month-day` with an optional zone. -/
def parse? (s : String) : Option Date :=
  let read (text : String) (offset : Option ZoneOffset) : Option Date := do
    let fields ← readPattern datePattern text
    some ⟨← fields.date?, offset⟩
  match splitZone s with
  | .invalid => none
  | .unzoned text => read text none
  | .zoned text offset => read text (some offset)

def text (d : Date) : String := d.date.text ++ offsetText d.offset

/-- Midnight of the date in UTC, in seconds; the local midnight when that falls outside the
supported range. -/
def utcMidnight (d : Date) : Int :=
  let midnight := d.date.toDays * 86400
  let shifted := midnight - offsetSeconds d.offset
  if (Instant.mk shifted 0).inRange then shifted else midnight

/-- Order of the midnights in UTC. -/
def compare (a b : Date) : Ordering := Ord.compare a.utcMidnight b.utcMidnight

end Date

/-- An xsd:time value. -/
structure Time where
  time : ClockTime
  offset : Option ZoneOffset
  deriving Repr, Inhabited

namespace Time

/-- Reads `hour:minute:second[.fraction]` with an optional zone. -/
def parse? (s : String) : Option Time :=
  let read (text : String) (offset : Option ZoneOffset) : Option Time := do
    let fields ← readPattern timePattern text
    some ⟨← fields.time?, offset⟩
  match splitZone s with
  | .invalid => none
  | .unzoned text => read text none
  | .zoned text offset => read text (some offset)

def text (t : Time) : String := t.time.text ++ offsetText t.offset

/-- The time of day in UTC, wrapping around midnight; the local time when the shifted time
cannot carry the leap second. -/
def utcTime (t : Time) : ClockTime :=
  match t.offset with
  | none => t.time
  | some o =>
    let secs := ((t.time.secondOfDay : Int) - o.seconds) % 86400
    if t.time.nano < 2000000000 && (t.time.nano < 1000000000 || secs % 60 == 59) then
      ClockTime.ofSecondOfDay secs.toNat t.time.nano
    else t.time

/-- Order of the times of day in UTC. -/
def compare (a b : Time) : Ordering := a.utcTime.compare b.utcTime

end Time

/-- The date of a timestamp: white space may stand before each number and each hyphen. -/
def timestampDatePattern : List PatternItem :=
  [.year, .space, .literal '-', .month, .space, .literal '-', .day]

/-- The time of a timestamp: white space may stand before each number and each colon, and
after the fraction. -/
def timestampTimePattern : List PatternItem :=
  [.hour, .space, .literal ':', .minute, .space, .literal ':', .second, .fraction, .space]

/-- Two ASCII digits at the front, their value and the rest. -/
def takeTwoDigits (cs : List Char) : Option (Nat × List Char) :=
  match cs with
  | a :: b :: rest => if a.isDigit && b.isDigit then some (digitsValue [a, b], rest) else none
  | _ => none

/-- The zone of a timestamp: `UTC` in any case, `Z` or `z`, or a sign (`+`, `-` or the minus
sign U+2212), two digits of hours, any run of colons and white space, and two digits of minutes
below 60. Gives the offset in seconds and the rest. -/
def readTimestampZone (cs : List Char) : Option (Int × List Char) :=
  if (cs.take 3).map Char.toLower == ['u', 't', 'c'] then some (0, cs.drop 3)
  else
    match cs with
    | 'Z' :: rest | 'z' :: rest => some (0, rest)
    | sign :: rest => do
      if !(sign == '+' || sign == '-' || sign == '\u2212') then none
      let (hours, rest) ← takeTwoDigits rest
      let rest := rest.dropWhile fun c => c == ':' || Unicode.isWhiteSpace c
      let (minutes, rest) ← takeTwoDigits rest
      if 60 ≤ minutes then none
      let total : Int := hours * 3600 + minutes * 60
      some (if sign == '+' then total else -total, rest)
    | [] => none

/-- Reads a timestamp: a date, `T`, `t` or a space, a time with optional fraction, then a zone
(`readTimestampZone`) and nothing but white space. White space may also stand before each
number, hyphen and colon. The offset must be less than a day and the instant in range. -/
def DateTime.parseTimestamp? (s : String) : Option DateTime := do
  let (fields, rest) ← readPrefix {} timestampDatePattern s.toList
  let rest ← match rest with
    | c :: rest => if c == 'T' || c == 't' || c == ' ' then some rest else none
    | [] => none
  let (fields, rest) ← readPrefix fields timestampTimePattern rest
  let (offset, rest) ← readTimestampZone (rest.dropWhile Unicode.isWhiteSpace)
  if !(rest.all Unicode.isWhiteSpace) then none
  if 86400 ≤ offset.natAbs then none
  DateTime.ofLocal? ⟨← fields.date?, ← fields.time?⟩ (some ⟨offset⟩)

end SparqlExpr.Temporal
