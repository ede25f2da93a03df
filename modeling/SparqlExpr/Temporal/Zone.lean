import SparqlExpr.Temporal.Calendar

/-!
Time-zone offsets of temporal literals. A lexical form may end in `Z` (offset zero) or in
`±hh:mm`, where the last six bytes are a sign, two characters, a colon and two characters; the
hour and minute parts are read as signed integers (so `+-1:00` is one hour west) and must not
exceed 14 hours and 59 minutes. An offset is written back as `Z` when zero and as `±HH:MM`
otherwise.
-/

namespace SparqlExpr.Temporal

/-- A fixed offset from UTC, in seconds east of Greenwich. -/
structure ZoneOffset where
  seconds : Int
  deriving DecidableEq, Repr, Inhabited

namespace ZoneOffset

def utc : ZoneOffset := ⟨0⟩

/-- `Z` for offset zero, otherwise the sign and hours and minutes of the magnitude. -/
def text (o : ZoneOffset) : String :=
  if o.seconds == 0 then "Z"
  else
    let magnitude := o.seconds.natAbs
    (if o.seconds < 0 then "-" else "+") ++ padded 2 (magnitude / 3600) ++ ":" ++
      padded 2 (magnitude % 3600 / 60)

/-- Reads a 32-bit signed integer: an optional sign and at least one ASCII digit. -/
def readWord? (cs : List Char) : Option Int :=
  let (negative, digits) :=
    match cs with
    | '-' :: rest => (true, rest)
    | '+' :: rest => (false, rest)
    | _ => (false, cs)
  if digits.isEmpty || !digits.all Char.isDigit then none
  else
    let n : Int := digits.foldl (fun n c => n * 10 + (c.toNat - '0'.toNat)) 0
    let v := if negative then -n else n
    if -Int.pow 2 31 ≤ v && v < Int.pow 2 31 then some v else none

/-- The offset of the suffix `±hh:mm` given as characters after the sign. -/
def ofParts? (negative : Bool) (parts : List Char) : Option ZoneOffset := do
  let i ← parts.findIdx? (· == ':')
  let hours ← readWord? (parts.take i)
  let minutes ← readWord? (parts.drop (i + 1))
  if hours > 14 || minutes > 59 then none
  let total := (hours * 3600 + minutes * 60) * (if negative then -1 else 1)
  if total.natAbs < 86400 then some ⟨total⟩ else none

end ZoneOffset

/-- The outcome of splitting a zone suffix off a lexical form. -/
inductive ZoneSplit where
  /-- No zone suffix: the whole text is local. -/
  | unzoned (text : String)
  /-- A zone suffix, and the text before it. -/
  | zoned (text : String) (offset : ZoneOffset)
  /-- A suffix shaped like a zone that is not one. -/
  | invalid
  deriving Repr

/-- Splits a trailing `Z` or `±hh:mm` off a lexical form. -/
def splitZone (s : String) : ZoneSplit :=
  let cs := s.toList
  if cs.getLast? == some 'Z' then .zoned (String.ofList cs.dropLast) ZoneOffset.utc
  else
    let bytes := s.toUTF8.toList
    let n := bytes.length
    let signByte := bytes[n - 6]?
    let colonByte := bytes[n - 3]?
    let isSign := signByte == some 43 || signByte == some 45
    if 6 ≤ n && isSign && colonByte == some 58 then
      if (bytes.drop (n - 6)).all (· < 128) then
        -- the last six bytes are the last six characters
        match ZoneOffset.ofParts? (signByte == some 45) (cs.drop (cs.length - 5)) with
        | some offset => .zoned (String.ofList (cs.take (cs.length - 6))) offset
        | none => .invalid
      else .invalid
    else .unzoned s

end SparqlExpr.Temporal
