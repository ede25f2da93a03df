import SparqlExpr.Number.Binary

/-!
Durations: a signed number of months and a signed number of seconds held as a binary64 float.

The lexical form is an optional `-`, then `P`, then optional `nY`, `nM`, `nD` in that order,
then optionally `T` followed by a non-empty part with optional `nH`, `nM` and `n[.n]S`. Years
and months are counted in 64-bit signed months, with overflow refused; days, hours and minutes
are unsigned 64-bit counts added as seconds in floating point. A `-` negates both parts.

The canonical text is `PT0S` for a zero duration, otherwise a `-` when either part is negative,
`P`, years and months from the month count, then days, hours, minutes and seconds from the whole
seconds (saturated to an unsigned 64-bit count), the seconds field carrying the fraction.
-/

namespace SparqlExpr.Temporal

/-- An xsd:duration value. -/
structure Duration where
  months : Int
  seconds : Float
  deriving Inhabited

namespace Duration

/-- The largest count of a 64-bit signed word. -/
def wordMax : Int := Int.pow 2 63 - 1

/-- The largest count of a 64-bit unsigned word. -/
def unsignedMax : Nat := Nat.pow 2 64 - 1

/-- A non-empty run of ASCII digits, as a number. -/
def digitsValue? (cs : List Char) : Option Nat :=
  if cs.isEmpty || !cs.all Char.isDigit then none
  else some (cs.foldl (fun n c => n * 10 + (c.toNat - '0'.toNat)) 0)

/-- A count of seconds as the nearest binary64 float. -/
def floatOfNat (n : Nat) : Float :=
  Float.ofBits (UInt64.ofNat (BinaryFormat.binary64.ofInt n))

/-- Splits at the first occurrence of a designator: the digits before it and the rest. -/
def splitAt? (unit : Char) (cs : List Char) : Option (List Char × List Char) :=
  (cs.findIdx? (· == unit)).map fun i => (cs.take i, cs.drop (i + 1))

/-- Reads the date part `[nY][nM][nD]`: months and seconds so far, or none. -/
def readDatePart (cs : List Char) : Option (Int × Float × List Char) := do
  let mut months : Int := 0
  let mut rest := cs
  for (unit, factor) in [('Y', (12 : Int)), ('M', 1)] do
    match splitAt? unit rest with
    | some (num, tail) =>
      let n ← digitsValue? num
      if wordMax < n then none
      let m := months + n * factor
      if wordMax < n * factor || wordMax < m then none
      months := m
      rest := tail
    | none => pure ()
  let mut seconds : Float := 0
  match splitAt? 'D' rest with
  | some (num, tail) =>
    let n ← digitsValue? num
    if unsignedMax < n then none
    seconds := seconds + floatOfNat n * 86400
    rest := tail
  | none => pure ()
  pure (months, seconds, rest)

/-- Reads the time part `[nH][nM][n[.n]S]`, adding to `seconds`. -/
def readTimePart (seconds : Float) (cs : List Char) : Option Float := do
  let mut seconds := seconds
  let mut rest := cs
  for (unit, factor) in [('H', (3600 : Float)), ('M', 60)] do
    match splitAt? unit rest with
    | some (num, tail) =>
      let n ← digitsValue? num
      if unsignedMax < n then none
      seconds := seconds + floatOfNat n * factor
      rest := tail
    | none => pure ()
  if rest.getLast? == some 'S' then
    let num := rest.dropLast
    let (whole, fraction) := match num.findIdx? (· == '.') with
      | some i => (num.take i, num.drop (i + 1))
      | none => (num, ['0'])
    let _ ← digitsValue? whole
    let _ ← digitsValue? fraction
    let bits ← BinaryFormat.binary64.readText? (String.ofList num)
    seconds := seconds + Float.ofBits (UInt64.ofNat bits)
    rest := []
  if rest.isEmpty then some seconds else none

/-- Reads the lexical form of a duration. -/
def parse? (s : String) : Option Duration := do
  let cs := s.toList
  let (negative, body) := match cs with
    | '-' :: rest => (true, rest)
    | _ => (false, cs)
  let body ← match body with
    | 'P' :: rest => some rest
    | _ => none
  let (datePart, timePart) ← match splitAt? 'T' body with
    | some (d, t) => if t.isEmpty then none else some (d, some t)
    | none => some (body, none)
  if datePart.isEmpty && timePart.isNone then none
  let (months, seconds, rest) ← readDatePart datePart
  if !rest.isEmpty then none
  let seconds ← match timePart with
    | some t => readTimePart seconds t
    | none => some seconds
  if negative then some ⟨-months, -seconds⟩ else some ⟨months, seconds⟩

/-- The general display text of a binary64 float. -/
def floatText (x : Float) : String :=
  BinaryFormat.binary64.displayText x.toBits.toNat

/-- The canonical text. -/
def text (d : Duration) : String :=
  if d.months == 0 && d.seconds == 0 then "PT0S"
  else
    let sign := if d.months < 0 || d.seconds < 0 then "-" else ""
    let months := d.months.natAbs
    let years := if months / 12 > 0 then toString (months / 12) ++ "Y" else ""
    let monthPart := if months % 12 > 0 then toString (months % 12) ++ "M" else ""
    let total := d.seconds.abs
    let whole := total.toUInt64
    let fraction := total - whole.toFloat
    let w := whole.toNat
    let days := w / 86400
    let hours := w % 86400 / 3600
    let minutes := w % 3600 / 60
    let secs := (UInt64.ofNat (w % 60)).toFloat + fraction
    let dayPart := if days > 0 then toString days ++ "D" else ""
    let timePart :=
      if hours > 0 || minutes > 0 || secs > 0 then
        "T" ++ (if hours > 0 then toString hours ++ "H" else "") ++
          (if minutes > 0 then toString minutes ++ "M" else "") ++
          (if secs > 0 then floatText secs ++ "S" else "")
      else ""
    sign ++ "P" ++ years ++ monthPart ++ dayPart ++ timePart

/-- Equal month counts and equal second counts, the seconds compared as IEEE doubles (NaN
equal to nothing, the two zeros equal). -/
def sameValue (a b : Duration) : Bool :=
  a.months == b.months &&
    BinaryFormat.binary64.compareBits? a.seconds.toBits.toNat b.seconds.toBits.toNat == some .eq

end Duration

end SparqlExpr.Temporal
