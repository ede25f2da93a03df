import SparqlExpr.Temporal.Calendar
import SparqlExpr.Text.CharClass

/-!
Reading dates and times by pattern. A pattern is a list of items; numeric items first skip
white space, a year is a sign followed by any number of digits or else one to four digits, the
other numbers have one or two digits, the fraction is optional (a point, one to nine digits
kept, further digits skipped), a space item skips white space, and literal characters must
match exactly. `readPattern` requires all input to be used; `readPrefix` gives back what is
left. The fields read are then checked: the date must exist in the supported range, hours are
0 to 23, minutes 0 to 59, and seconds 0 to 60, where 60 is a leap second.
-/

namespace SparqlExpr.Temporal

/-- One element of a date or time pattern. -/
inductive PatternItem where
  | year
  | month
  | day
  | hour
  | minute
  | second
  | fraction
  /-- Any run of white space, possibly empty. -/
  | space
  | literal (c : Char)
  deriving DecidableEq, Repr

/-- The fields read by a pattern. -/
structure ReadFields where
  year : Option Int := none
  month : Option Nat := none
  day : Option Nat := none
  hour : Option Nat := none
  minute : Option Nat := none
  second : Option Nat := none
  nano : Option Nat := none
  deriving Repr, Inhabited

def digitsValue (cs : List Char) : Nat :=
  cs.foldl (fun n c => n * 10 + (c.toNat - '0'.toNat)) 0

/-- At least one and at most `width` leading ASCII digits (any number when `width` is none),
their value and the rest. -/
def takeNumber (width : Option Nat) (cs : List Char) : Option (Nat × List Char) :=
  let run := cs.takeWhile Char.isDigit
  let run := match width with
    | some w => run.take w
    | none => run
  if run.isEmpty then none else some (digitsValue run, cs.drop run.length)

/-- A year: a sign and any number of digits, or one to four digits. -/
def takeYear (cs : List Char) : Option (Int × List Char) :=
  match cs with
  | '-' :: rest => (takeNumber none rest).map fun (n, r) => (-(n : Int), r)
  | '+' :: rest => (takeNumber none rest).map fun (n, r) => ((n : Int), r)
  | _ => (takeNumber (some 4) cs).map fun (n, r) => ((n : Int), r)

/-- An optional fraction of a second in nanoseconds: a point, one to nine digits kept and
further digits skipped. -/
def takeFraction (cs : List Char) : Option (Option Nat × List Char) :=
  match cs with
  | '.' :: rest =>
    (takeNumber (some 9) rest).map fun (n, r) =>
      let kept := (rest.length - r.length)
      (some (n * Nat.pow 10 (9 - kept)), r.dropWhile Char.isDigit)
  | _ => some (none, cs)

/-- Reads a prefix of `cs` by the pattern, filling `fields`; gives the fields and the rest. -/
def readPrefix (fields : ReadFields) :
    List PatternItem → List Char → Option (ReadFields × List Char)
  | [], cs => some (fields, cs)
  | item :: items, cs =>
    let numeric := cs.dropWhile Unicode.isWhiteSpace
    let twoDigits := takeNumber (some 2) numeric
    match item with
    | .literal c =>
      match cs with
      | d :: rest => if c == d then readPrefix fields items rest else none
      | [] => none
    | .space => readPrefix fields items numeric
    | .year => takeYear numeric >>= fun (y, r) => readPrefix { fields with year := some y } items r
    | .month => twoDigits >>= fun (n, r) => readPrefix { fields with month := some n } items r
    | .day => twoDigits >>= fun (n, r) => readPrefix { fields with day := some n } items r
    | .hour => twoDigits >>= fun (n, r) => readPrefix { fields with hour := some n } items r
    | .minute => twoDigits >>= fun (n, r) => readPrefix { fields with minute := some n } items r
    | .second => twoDigits >>= fun (n, r) => readPrefix { fields with second := some n } items r
    | .fraction =>
      takeFraction cs >>= fun (n, r) =>
        readPrefix (match n with | some v => { fields with nano := some v } | none => fields)
          items r

namespace ReadFields

/-- The date of the fields, if all three are present and it exists in the supported range. -/
def date? (f : ReadFields) : Option CivilDate := do
  let d : CivilDate := ⟨← f.year, ← f.month, ← f.day⟩
  if d.isValid then some d else none

/-- The time of the fields; second 60 becomes second 59 with an extra `10^9` nanoseconds. -/
def time? (f : ReadFields) : Option ClockTime := do
  let hour ← f.hour
  let minute ← f.minute
  let second ← f.second
  let nano := f.nano.getD 0
  if 23 < hour || 59 < minute || 60 < second then none
  if second == 60 then some ⟨hour, minute, 59, 1000000000 + nano⟩
  else some ⟨hour, minute, second, nano⟩

end ReadFields

/-- `year-month-dayThour:minute:second` with an optional fraction. -/
def dateTimePattern : List PatternItem :=
  [.year, .literal '-', .month, .literal '-', .day, .literal 'T', .hour, .literal ':', .minute,
   .literal ':', .second, .fraction]

/-- `year-month-day`. -/
def datePattern : List PatternItem := [.year, .literal '-', .month, .literal '-', .day]

/-- `hour:minute:second` with an optional fraction. -/
def timePattern : List PatternItem :=
  [.hour, .literal ':', .minute, .literal ':', .second, .fraction]

/-- Reads text by a pattern, using all of it. -/
def readPattern (pattern : List PatternItem) (s : String) : Option ReadFields :=
  match readPrefix {} pattern s.toList with
  | some (fields, []) => some fields
  | _ => none

end SparqlExpr.Temporal
