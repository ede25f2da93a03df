import SparqlExpr.Builtin.Arguments

/-!
Components of temporal values, read in the value's own zone: `year`, `month` and `day` of a
dateTime or date, `hours`, `minutes` and `seconds` of a dateTime or time. Seconds are a decimal
with the fraction, 60 and more during a leap second.
-/

namespace SparqlExpr.Builtin

/-- A component of a temporal value. -/
inductive DatePart where
  | year
  | month
  | day
  | hours
  | minutes
  | seconds
  deriving DecidableEq, Repr

namespace DatePart

def all : List DatePart := [year, month, day, hours, minutes, seconds]

def name : DatePart → String
  | year => "year"
  | month => "month"
  | day => "day"
  | hours => "hours"
  | minutes => "minutes"
  | seconds => "seconds"

def sources : DatePart → List Category
  | year | month | day => [.dateTime, .date]
  | hours | minutes | seconds => [.dateTime, .time]

/-- Seconds and nanoseconds as a decimal in normal form. -/
def secondsValue (second nano : Nat) : Term :=
  .literal (Literal.decimal (Decimal.normalize ⟨(second * 1000000000 + nano : Nat), 9⟩))

def ofDate (part : DatePart) (d : Temporal.CivilDate) : Option Term :=
  match part with
  | year => some (Term.integer d.year)
  | month => some (Term.integer d.month)
  | day => some (Term.integer d.day)
  | _ => none

def ofClock (part : DatePart) (t : Temporal.ClockTime) : Option Term :=
  match part with
  | hours => some (Term.integer t.hour)
  | minutes => some (Term.integer t.minute)
  | seconds => some (secondsValue t.second t.nano)
  | _ => none

/-- The component of an argument. -/
def extract (part : DatePart) (t : Term) : Outcome Term :=
  let found : Option Term :=
    match t with
    | .literal ⟨.dateTime d, _, _, _⟩ =>
      (part.ofDate d.wallClock.date).orElse fun _ => part.ofClock d.wallClock.time
    | .literal ⟨.date d, _, _, _⟩ => part.ofDate d.date
    | .literal ⟨.time c, _, _, _⟩ => part.ofClock c.time
    | _ => none
  match found with
  | some v => .ok v
  | none => .error (.typeMismatch part.name [t.category])

end DatePart

def registerDateParts (r : Registry) : Registry :=
  DatePart.all.foldl (fun r part => r.registerOverload
    (unaryOver part.name part.sources part.extract)) r

end SparqlExpr.Builtin
