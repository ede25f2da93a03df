import SparqlExpr.Temporal.Moment

/-!
Settings of an evaluator: a fixed current time, what a filter does with a query error, and the
separator of `group_concat` when the aggregate names none.
-/

namespace SparqlExpr

/-- What a filter does when its expression fails with a query error. -/
inductive ErrorPolicy where
  /-- The solution is dropped: the filter answers false. -/
  | exclude
  /-- The error is passed on. -/
  | propagate
  deriving DecidableEq, Repr

namespace ErrorPolicy

def name : ErrorPolicy → String
  | exclude => "exclude"
  | propagate => "propagate"

def ofName? : String → Option ErrorPolicy
  | "exclude" => some exclude
  | "propagate" => some propagate
  | _ => none

end ErrorPolicy

/-- The settings of an evaluator. -/
structure EvaluatorConfig where
  /-- The value of `now()`; without one the evaluator reads a clock. -/
  now : Option Temporal.DateTime := none
  filterErrors : ErrorPolicy := .exclude
  groupConcatSeparator : String := " "

namespace EvaluatorConfig

/-- Fixes the current time from a timestamp text (`Temporal.DateTime.parseTimestamp?`). -/
def withNowText? (c : EvaluatorConfig) (text : String) : Option EvaluatorConfig :=
  (Temporal.DateTime.parseTimestamp? text).map fun now => { c with now := some now }

end EvaluatorConfig

end SparqlExpr
