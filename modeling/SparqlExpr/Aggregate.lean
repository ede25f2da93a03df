import SparqlExpr.Evaluation
import SparqlExpr.Builtin.Arithmetic

/-!
Aggregates over a group of solutions.

The argument of the aggregate is evaluated on each solution in order; a solution whose
evaluation fails with a query error contributes nothing, and any other error ends the
aggregate. With `distinct`, only the first value of each wire form is kept. Then:

* `count` is the number of values;
* `sum` adds the numeric values from integer zero, and `avg` divides the sum by the count
  (integer zero for no values);
* `min` is the first of the least values and `max` the last of the greatest, by term order;
* `sample` is the first value;
* `group_concat` joins the lexical forms with the separator of the aggregate, or else the one
  of the settings.

`min`, `max` and `sample` of no values have no result.
-/

namespace SparqlExpr

/-- The first of the least elements: an element replaces the running minimum only when it is
strictly smaller. -/
def leastBy {α : Type} (cmp : α → α → Ordering) : List α → Option α
  | [] => none
  | a :: rest => some (rest.foldl (fun m x => if cmp m x == .gt then x else m) a)

/-- The last of the greatest elements: an element replaces the running maximum unless it is
strictly smaller. -/
def greatestBy {α : Type} (cmp : α → α → Ordering) : List α → Option α
  | [] => none
  | a :: rest => some (rest.foldl (fun m x => if cmp m x == .gt then m else x) a)

/-- The values with only the first of each wire form kept. -/
def distinctTerms (values : List Term) : List Term := values.eraseDupsBy fun a b => a.wire == b.wire

/-- The sum of numeric values, from integer zero. -/
def sumValues (values : List Term) : Outcome Numeric :=
  let addValue (acc : Numeric) (t : Term) : Outcome Numeric := do
    let n ← Builtin.numericArg "sum" t
    match ArithmeticOp.add.apply acc n with
    | .ok r => pure r
    | .error fault => throw (.arithmetic "sum" fault)
  values.foldlM addValue (Numeric.integer 0)

namespace Aggregator

/-- The result of an aggregator on the values of a group. -/
def fold (agg : Aggregator) (separator : String) (values : List Term) : Outcome (Option Term) :=
  match agg with
  | count => pure (some (Term.integer values.length))
  | sum => do pure (some (.literal (Literal.ofNumeric (← sumValues values))))
  | avg =>
    if values.isEmpty then pure (some (Term.integer 0))
    else do
      let total ← sumValues values
      match ArithmeticOp.div.apply total (.integer values.length) with
      | .ok r => pure (some (.literal (Literal.ofNumeric r)))
      | .error fault => throw (.arithmetic "avg" fault)
  | min => pure (leastBy Term.termOrder values)
  | max => pure (greatestBy Term.termOrder values)
  | sample => pure values.head?
  | groupConcat => do
    let parts ← values.mapM (Builtin.lexicalArg "group_concat")
    pure (some (Term.string (String.intercalate separator parts)))

end Aggregator

namespace Evaluator

open EvalM

/-- The values of an expression on the solutions of a group, in order, without the solutions
that fail with a query error. -/
def groupValues (ev : Evaluator) (body : Expression) : List Solution → EvalM (List Term)
  | [] => pure []
  | row :: rows => do
    match ← attempt (ev.eval row body) with
    | .ok t => pure (t :: (← ev.groupValues body rows))
    | .error e => if e.isQueryError then ev.groupValues body rows else throw e

/-- The aggregate `head` of `body` over a group of solutions. -/
def aggregate (ev : Evaluator) (head : Aggregation) (body : Expression) (rows : List Solution) :
    EvalM (Option Term) := do
  let values ← ev.groupValues body rows
  let values := if head.distinct then distinctTerms values else values
  ofOutcome (head.aggregator.fold (head.separator.getD ev.config.groupConcatSeparator) values)

end Evaluator

end SparqlExpr
