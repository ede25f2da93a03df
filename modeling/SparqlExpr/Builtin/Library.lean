import SparqlExpr.Builtin.Arithmetic
import SparqlExpr.Builtin.Comparison
import SparqlExpr.Builtin.Strings
import SparqlExpr.Builtin.TermFunctions
import SparqlExpr.Builtin.Cast
import SparqlExpr.Builtin.DateParts

/-!
The registry of built-in operators and functions.
-/

namespace SparqlExpr

namespace Builtin

/-- The special forms, registered under their own names. -/
def specialForms : List SpecialForm :=
  [.conjunction, .disjunction, .conditional, .coalesce, .bound, .membership false,
   .membership true, .now]

def registerSpecialForms (r : Registry) : Registry :=
  specialForms.foldl (fun r form => r.register (.special form)) r

end Builtin

/-- Every built-in operator and cast function. -/
def Registry.builtins : Registry :=
  let r := Builtin.registerArithmetic Registry.empty
  let r := Builtin.registerComparison r
  let r := Builtin.registerSpecialForms r
  let r := Builtin.registerStrings r
  let r := match Builtin.registerTermFunctions r with
    | .ok r' => r'
    | .error _ => r
  let r := Builtin.registerCasts r
  Builtin.registerDateParts r

end SparqlExpr
