import SparqlExpr.Category

/-!
Errors of expression construction and evaluation, and the arity of operators that their
messages mention. Each error is a cause with its data; `EvalError.message` gives its text and
`EvalError.kind` its kind. Errors of the kinds type mismatch, not coercible, unbound variable,
arithmetic and invalid argument are *query errors*: the ones that error-tolerant operators
(`||`, `&&`, `coalesce`, `in`) and filters may absorb.
-/

namespace SparqlExpr

/-- How many arguments an operator takes. -/
inductive Arity where
  | exactly (n : Nat)
  | atLeast (n : Nat)
  | between (lo hi : Nat)
  deriving DecidableEq, Repr, Inhabited

namespace Arity

def accepts : Arity → Nat → Bool
  | exactly k, n => n == k
  | atLeast k, n => k ≤ n
  | between lo hi, n => lo ≤ n && n ≤ hi

def text : Arity → String
  | exactly k => "exactly " ++ toString k
  | atLeast k => "at least " ++ toString k
  | between lo hi => "between " ++ toString lo ++ " and " ++ toString hi

end Arity

/-- Why an arithmetic operation has no result. -/
inductive ArithmeticFault where
  | divisionByZero
  | overflow
  | typeMismatch
  deriving DecidableEq, Repr

def ArithmeticFault.text : ArithmeticFault → String
  | .divisionByZero => "division by zero"
  | .overflow => "integer overflow"
  | .typeMismatch => "type mismatch: cannot perform arithmetic on these types"

/-- The kind of an error. -/
inductive ErrorKind where
  | arity
  | typeMismatch
  | notCoercible
  | unimplemented
  | unboundVariable
  | arithmetic
  | invalidArgument
  | invalidExpression
  | external
  | cancelled
  deriving DecidableEq, Repr

/-- The name of a kind, in upper camel case. -/
def ErrorKind.name : ErrorKind → String
  | .arity => "Arity"
  | .typeMismatch => "TypeMismatch"
  | .notCoercible => "NotCoercible"
  | .unimplemented => "Unimplemented"
  | .unboundVariable => "UnboundVariable"
  | .arithmetic => "Arithmetic"
  | .invalidArgument => "InvalidArgument"
  | .invalidExpression => "InvalidExpression"
  | .external => "External"
  | .cancelled => "Cancelled"

/-- An error of construction or evaluation. -/
inductive EvalError where
  /-- An operator received a number of arguments its arity does not accept. -/
  | arity (operator : String) (expected : Arity) (actual : Nat)
  /-- No computation of the operator accepts arguments of these categories. -/
  | typeMismatch (operator : String) (found : List Category)
  /-- A term of this category has no effective boolean value. -/
  | notCoercible (category : Category)
  /-- No operator, function or extension goes by this name. -/
  | unimplemented (name : String)
  | unboundVariable (name : String)
  | arithmetic (operator : String) (fault : ArithmeticFault)
  | invalidArgument (operator : String) (message : String)
  | invalidExpression (message : String)
  /-- A failure reported by a collaborator (an extension function or an existence test). -/
  | external (message : String)
  | cancelled
  deriving DecidableEq, Repr

namespace EvalError

def kind : EvalError → ErrorKind
  | arity .. => .arity
  | typeMismatch .. => .typeMismatch
  | notCoercible .. => .notCoercible
  | unimplemented .. => .unimplemented
  | unboundVariable .. => .unboundVariable
  | arithmetic .. => .arithmetic
  | invalidArgument .. => .invalidArgument
  | invalidExpression .. => .invalidExpression
  | external .. => .external
  | cancelled => .cancelled

/-- Whether an error is a query error, which error-tolerant operators may absorb. -/
def isQueryError (e : EvalError) : Bool :=
  match e.kind with
  | .typeMismatch | .notCoercible | .unboundVariable | .arithmetic | .invalidArgument => true
  | _ => false

def message : EvalError → String
  | arity op expected actual =>
    op ++ " expects " ++ expected.text ++ " argument(s), got " ++ toString actual
  | typeMismatch op found =>
    "type mismatch: " ++ op ++ " is not defined for " ++ Category.signatureText found
  | notCoercible c => "cannot compute the effective boolean value of a " ++ c.name ++ " term"
  | unimplemented name => "no implementation registered for " ++ name
  | unboundVariable name => "unbound variable ?" ++ name
  | arithmetic op fault => "arithmetic error in " ++ op ++ ": " ++ fault.text
  | invalidArgument op msg => "invalid argument to " ++ op ++ ": " ++ msg
  | invalidExpression msg => "invalid expression: " ++ msg
  | external msg => "external error: " ++ msg
  | cancelled => "evaluation cancelled"

end EvalError

/-- A result of construction or evaluation. -/
abbrev Outcome (α : Type) := Except EvalError α

/-- Checks that an operator accepts `actual` arguments. -/
def checkArity (operator : String) (arity : Arity) (actual : Nat) : Outcome Unit :=
  if arity.accepts actual then .ok () else .error (.arity operator arity actual)

end SparqlExpr
