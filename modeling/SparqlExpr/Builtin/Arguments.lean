import SparqlExpr.Operator.Registry

/-!
Reading the arguments of built-in computations. A computation is only called with as many
arguments as its signature has, and with the categories its table lists; an argument that still
lacks what the computation needs (a numeric value, a lexical form) is a type mismatch naming the
operator and the argument's category.
-/

namespace SparqlExpr.Builtin

/-- The numeric value of an argument. -/
def numericArg (op : String) (t : Term) : Outcome Numeric :=
  match t.numeric? with
  | some n => .ok n
  | none => .error (.typeMismatch op [t.category])

/-- The lexical form of a literal or the IRI of a named node. -/
def lexicalArg (op : String) (t : Term) : Outcome String :=
  match t.strValue? with
  | some s => .ok s
  | none => .error (.typeMismatch op [t.category])

/-- The language tag of a literal, if any. -/
def languageOf : Term → Option String
  | .literal l => l.language
  | _ => none

/-- A computation of one argument. -/
def unary (name : String) (f : Term → Outcome Term) : Computation := fun _ args =>
  match args with
  | [a] => f a
  | _ => .error (.arity name (.exactly 1) args.length)

/-- A computation of two arguments. -/
def binary (name : String) (f : Term → Term → Outcome Term) : Computation := fun _ args =>
  match args with
  | [a, b] => f a b
  | _ => .error (.arity name (.exactly 2) args.length)

/-- An overloaded operator of one argument whose categories are any of `sources`. -/
def unaryOver (name : String) (sources : List Category) (f : Term → Outcome Term) :
    OverloadBuilder :=
  (OverloadBuilder.new name 1).onEach [sources] (unary name f)

end SparqlExpr.Builtin
