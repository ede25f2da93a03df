import SparqlExpr.Operator.Registry

/-!
Expression trees. An expression is a term, a variable, a call of an operator or of a function
named by an IRI on argument expressions, an existence test of a graph pattern, or an aggregate
over a group of solutions.

The constructors that check are `Expression.operator` (the name must resolve and the operator
must accept the number of arguments), `Expression.namedCall` (a function registered for the IRI
must accept the arguments; an IRI without one is left to extension functions at evaluation
time) and `Expression.aggregateOf` (a separator only on `group_concat`, and no aggregate inside
another).

`Expression.display` writes the tree in prefix form, `(name arg ...)`, with the resolved
operator's own name; `Expression.variableNames` lists the variables in the order they first
occur, reading the tree from the root and its arguments left to right.
-/

namespace SparqlExpr

/-- The set functions of grouped queries. -/
inductive Aggregator where
  | count
  | sum
  | min
  | max
  | avg
  | sample
  | groupConcat
  deriving DecidableEq, Repr

namespace Aggregator

def name : Aggregator → String
  | count => "count"
  | sum => "sum"
  | min => "min"
  | max => "max"
  | avg => "avg"
  | sample => "sample"
  | groupConcat => "group_concat"

/-- Reads an aggregator name without regard to ASCII case; `groupconcat` is accepted too. -/
def parse? (s : String) : Option Aggregator :=
  match s.toLower with
  | "count" => some count
  | "sum" => some sum
  | "min" => some min
  | "max" => some max
  | "avg" => some avg
  | "sample" => some sample
  | "group_concat" | "groupconcat" => some groupConcat
  | _ => none

end Aggregator

/-- What an aggregate does with its group: the set function, whether duplicates are removed
first, and the separator of `group_concat`. -/
structure Aggregation where
  aggregator : Aggregator
  distinct : Bool := false
  separator : Option String := none

/-- The text of an aggregation before its argument: `count distinct (separator ", ")`. -/
def Aggregation.text (a : Aggregation) : String :=
  a.aggregator.name ++ (if a.distinct then " distinct" else "") ++
    match a.separator with
    | some sep => " (separator " ++ Quoted.quote sep ++ ")"
    | none => ""

/-- What an application calls. -/
inductive Callee where
  /-- An operator found by name. -/
  | operator (op : Operator)
  /-- The function named by an IRI, with the function registered for it when the call was
  built, if any; without one, the evaluator looks for an extension function. -/
  | function (iri : String) (registered : Option Operator)

/-- The name a callee is written with: the operator's own name, or the IRI in angle brackets. -/
def Callee.text : Callee → String
  | operator op => op.name
  | function iri _ => "<" ++ iri ++ ">"

/-- An expression of the query language. -/
inductive Expression where
  | term (t : Term)
  | var (name : String)
  /-- An operator or a function applied to argument expressions. -/
  | call (callee : Callee) (args : List Expression)
  /-- `EXISTS` (or `NOT EXISTS` when `negated`) of a graph pattern; the pattern is opaque here
  and only the caller's existence test reads it. -/
  | existence (negated : Bool) (pattern : String)
  | aggregate (head : Aggregation) (body : Expression)
  deriving Inhabited

/-- The kinds of expression. -/
inductive ExpressionKind where
  | aggregate
  | existence
  | namedCall
  | operator
  | term
  | var
  deriving DecidableEq, Repr

def ExpressionKind.name : ExpressionKind → String
  | aggregate => "Aggregate"
  | existence => "Existence"
  | namedCall => "NamedCall"
  | operator => "Operator"
  | term => "Term"
  | var => "Variable"

namespace Expression

def kind : Expression → ExpressionKind
  | term _ => .term
  | var _ => .var
  | call (.operator _) _ => .operator
  | call (.function ..) _ => .namedCall
  | existence .. => .existence
  | aggregate .. => .aggregate

mutual

/-- Whether an aggregate occurs anywhere in the tree. -/
def containsAggregate : Expression → Bool
  | aggregate .. => true
  | call _ args => anyContainsAggregate args
  | _ => false

def anyContainsAggregate : List Expression → Bool
  | [] => false
  | e :: es => e.containsAggregate || anyContainsAggregate es

end

mutual

/-- Every occurrence of a variable, from the root down and left to right. -/
def varOccurrences : Expression → List String
  | var name => [name]
  | call _ args => argsVarOccurrences args
  | aggregate _ body => body.varOccurrences
  | _ => []

def argsVarOccurrences : List Expression → List String
  | [] => []
  | e :: es => e.varOccurrences ++ argsVarOccurrences es

end

/-- The variables of an expression, each once, in the order of first occurrence. -/
def variableNames (e : Expression) : List String := e.varOccurrences.eraseDups

mutual

/-- The prefix form of an expression. -/
def display : Expression → String
  | term t => t.display
  | var name => "?" ++ name
  | call callee args => "(" ++ callee.text ++ displayArgs args ++ ")"
  | existence negated _ => if negated then "(notexists ..)" else "(exists ..)"
  | aggregate head body => "(" ++ head.text ++ " " ++ body.display ++ ")"

/-- Each argument preceded by a space. -/
def displayArgs : List Expression → String
  | [] => ""
  | e :: es => " " ++ e.display ++ displayArgs es

end

/-- Applies an operator, checking that it accepts the number of arguments. -/
def applyChecked (op : Operator) (args : List Expression) : Outcome Expression := do
  op.checkArity args.length
  pure (call (.operator op) args)

/-- The operator that the registry resolves `name` to, applied to `args`. -/
def operator (r : Registry) (name : String) (args : List Expression) : Outcome Expression := do
  applyChecked (← r.resolve name) args

/-- A call of the function named by `iri`; a registered function must accept the arguments. -/
def namedCall (r : Registry) (iri : String) (args : List Expression) :
    Outcome Expression := do
  let registered := r.function? iri
  if let some op := registered then op.checkArity args.length
  pure (call (.function iri registered) args)

/-- An aggregate, refusing a separator on anything but `group_concat` and an aggregate inside
another. -/
def aggregateOf (head : Aggregation) (body : Expression) : Outcome Expression := do
  if head.separator.isSome && head.aggregator != .groupConcat then
    throw (.invalidExpression
      ("separator is only allowed on group_concat, not " ++ head.aggregator.name))
  if body.containsAggregate then throw (.invalidExpression "aggregates cannot be nested")
  pure (aggregate head body)

end Expression

end SparqlExpr
