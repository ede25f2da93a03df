import SparqlExpr.Expression
import SparqlExpr.Solution
import SparqlExpr.Config
import SparqlExpr.Builtin.Comparison

/-!
Evaluation of expressions under a solution.

An evaluation runs in `EvalM`: it may fail with an `EvalError`, and it carries a cancellation
flag and a counter of fresh numbers (each application of an operator receives the next one,
which is where new blank-node labels come from). Every node of the tree checks the flag before
and after it is evaluated, so an evaluation that is cancelled before it starts, or by a step
that finishes, ends with `cancelled`.

Operators that are not special forms receive their arguments evaluated left to right, the first
error ending the evaluation. The special forms evaluate their own arguments:

* `&&` and `||` stop at the first argument whose effective boolean value decides the result
  (false for `&&`, true for `||`) and at the first error that is not a query error; a query
  error is kept (the first one) and reported when nothing decided the result.
* `if` evaluates the condition, then one branch.
* `coalesce` gives the first argument that has a value; when none has, the last query error.
* `bound` looks at its variable without evaluating it.
* `in` and `notin` compare the first argument with the others in turn by `=`, keeping the first
  query error or incomparable pair as for `||`.
* `now` gives the evaluator's fixed current time.

A call of a function IRI with no registered function goes to the extension function of that
IRI, if the caller provided one; an existence test goes to the caller's test. Either may ask
that the evaluation be cancelled, as one holding the evaluator's cancellation flag can: the flag
is set, and the node's closing check then fails with `cancelled`.
-/

namespace SparqlExpr

/-- What a collaborator of the evaluation (an extension function, the existence test) gives
back: its result, and whether it asks that the evaluation be cancelled. -/
structure Reply (α : Type) where
  result : Outcome α
  cancel : Bool := false

/-- A function that a caller provides under an IRI. -/
abbrev Extension := List Term → Reply Term

/-- Whether a graph pattern has a match compatible with a solution. -/
abbrev ExistenceTest := String → Solution → Reply Bool

/-- What changes while an evaluation runs. -/
structure EvalState where
  cancelled : Bool := false
  /-- The next fresh number. -/
  fresh : Nat := 0
  deriving Repr

/-- Evaluation steps: they may fail, and they read and change an `EvalState`. -/
abbrev EvalM := ExceptT EvalError (StateM EvalState)

namespace EvalM

/-- The outcome of a step as a value; the state changes the step made are kept. -/
def attempt {α : Type} (step : EvalM α) : EvalM (Outcome α) := ExceptT.lift step.run

def ofOutcome {α : Type} : Outcome α → EvalM α
  | .ok a => pure a
  | .error e => throw e

/-- Fails with `cancelled` once the evaluation is cancelled. -/
def checkCancelled : EvalM Unit := do
  if (← get).cancelled then throw .cancelled

/-- A step between two cancellation checks. -/
def guarded (step : EvalM Term) : EvalM Term := do
  checkCancelled
  let t ← step
  checkCancelled
  pure t

def cancel : EvalM Unit := modify fun s => { s with cancelled := true }

/-- The result of a collaborator's reply, the evaluation cancelled first when the reply asks
for it. -/
def ofReply {α : Type} (reply : Reply α) : EvalM α := do
  if reply.cancel then cancel
  ofOutcome reply.result

/-- The next fresh number. -/
def fresh : EvalM Nat := modifyGet fun s => (s.fresh, { s with fresh := s.fresh + 1 })

/-- Runs a step from a state with the given cancellation flag and no fresh number used. -/
def runFrom {α : Type} (step : EvalM α) (cancelled : Bool) : Outcome α :=
  (step.run.run { cancelled }).1

end EvalM

/-- What evaluation needs besides the expression and the solution. -/
structure Evaluator where
  config : EvaluatorConfig := {}
  /-- The value of `now()`. -/
  now : Temporal.DateTime
  extensions : List (String × Extension) := []
  existence : Option ExistenceTest := none

namespace Evaluator

/-- An evaluator with the given settings; `clock` is the current time unless the settings fix
one. -/
def create (config : EvaluatorConfig) (clock : Temporal.DateTime) : Evaluator :=
  { config, now := config.now.getD clock }

/-- Provides the extension function of an IRI, replacing any earlier one. -/
def withExtension (ev : Evaluator) (iri : String) (f : Extension) : Evaluator :=
  { ev with extensions := assocInsert ev.extensions iri f }

def withExistenceTest (ev : Evaluator) (test : ExistenceTest) : Evaluator :=
  { ev with existence := some test }

def extension? (ev : Evaluator) (iri : String) : Option Extension := assocFind? ev.extensions iri

open EvalM

/-- The value of `now()` as a term. -/
def nowTerm (ev : Evaluator) : Term := .literal (Literal.dateTime ev.now)

mutual

/-- The value of an expression under a solution. -/
def eval (ev : Evaluator) (row : Solution) : Expression → EvalM Term
  | .term t => guarded (pure t)
  | .var name => guarded do
    match row.lookup? name with
    | some t => pure t
    | none => throw (.unboundVariable name)
  | .call (.function iri none) args => guarded do
    match ev.extension? iri with
    | some f =>
      let values ← ev.evalArgs row args
      ofReply (f values)
    | none => throw (.unimplemented iri)
  | .call (.operator op) args | .call (.function _ (some op)) args => guarded do
    match op with
    | .special form =>
      match form, args with
      | .conjunction, args => do
        ofOutcome (checkArity form.name form.arity args.length)
        ev.connective row false none args
      | .disjunction, args => do
        ofOutcome (checkArity form.name form.arity args.length)
        ev.connective row true none args
      | .conditional, [c, t, f] => do
        let condition ← ofOutcome (← ev.eval row c).ebv
        if condition then ev.eval row t else ev.eval row f
      | .coalesce, args => ev.coalesce row none args
      | .bound, [.var name] => pure (Term.boolean (row.isBound name))
      | .bound, [other] =>
        throw (.invalidExpression ("bound expects a variable, got " ++ other.display))
      | .membership negated, needle :: candidates => do
        let value ← ev.eval row needle
        ev.membership row form.name negated value none candidates
      | .now, [] => pure ev.nowTerm
      | _, args => throw (.arity form.name form.arity args.length)
    | _ =>
      let values ← ev.evalArgs row args
      ofOutcome (op.applyEvaluated (← fresh) values)
  | .existence negated pattern => guarded do
    match ev.existence with
    | some test =>
      let found ← ofReply (test pattern row)
      pure (Term.boolean (found != negated))
    | none => throw (.unimplemented "exists")
  | .aggregate head _ => guarded do
    throw (.invalidExpression (head.aggregator.name ++ " aggregate outside of a group"))

/-- The values of argument expressions, left to right. -/
def evalArgs (ev : Evaluator) (row : Solution) : List Expression → EvalM (List Term)
  | [] => pure []
  | a :: rest => do
    let t ← ev.eval row a
    let ts ← ev.evalArgs row rest
    pure (t :: ts)

/-- `&&` (deciding value false) or `||` (deciding value true) over the remaining arguments,
with the first query error met so far. -/
def connective (ev : Evaluator) (row : Solution) (decisive : Bool)
    (deferred : Option EvalError) : List Expression → EvalM Term
  | [] =>
    match deferred with
    | some e => throw e
    | none => pure (Term.boolean !decisive)
  | a :: rest => do
    match (← attempt (ev.eval row a)) >>= Term.ebv with
    | .ok b =>
      if b == decisive then pure (Term.boolean b)
      else ev.connective row decisive deferred rest
    | .error e =>
      if e.isQueryError then ev.connective row decisive (some (deferred.getD e)) rest
      else throw e

/-- `coalesce` over the remaining arguments, with the last query error met so far. -/
def coalesce (ev : Evaluator) (row : Solution) (last : Option EvalError) :
    List Expression → EvalM Term
  | [] => throw (last.getD (.invalidArgument "coalesce" "no argument produced a value"))
  | a :: rest => do
    match ← attempt (ev.eval row a) with
    | .ok t => pure t
    | .error e => if e.isQueryError then ev.coalesce row (some e) rest else throw e

/-- `in` (or `notin` when `negated`) of `needle` among the remaining candidates, with the first
query error or incomparable pair met so far. -/
def membership (ev : Evaluator) (row : Solution) (name : String) (negated : Bool)
    (needle : Term) (deferred : Option EvalError) : List Expression → EvalM Term
  | [] =>
    match deferred with
    | some e => throw e
    | none => pure (Term.boolean negated)
  | c :: rest => do
    match ← attempt (ev.eval row c) with
    | .ok t =>
      match Term.equalTerms needle t with
      | some true => pure (Term.boolean !negated)
      | some false => ev.membership row name negated needle deferred rest
      | none =>
        let mismatch := EvalError.typeMismatch name [needle.category, t.category]
        ev.membership row name negated needle (some (deferred.getD mismatch)) rest
    | .error e =>
      if e.isQueryError then ev.membership row name negated needle (some (deferred.getD e)) rest
      else throw e

end

/-- The value of an expression. -/
def evaluate (ev : Evaluator) (row : Solution) (e : Expression) : EvalM Term := ev.eval row e

/-- The effective boolean value of an expression. -/
def evaluateEbv (ev : Evaluator) (row : Solution) (e : Expression) : EvalM Bool := do
  ofOutcome (← ev.eval row e).ebv

/-- Whether a solution passes a filter: the effective boolean value, where a query error counts
as false when the settings exclude such solutions. -/
def filter (ev : Evaluator) (row : Solution) (e : Expression) : EvalM Bool := do
  match ← attempt (ev.evaluateEbv row e) with
  | .ok b => pure b
  | .error err =>
    if err.isQueryError && ev.config.filterErrors == .exclude then pure false else throw err

end Evaluator

end SparqlExpr
