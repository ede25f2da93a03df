import SparqlExpr.Term.Basic

/-!
Operators and how they dispatch.

* A *fixed* operator has one signature: the arguments must have exactly these categories.
* An *overloaded* operator has a table from category tuples to computations, with no nearest
  match: a tuple missing from the table is a type mismatch. Tables are built from a list of
  entries (`OverloadBuilder`), refusing a key of the wrong length or a key given twice.
* A *special form* receives its arguments unevaluated and decides itself what to evaluate
  (`&&`, `||`, `if`, `coalesce`, `bound`, `in`, `notin`, `now`); the evaluator gives its meaning.

Both fixed and overloaded operators check the number of arguments first. A computation receives,
besides its arguments, a number that no other application of the same evaluation receives; it is
where fresh blank-node labels come from.
-/

namespace SparqlExpr

/-- The body of a fixed or overloaded operator: from a fresh number and the evaluated arguments
to a term. -/
abbrev Computation := Nat → List Term → Outcome Term

/-- An operator with a single signature. -/
structure FixedOperator where
  name : String
  signature : List Category
  compute : Computation

namespace FixedOperator

def arity (op : FixedOperator) : Arity := .exactly op.signature.length

/-- Applies the computation when the argument categories are the signature. -/
def apply (op : FixedOperator) (fresh : Nat) (args : List Term) : Outcome Term := do
  checkArity op.name op.arity args.length
  let found := args.map Term.category
  if found == op.signature then op.compute fresh args
  else .error (.typeMismatch op.name found)

end FixedOperator

/-- An operator that dispatches on the categories of its arguments. -/
structure OverloadOperator where
  name : String
  arity : Nat
  table : List (List Category × Computation)

namespace OverloadOperator

def signatures (op : OverloadOperator) : List (List Category) := op.table.map Prod.fst

def size (op : OverloadOperator) : Nat := op.table.length

def supports (op : OverloadOperator) (key : List Category) : Bool :=
  op.table.any fun entry => entry.1 == key

/-- The computation registered for a tuple of categories. -/
def lookup (op : OverloadOperator) (key : List Category) : Option Computation :=
  (op.table.find? fun entry => entry.1 == key).map Prod.snd

/-- Applies the computation registered for the argument categories. -/
def apply (op : OverloadOperator) (fresh : Nat) (args : List Term) : Outcome Term := do
  checkArity op.name (.exactly op.arity) args.length
  let key := args.map Term.category
  match op.lookup key with
  | some compute => compute fresh args
  | none => .error (.typeMismatch op.name key)

end OverloadOperator

/-- Every tuple that picks one category from each position, the first position varying
slowest. -/
def categoryTuples : List (List Category) → List (List Category)
  | [] => [[]]
  | choices :: rest => choices.flatMap fun c => (categoryTuples rest).map (c :: ·)

/-- The entries of an overload table under construction, in the order given. -/
structure OverloadBuilder where
  name : String
  arity : Nat
  entries : List (List Category × Computation) := []

namespace OverloadBuilder

def new (name : String) (arity : Nat) : OverloadBuilder := ⟨name, arity, []⟩

/-- Adds one signature. -/
def on (b : OverloadBuilder) (signature : List Category) (compute : Computation) :
    OverloadBuilder :=
  { b with entries := b.entries ++ [(signature, compute)] }

/-- Adds every tuple with one category from each position. -/
def onEach (b : OverloadBuilder) (positions : List (List Category)) (compute : Computation) :
    OverloadBuilder :=
  { b with entries := b.entries ++ (categoryTuples positions).map (·, compute) }

/-- Adds entries one by one to a table, refusing a key of the wrong length or one already
present. -/
def insertAll (name : String) (arity : Nat) :
    List (List Category × Computation) → List (List Category × Computation) →
      Outcome (List (List Category × Computation))
  | table, [] => .ok table
  | table, (key, compute) :: rest => do
    checkArity name (.exactly arity) key.length
    if table.any (fun entry => entry.1 == key) then
      .error (.invalidExpression
        ("duplicate signature " ++ Category.signatureText key ++ " for " ++ name))
    else insertAll name arity (table ++ [(key, compute)]) rest

/-- The operator, or the first faulty entry. -/
def build (b : OverloadBuilder) : Outcome OverloadOperator := do
  let table ← insertAll b.name b.arity [] b.entries
  pure ⟨b.name, b.arity, table⟩

end OverloadBuilder

/-- The special forms. -/
inductive SpecialForm where
  /-- `&&`: false as soon as an argument is false. -/
  | conjunction
  /-- `||`: true as soon as an argument is true. -/
  | disjunction
  /-- `if`: evaluates the branch the condition selects. -/
  | conditional
  /-- `coalesce`: the first argument that has a value. -/
  | coalesce
  /-- `bound`: whether a variable has a value. -/
  | bound
  /-- `in` and `notin`: membership of the first argument among the others. -/
  | membership (negated : Bool)
  /-- `now`: the evaluation's current time. -/
  | now
  deriving DecidableEq, Repr

namespace SpecialForm

def name : SpecialForm → String
  | conjunction => "&&"
  | disjunction => "||"
  | conditional => "if"
  | coalesce => "coalesce"
  | bound => "bound"
  | membership false => "in"
  | membership true => "notin"
  | now => "now"

def arity : SpecialForm → Arity
  | conjunction | disjunction => .atLeast 2
  | conditional => .exactly 3
  | coalesce => .atLeast 0
  | bound => .exactly 1
  | membership _ => .atLeast 1
  | now => .exactly 0

end SpecialForm

/-- How an operator dispatches. -/
inductive OperatorClass where
  | fixed
  | overloaded
  | special
  deriving DecidableEq, Repr

def OperatorClass.name : OperatorClass → String
  | fixed => "Fixed"
  | overloaded => "Overloaded"
  | special => "Special"

/-- An operator of any class. -/
inductive Operator where
  | fixed (op : FixedOperator)
  | overloaded (op : OverloadOperator)
  | special (form : SpecialForm)

namespace Operator

def name : Operator → String
  | fixed op => op.name
  | overloaded op => op.name
  | special form => form.name

def arity : Operator → Arity
  | fixed op => op.arity
  | overloaded op => .exactly op.arity
  | special form => form.arity

def opClass : Operator → OperatorClass
  | fixed _ => .fixed
  | overloaded _ => .overloaded
  | special _ => .special

def checkArity (op : Operator) (n : Nat) : Outcome Unit := SparqlExpr.checkArity op.name op.arity n

/-- Applies a fixed or overloaded operator to evaluated arguments; a special form needs its
argument expressions and refuses. -/
def applyEvaluated (op : Operator) (fresh : Nat) (args : List Term) : Outcome Term :=
  match op with
  | fixed f => f.apply fresh args
  | overloaded o => o.apply fresh args
  | special form =>
    .error (.invalidExpression
      ("special operator " ++ form.name ++ " cannot be applied to evaluated arguments"))

end Operator

end SparqlExpr
