import SparqlExpr.Operator.Basic

/-!
The operator registry: operators by name, matched without regard to ASCII case, and functions by
exact IRI. Registering replaces an entry of the same key. An alias stores the operator its
target names at the time, so re-registering the target later leaves the alias unchanged.
-/

namespace SparqlExpr

/-- Operators by lower-cased name and functions by IRI, each in order of first registration. -/
structure Registry where
  operators : List (String × Operator) := []
  functions : List (String × Operator) := []

/-- Replaces the value of a key, or adds the key at the end. -/
def assocInsert {α : Type} (entries : List (String × α)) (key : String) (value : α) :
    List (String × α) :=
  if entries.any (fun e => e.1 == key) then
    entries.map fun e => if e.1 == key then (key, value) else e
  else entries ++ [(key, value)]

/-- The value of a key. -/
def assocFind? {α : Type} (entries : List (String × α)) (key : String) : Option α :=
  (entries.find? fun e => e.1 == key).map Prod.snd

namespace Registry

def empty : Registry := {}

/-- The operator registered under a name, ignoring ASCII case. -/
def get? (r : Registry) (name : String) : Option Operator := assocFind? r.operators name.toLower

/-- The operator registered under a name, or an error naming it as given. -/
def resolve (r : Registry) (name : String) : Outcome Operator :=
  match r.get? name with
  | some op => .ok op
  | none => .error (.unimplemented name)

/-- Registers an operator under its own name. -/
def register (r : Registry) (op : Operator) : Registry :=
  { r with operators := assocInsert r.operators op.name.toLower op }

/-- Registers the operator that `target` names under the name `other` as well. -/
def addAlias (r : Registry) (other target : String) : Outcome Registry := do
  let op ← r.resolve target
  pure { r with operators := assocInsert r.operators other.toLower op }

/-- Registers the table an overload builder describes; a builder with a faulty entry registers
nothing. -/
def registerOverload (r : Registry) (b : OverloadBuilder) : Registry :=
  match b.build with
  | .ok op => r.register (.overloaded op)
  | .error _ => r

/-- Registers an operator as the function of an IRI. -/
def registerFunction (r : Registry) (iri : String) (op : Operator) : Registry :=
  { r with functions := assocInsert r.functions iri op }

/-- The function of an IRI, matched exactly. -/
def function? (r : Registry) (iri : String) : Option Operator := assocFind? r.functions iri

def operatorNames (r : Registry) : List String := r.operators.map Prod.fst

def functionNames (r : Registry) : List String := r.functions.map Prod.fst

end Registry

end SparqlExpr
