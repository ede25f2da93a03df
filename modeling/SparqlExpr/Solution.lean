import SparqlExpr.Term.Basic

/-!
Solutions: the values that a row of query results gives to variables. A variable has at most
one value; inserting a value for a bound variable replaces it.
-/

namespace SparqlExpr

/-- A solution mapping from variable names to terms. -/
structure Solution where
  bindings : List (String × Term) := []
  deriving Inhabited

namespace Solution

def empty : Solution := {}

/-- The value of a variable. -/
def lookup? (row : Solution) (name : String) : Option Term :=
  (row.bindings.find? fun b => b.1 == name).map Prod.snd

/-- Binds a variable, replacing any value it had. -/
def insert (row : Solution) (name : String) (t : Term) : Solution :=
  ⟨(name, t) :: row.bindings.filter fun b => b.1 != name⟩

/-- The solution that binds each name of the list in turn; a later value of a name replaces an
earlier one. -/
def ofList (entries : List (String × Term)) : Solution :=
  entries.foldl (fun row (name, t) => row.insert name t) empty

def isBound (row : Solution) (name : String) : Bool := (row.lookup? name).isSome

end Solution

end SparqlExpr
