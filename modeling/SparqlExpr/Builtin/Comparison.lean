import SparqlExpr.Builtin.Arguments

/-!
Comparison of terms.

* `valueCompare`: the order of two literal values of comparable kinds: numerics after promotion
  (none with NaN), booleans, dateTimes, dates, times, and strings whose language tags are both
  absent or equal ignoring ASCII case.
* `equalTerms`: `=` on any two terms. Comparable values are equal when their order says so;
  two numerics or two strings that are not comparable are unequal; durations are equal when
  months and seconds are; otherwise two terms with the same wire form are equal, two other
  literals have no answer (a type mismatch), and anything else is unequal.
* `termOrder`: the total order used by MIN and MAX: blank nodes, then IRIs, then literals, then
  variables; within a rank by value when comparable, else by category and then by display text.

`<`, `<=`, `>`, `>=` are defined for numerics, strings, language strings, booleans, dateTimes,
dates and times; `=` and `!=` also for durations, unknown datatypes, ill-typed literals and
nodes against anything.
-/

namespace SparqlExpr

/-- ASCII case-insensitive equality of two texts. -/
def asciiEqualIgnoringCase (a b : String) : Bool := a.toLower == b.toLower

namespace Term

/-- The order of two comparable literal values. -/
def valueCompare (l r : Term) : Option Ordering :=
  match l, r with
  | .literal a, .literal b =>
    match a.value, b.value with
    | .numeric x, .numeric y => x.compare? y
    | .boolean x, .boolean y => some (compare x y)
    | .dateTime x, .dateTime y => some (x.compare y)
    | .date x, .date y => some (x.compare y)
    | .time x, .time y => some (x.compare y)
    | .string x, .string y =>
      match a.language, b.language with
      | none, none => some (compare x y)
      | some p, some q => if asciiEqualIgnoringCase p q then some (compare x y) else none
      | _, _ => none
    | _, _ => none
  | _, _ => none

/-- Equality of two terms; none when two literals cannot be compared. -/
def equalTerms (l r : Term) : Option Bool :=
  match valueCompare l r with
  | some ord => some (ord == .eq)
  | none =>
    let byKind : Option Bool :=
      match l, r with
      | .literal a, .literal b =>
        match a.value, b.value with
        | .numeric _, .numeric _ => some false
        | .string _, .string _ => some false
        | .duration x, .duration y => some (x.sameValue y)
        | _, _ => none
      | _, _ => none
    match byKind with
    | some b => some b
    | none =>
      if l.wire == r.wire then some true
      else if l.isLiteral && r.isLiteral then none
      else some false

/-- Blank nodes, IRIs, literals, variables. -/
def kindRank : Term → Nat
  | blankNode _ => 0
  | namedNode _ => 1
  | literal _ | illTyped .. => 2
  | var _ => 3

/-- The total order used to pick minima and maxima. -/
def termOrder (l r : Term) : Ordering :=
  (compare l.kindRank r.kindRank).then
    (match valueCompare l r with
      | some ord => ord
      | none => (compare l.category.rank r.category.rank).then (compare l.display r.display))

end Term

/-- The six comparison relations. -/
inductive Relation where
  | eq
  | ne
  | lt
  | le
  | gt
  | ge
  deriving DecidableEq, Repr

namespace Relation

def all : List Relation := [eq, ne, lt, le, gt, ge]

def symbol : Relation → String
  | eq => "="
  | ne => "!="
  | lt => "<"
  | le => "<="
  | gt => ">"
  | ge => ">="

def holds : Relation → Ordering → Bool
  | eq, o => o == .eq
  | ne, o => o != .eq
  | lt, o => o == .lt
  | le, o => o != .gt
  | gt, o => o == .gt
  | ge, o => o != .lt

def isEquality (r : Relation) : Bool := r == eq || r == ne

/-- The relation on two terms: equality relations through `equalTerms`, order relations through
`valueCompare`, where two numerics that are not comparable (NaN) are simply unrelated. -/
def test (rel : Relation) (l r : Term) : Outcome Bool :=
  let mismatch : Outcome Bool := .error (.typeMismatch rel.symbol [l.category, r.category])
  if rel.isEquality then
    match Term.equalTerms l r with
    | some e => .ok (e == (rel == eq))
    | none => mismatch
  else
    match Term.valueCompare l r with
    | some ord => .ok (rel.holds ord)
    | none => if l.category.isNumeric && r.category.isNumeric then .ok false else mismatch

end Relation

namespace Builtin

/-- Categories of IRIs and blank nodes. -/
def nodeCategories : List Category := [.namedNode, .blankNode]

/-- The table of a comparison operator. -/
def comparison (rel : Relation) : OverloadBuilder :=
  let f : Computation := binary rel.symbol fun l r => do
    pure (Term.boolean (← rel.test l r))
  let b := (OverloadBuilder.new rel.symbol 2).onEach [Category.numeric, Category.numeric] f
  let b := [Category.string, .langString, .boolean, .dateTime, .date, .time].foldl
    (fun b c => b.on [c, c] f) b
  if rel.isEquality then
    let b := [Category.duration, .other, .untyped].foldl (fun b c => b.on [c, c] f) b
    b.onEach [nodeCategories, nodeCategories] f
      |>.onEach [nodeCategories, Category.literals] f
      |>.onEach [Category.literals, nodeCategories] f
  else b

def registerComparison (r : Registry) : Registry :=
  Relation.all.foldl (fun r rel => r.registerOverload (comparison rel)) r

end Builtin

end SparqlExpr
