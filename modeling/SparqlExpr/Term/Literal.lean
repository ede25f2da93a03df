import SparqlExpr.Term.Numeric
import SparqlExpr.Temporal.Moment
import SparqlExpr.Temporal.Duration

/-!
Literals: a value, the lexical form it was read from (none for computed literals), a datatype
IRI and an optional language tag. The category comes from the datatype alone, so a literal whose
value and datatype disagree is dispatched by its datatype.

The lexical form of a literal is the text it was read from if any, else its canonical text.
Its effective boolean value is: for numeric categories, non-zero and not NaN; for booleans, the
value; for strings, a non-empty lexical form; no value for any other category.
-/

namespace SparqlExpr

/-- The value of a literal. -/
inductive LiteralValue where
  | numeric (n : Numeric)
  | boolean (b : Bool)
  | dateTime (d : Temporal.DateTime)
  | date (d : Temporal.Date)
  | time (t : Temporal.Time)
  | duration (d : Temporal.Duration)
  | string (s : String)
  | other (s : String)
  deriving Inhabited

/-- The canonical text of a value. -/
def LiteralValue.text : LiteralValue → String
  | .numeric n => n.text
  | .boolean b => if b then "true" else "false"
  | .dateTime d => d.text
  | .date d => d.text
  | .time t => t.text
  | .duration d => d.text
  | .string s => s
  | .other s => s

/-- A literal term with a value. -/
structure Literal where
  value : LiteralValue
  lexical : Option String
  datatype : String
  language : Option String
  deriving Inhabited

namespace Literal

/-- The category, from the datatype. -/
def category (l : Literal) : Category := Category.ofDatatype l.datatype

/-- The text the literal was read from, else the canonical text of its value. -/
def lexicalForm (l : Literal) : String :=
  match l.lexical, l.value with
  | some s, _ => s
  | none, .string s => s
  | none, .other s => s
  | none, v => v.text

def numeric? (l : Literal) : Option Numeric :=
  match l.value with
  | .numeric n => some n
  | _ => none

/-- A computed literal of a numeric value, typed by the value's own datatype. -/
def ofNumeric (n : Numeric) : Literal := ⟨.numeric n, none, n.datatype, none⟩

def integer (n : Int) : Literal := ofNumeric (.integer n)

def decimal (d : Decimal) : Literal := ofNumeric (.decimal d)

def double (x : Float) : Literal := ofNumeric (.double x)

def float (x : Float32) : Literal := ofNumeric (.float x)

def boolean (b : Bool) : Literal := ⟨.boolean b, none, Vocabulary.xsdBoolean, none⟩

/-- A computed simple string. -/
def string (s : String) : Literal := ⟨.string s, none, Vocabulary.xsdString, none⟩

/-- A computed language-tagged string. -/
def langString (s : String) (language : String) : Literal :=
  ⟨.string s, none, Vocabulary.langString, some language⟩

def dateTime (d : Temporal.DateTime) : Literal :=
  ⟨.dateTime d, none, Vocabulary.xsdDateTime, none⟩

/-- The effective boolean value. -/
def ebv (l : Literal) : Outcome Bool :=
  match l.category with
  | .integer | .decimal | .float | .double =>
    match l.numeric? with
    | some n => .ok n.isTruthy
    | none => .error (.notCoercible l.category)
  | .boolean =>
    match l.value with
    | .boolean b => .ok b
    | _ => .error (.notCoercible l.category)
  | .string | .langString => .ok (!l.lexicalForm.isEmpty)
  | c => .error (.notCoercible c)

end Literal

end SparqlExpr
