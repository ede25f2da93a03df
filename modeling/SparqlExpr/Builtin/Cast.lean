import SparqlExpr.Builtin.Arguments
import SparqlExpr.Term.Lexical

/-!
The XSD constructor functions, registered by datatype IRI. Casting a string reads its lexical
form, trimmed of Unicode white space, under the target datatype; a form outside the lexical
space is an invalid argument quoting the untrimmed text. Numbers convert exactly where the target
can hold them: to integer by truncation toward zero (a non-finite float cannot), to decimal by
the exact binary value (a non-finite float cannot), to float and double by rounding to nearest;
booleans convert to 1 and 0 and back by their effective boolean value.
-/

namespace SparqlExpr.Builtin

/-- Reads the trimmed lexical form of an argument under a datatype. -/
def parseAs (t : Term) (datatype : String) : Outcome Term := do
  let lexical ← lexicalArg datatype t
  match Term.typed (Unicode.trim lexical) datatype with
  | .literal l => pure (.literal ⟨l.value, none, datatype, none⟩)
  | _ => throw (.invalidArgument datatype ("cannot cast " ++ Quoted.quote lexical))

def cannotCast (datatype : String) (n : Numeric) : EvalError :=
  .invalidArgument datatype ("cannot cast " ++ n.text)

/-- The value of a boolean literal. -/
def booleanOf (cast : String) (t : Term) : Outcome Bool :=
  match t with
  | .literal ⟨.boolean b, _, _, _⟩ => pure b
  | _ => throw (.typeMismatch cast [t.category])

/-- Categories that cast to a string. -/
def toStringSources : List Category :=
  [.integer, .decimal, .float, .double, .boolean, .string, .dateTime, .date, .time, .duration,
   .namedNode]

/-- Categories that cast to a number or a boolean. -/
def scalarSources : List Category := [.integer, .decimal, .float, .double, .boolean, .string]

def castToString (t : Term) : Outcome Term := do
  pure (Term.string (← lexicalArg Vocabulary.xsdString t))

def castToBoolean (t : Term) : Outcome Term := do
  match t.category with
  | .string => parseAs t Vocabulary.xsdBoolean
  | .boolean => pure (Term.boolean (← booleanOf Vocabulary.xsdBoolean t))
  | _ => pure (Term.boolean (← numericArg Vocabulary.xsdBoolean t).isTruthy)

/-- The integer part of a finite double; none for infinities and NaN. -/
def truncateDouble? (x : Float) : Option Int :=
  (Numeric.decimalOfDouble? x).map fun d => d.truncate.mantissa

def castToInteger (t : Term) : Outcome Term := do
  let cast := Vocabulary.xsdInteger
  match t.category with
  | .string => parseAs t cast
  | .boolean => pure (Term.integer (if ← booleanOf cast t then 1 else 0))
  | _ =>
    let n ← numericArg cast t
    let i ← match n with
      | .integer i => pure i
      | .decimal d => pure d.truncate.mantissa
      | _ =>
        match truncateDouble? n.toDouble with
        | some i => pure i
        | none => throw (cannotCast cast n)
    pure (Term.integer i)

def castToDecimal (t : Term) : Outcome Term := do
  let cast := Vocabulary.xsdDecimal
  match t.category with
  | .string => parseAs t cast
  | .boolean =>
    pure (.literal (Literal.decimal (Decimal.ofInt (if ← booleanOf cast t then 1 else 0))))
  | _ =>
    let n ← numericArg cast t
    match n.toDecimal? with
    | some d => pure (.literal (Literal.decimal d))
    | none => throw (cannotCast cast n)

/-- The value of a boolean or numeric argument as a double. -/
def doubleOf (cast : String) (t : Term) : Outcome Float := do
  if t.category == .boolean then
    pure (if ← booleanOf cast t then 1 else 0)
  else pure (← numericArg cast t).toDouble

def castToFloat (t : Term) : Outcome Term := do
  if t.category == .string then parseAs t Vocabulary.xsdFloat
  else pure (.literal (Literal.float (Numeric.narrow (← doubleOf Vocabulary.xsdFloat t))))

def castToDouble (t : Term) : Outcome Term := do
  if t.category == .string then parseAs t Vocabulary.xsdDouble
  else pure (.literal (Literal.double (← doubleOf Vocabulary.xsdDouble t)))

def castToDateTime (t : Term) : Outcome Term :=
  match t with
  | .literal ⟨.dateTime d, _, _, _⟩ => pure (.literal (Literal.dateTime d))
  | _ => parseAs t Vocabulary.xsdDateTime

/-- A cast function: an overloaded operator named by the target datatype IRI. -/
def cast (datatype : String) (sources : List Category) (f : Term → Outcome Term) : Operator :=
  match (unaryOver datatype sources f).build with
  | .ok op => .overloaded op
  | .error _ => .overloaded ⟨datatype, 1, []⟩

def registerCasts (r : Registry) : Registry :=
  r.registerFunction Vocabulary.xsdString (cast Vocabulary.xsdString toStringSources castToString)
    |>.registerFunction Vocabulary.xsdBoolean
      (cast Vocabulary.xsdBoolean scalarSources castToBoolean)
    |>.registerFunction Vocabulary.xsdInteger
      (cast Vocabulary.xsdInteger scalarSources castToInteger)
    |>.registerFunction Vocabulary.xsdDecimal
      (cast Vocabulary.xsdDecimal scalarSources castToDecimal)
    |>.registerFunction Vocabulary.xsdFloat (cast Vocabulary.xsdFloat scalarSources castToFloat)
    |>.registerFunction Vocabulary.xsdDouble
      (cast Vocabulary.xsdDouble scalarSources castToDouble)
    |>.registerFunction Vocabulary.xsdDateTime
      (cast Vocabulary.xsdDateTime [.dateTime, .string] castToDateTime)

end SparqlExpr.Builtin
