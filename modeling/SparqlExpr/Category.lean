import SparqlExpr.Vocabulary

/-!
Dispatch categories. A category is the coarse type of a term and the only key that operator
dispatch looks at: literals whose datatypes share a category are interchangeable for overload
resolution. Literal categories come from the datatype IRI (`Category.ofDatatype`, total:
unknown datatypes are `other`); IRIs, blank nodes and variables carry their own category.
-/

namespace SparqlExpr

/-- The dispatch category of a term, listed in the order that sorting by category uses. -/
inductive Category where
  | integer
  | decimal
  | float
  | double
  | boolean
  | string
  | langString
  | date
  | time
  | dateTime
  | duration
  | other
  | untyped
  | namedNode
  | blankNode
  | var
  deriving DecidableEq, Repr, Inhabited

namespace Category

/-- Every category, in order. -/
def all : List Category :=
  [integer, decimal, float, double, boolean, string, langString, date, time, dateTime,
   duration, other, untyped, namedNode, blankNode, var]

/-- The position of a category in the order of `all`. -/
def rank : Category → Nat
  | integer => 0
  | decimal => 1
  | float => 2
  | double => 3
  | boolean => 4
  | string => 5
  | langString => 6
  | date => 7
  | time => 8
  | dateTime => 9
  | duration => 10
  | other => 11
  | untyped => 12
  | namedNode => 13
  | blankNode => 14
  | var => 15

/-- The stable lower-camel name used in messages. -/
def name : Category → String
  | integer => "integer"
  | decimal => "decimal"
  | float => "float"
  | double => "double"
  | boolean => "boolean"
  | string => "string"
  | langString => "langString"
  | date => "date"
  | time => "time"
  | dateTime => "dateTime"
  | duration => "duration"
  | other => "other"
  | untyped => "untyped"
  | namedNode => "namedNode"
  | blankNode => "blankNode"
  | var => "variable"

/-- The category with the given name, if any. -/
def ofName? (s : String) : Option Category :=
  all.find? fun c => c.name == s

/-- Numeric categories, in promotion order. -/
def numeric : List Category := [integer, decimal, float, double]

/-- Simple and language-tagged strings. -/
def strings : List Category := [string, langString]

/-- Every literal category, `other` and `untyped` included. -/
def literals : List Category :=
  [integer, decimal, float, double, boolean, string, langString, date, time, dateTime,
   duration, other, untyped]

/-- Every category an evaluated argument can have: all but `var`. -/
def terms : List Category := literals ++ [namedNode, blankNode]

def isNumeric (c : Category) : Bool := numeric.contains c

def isLiteral (c : Category) : Bool := literals.contains c

/-- The category of a literal with the given datatype IRI. -/
def ofDatatype (datatype : String) : Category :=
  if datatype == Vocabulary.xsdDecimal then decimal
  else if datatype == Vocabulary.xsdFloat then float
  else if datatype == Vocabulary.xsdDouble then double
  else if datatype == Vocabulary.xsdBoolean then boolean
  else if datatype == Vocabulary.langString then langString
  else if datatype == Vocabulary.xsdDateTime || datatype == Vocabulary.xsdDateTimeStamp then
    dateTime
  else if datatype == Vocabulary.xsdDate then date
  else if datatype == Vocabulary.xsdTime then time
  else if Vocabulary.isIntegerType datatype then integer
  else if Vocabulary.isStringType datatype then string
  else if Vocabulary.isDurationType datatype then duration
  else other

/-- A tuple of categories written as `(a, b, ...)`. -/
def signatureText (cs : List Category) : String :=
  "(" ++ ", ".intercalate (cs.map name) ++ ")"

end Category

end SparqlExpr
