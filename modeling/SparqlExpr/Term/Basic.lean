import SparqlExpr.Term.Literal
import SparqlExpr.Text.Quoted

/-!
Terms: literals with a value, ill-typed literals (a lexical form that is not in the lexical
space of its datatype, kept as text with category `untyped`), IRIs, blank nodes and variables.

The wire form of a term (`WireTerm`) keeps only what is exchanged: the kind, the lexical form or
name, the language and the datatype. Two terms are the same term when their wire forms are
equal, so a literal read as `01` and a computed `1` differ. A term is displayed from its wire
form: quoted lexical form with `@language` or `^^<datatype>`, `<iri>`, `_:label`, `?name`.
-/

namespace SparqlExpr

/-- A term of the expression language. -/
inductive Term where
  | literal (l : Literal)
  /-- A lexical form outside the lexical space of its datatype. -/
  | illTyped (lexical : String) (datatype : String)
  | namedNode (iri : String)
  | blankNode (label : String)
  | var (name : String)
  deriving Inhabited

/-- The exchanged form of a term. -/
inductive WireTerm where
  | literal (value : String) (language : Option String) (datatype : String)
  | namedNode (value : String)
  | blankNode (value : String)
  | var (value : String)
  deriving DecidableEq, Repr, Inhabited

namespace WireTerm

/-- The display text. -/
def display : WireTerm → String
  | literal value (some lang) _ => Quoted.quote value ++ "@" ++ lang
  | literal value none datatype => Quoted.quote value ++ "^^<" ++ datatype ++ ">"
  | namedNode iri => "<" ++ iri ++ ">"
  | blankNode label => "_:" ++ label
  | var name => "?" ++ name

end WireTerm

namespace Term

def integer (n : Int) : Term := .literal (Literal.integer n)

def boolean (b : Bool) : Term := .literal (Literal.boolean b)

def string (s : String) : Term := .literal (Literal.string s)

def category : Term → Category
  | literal l => l.category
  | illTyped .. => .untyped
  | namedNode _ => .namedNode
  | blankNode _ => .blankNode
  | var _ => .var

/-- Literals with or without a value. -/
def isLiteral : Term → Bool
  | literal _ | illTyped .. => true
  | _ => false

/-- The text of a term: lexical form of a literal, IRI of a named node; none for blank nodes
and variables. -/
def strValue? : Term → Option String
  | literal l => some l.lexicalForm
  | illTyped lexical _ => some lexical
  | namedNode iri => some iri
  | _ => none

def numeric? : Term → Option Numeric
  | literal l => l.numeric?
  | _ => none

/-- The effective boolean value; only literals with a value can have one. -/
def ebv : Term → Outcome Bool
  | literal l => l.ebv
  | t => .error (.notCoercible t.category)

def wire : Term → WireTerm
  | literal l => .literal l.lexicalForm l.language l.datatype
  | illTyped lexical datatype => .literal lexical none datatype
  | namedNode iri => .namedNode iri
  | blankNode label => .blankNode label
  | var name => .var name

def display (t : Term) : String := t.wire.display

/-- Same term: equal wire forms. -/
def sameTerm (a b : Term) : Bool := a.wire == b.wire

end Term

end SparqlExpr
