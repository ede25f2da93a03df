import SparqlExpr.Term.Basic

/-!
Lexical spaces of the XSD datatypes, and reading a literal from its lexical form.

* integer family: an optional sign and ASCII digits, within the bounds of the datatype;
* decimal: an optional sign, then digits with an optional point (digits on at least one side),
  no exponent;
* float and double: `INF`, `+INF`, `-INF`, `NaN`, or a decimal mantissa with an optional
  exponent, rounded to the nearest double (and then to the nearest float for xsd:float);
* boolean: `true`, `false`, `1`, `0`;
* dateTime, date, time and durations by their own readers;
* strings and unknown datatypes: any text.

Reading never fails: a lexical form outside the lexical space gives an ill-typed literal, and a
language tag makes a language-tagged string whatever the datatype.
-/

namespace SparqlExpr

namespace Lexical

/-- Drops one leading `+` or `-`. -/
def dropSign (cs : List Char) : List Char :=
  match cs with
  | '+' :: rest | '-' :: rest => rest
  | _ => cs

def allDigits (cs : List Char) : Bool := !cs.isEmpty && cs.all Char.isDigit

def digitsValue (cs : List Char) : Nat :=
  cs.foldl (fun n c => n * 10 + (c.toNat - '0'.toNat)) 0

/-- An integer of the given datatype: an optional sign and digits, within its bounds. -/
def readInteger? (s : String) (datatype : String) : Option Int :=
  let cs := s.toList
  if !allDigits (dropSign cs) then none
  else
    let magnitude : Int := digitsValue (dropSign cs)
    let n := if cs.head? == some '-' then -magnitude else magnitude
    match Vocabulary.integerBounds datatype with
    | some (lo, hi) => if lo ≤ n && n ≤ hi then some n else none
    | none => some n

/-- Whether text has the shape of an unsigned decimal: digits with an optional point and digits
on at least one side of it. -/
def isDecimalShape (cs : List Char) : Bool :=
  match cs.findIdx? (· == '.') with
  | some i =>
    let whole := cs.take i
    let fraction := cs.drop (i + 1)
    (whole.isEmpty || allDigits whole) && (fraction.isEmpty || allDigits fraction) &&
      !(whole.isEmpty && fraction.isEmpty)
  | none => allDigits cs

/-- A decimal: the digits as written, a missing whole or fraction part read as zero (so `1.`
has mantissa 10 and scale 1). -/
def readDecimal? (s : String) : Option Decimal :=
  let cs := s.toList
  let unsigned := dropSign cs
  if !isDecimalShape unsigned then none
  else
    let text := (if cs.head? == some '-' then "-" else "") ++
      (if unsigned.head? == some '.' then "0" else "") ++ String.ofList unsigned ++
      (if unsigned.getLast? == some '.' then "0" else "")
    Decimal.ofText? text

/-- A double: the special words, or a decimal mantissa with an optional signed exponent. -/
def readDouble? (s : String) : Option Float :=
  if s == "INF" || s == "+INF" then
    some (Numeric.doubleOfBits (BinaryFormat.binary64.infinityBits false))
  else if s == "-INF" then some (Numeric.doubleOfBits (BinaryFormat.binary64.infinityBits true))
  else if s == "NaN" then some (Numeric.doubleOfBits BinaryFormat.binary64.nanBits)
  else
    let unsigned := dropSign s.toList
    let (mantissa, exponent) := match unsigned.findIdx? (fun c => c == 'e' || c == 'E') with
      | some i => (unsigned.take i, some (unsigned.drop (i + 1)))
      | none => (unsigned, none)
    let exponentOk := match exponent with
      | some e => allDigits (dropSign e)
      | none => true
    if (readDecimal? (String.ofList mantissa)).isNone || !exponentOk then none
    else (BinaryFormat.binary64.readText? s).map Numeric.doubleOfBits

def readBoolean? (s : String) : Option Bool :=
  if s == "true" || s == "1" then some true
  else if s == "false" || s == "0" then some false
  else none

/-- The value of a lexical form for a datatype of the given category, if it is in the lexical
space. -/
def readValue? (lexical : String) (datatype : String) : Category → Option LiteralValue
  | .integer => (readInteger? lexical datatype).map (.numeric ∘ .integer)
  | .decimal => (readDecimal? lexical).map (.numeric ∘ .decimal)
  | .float => (readDouble? lexical).map fun x => .numeric (.float (Numeric.narrow x))
  | .double => (readDouble? lexical).map (.numeric ∘ .double)
  | .boolean => (readBoolean? lexical).map .boolean
  | .dateTime => (Temporal.DateTime.parse? lexical).map .dateTime
  | .date => (Temporal.Date.parse? lexical).map .date
  | .time => (Temporal.Time.parse? lexical).map .time
  | .duration => (Temporal.Duration.parse? lexical).map .duration
  | .string => some (.string lexical)
  | .other => some (.other lexical)
  | _ => none

end Lexical

namespace Term

/-- Reads a literal from its lexical form, datatype and optional language tag. With a tag the
literal is a language-tagged string; otherwise a lexical form outside the datatype's lexical
space gives an ill-typed literal. -/
def parseLiteral (lexical : String) (datatype : String) (language : Option String) : Term :=
  match language with
  | some lang => .literal ⟨.string lexical, some lexical, Vocabulary.langString, some lang⟩
  | none =>
    match Lexical.readValue? lexical datatype (Category.ofDatatype datatype) with
    | some value => .literal ⟨value, some lexical, datatype, none⟩
    | none => .illTyped lexical datatype

/-- Reads a literal of a datatype without a language tag. -/
def typed (lexical : String) (datatype : String) : Term := parseLiteral lexical datatype none

end Term

end SparqlExpr
