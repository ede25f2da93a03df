/-!
Names of the RDF and XSD vocabularies that the expression engine interprets: the datatype
IRIs, the families of datatypes that share a value space, and the bounds of the bounded
integer types.
-/

namespace SparqlExpr.Vocabulary

/-- The XSD namespace; every XSD datatype IRI starts with it. -/
def xsdNamespace : String := "http://www.w3.org/2001/XMLSchema#"

/-- The IRI of an XSD datatype from its local name. -/
def xsd (name : String) : String := xsdNamespace ++ name

/-- The datatype of language-tagged strings. -/
def langString : String := "http://www.w3.org/1999/02/22-rdf-syntax-ns#langString"

def xsdString : String := xsd "string"
def xsdBoolean : String := xsd "boolean"
def xsdInteger : String := xsd "integer"
def xsdDecimal : String := xsd "decimal"
def xsdFloat : String := xsd "float"
def xsdDouble : String := xsd "double"
def xsdDateTime : String := xsd "dateTime"
def xsdDateTimeStamp : String := xsd "dateTimeStamp"
def xsdDate : String := xsd "date"
def xsdTime : String := xsd "time"
def xsdDuration : String := xsd "duration"

/-- Local names of xsd:integer and the datatypes derived from it. -/
def integerFamily : List String :=
  ["integer", "long", "int", "short", "byte", "unsignedLong", "unsignedInt", "unsignedShort",
   "unsignedByte", "nonNegativeInteger", "positiveInteger", "nonPositiveInteger",
   "negativeInteger"]

/-- Local names of xsd:string and the datatypes derived from it. -/
def stringFamily : List String :=
  ["string", "normalizedString", "token", "language", "Name", "NCName", "NMTOKEN"]

/-- Local names of xsd:duration and its two restrictions. -/
def durationFamily : List String := ["duration", "dayTimeDuration", "yearMonthDuration"]

/-- Whether a datatype IRI names an XSD datatype of the given family. -/
def inFamily (family : List String) (datatype : String) : Bool :=
  family.any fun name => datatype == xsd name

def isIntegerType (datatype : String) : Bool := inFamily integerFamily datatype
def isStringType (datatype : String) : Bool := inFamily stringFamily datatype
def isDurationType (datatype : String) : Bool := inFamily durationFamily datatype

/-- The inclusive value range of a bounded integer datatype. The unbounded ones among the
non-negative, positive, non-positive and negative integers are cut at the range of 128-bit
signed words, which is where the engine stops representing them. -/
def integerBounds (datatype : String) : Option (Int × Int) :=
  let wordMax : Int := Int.pow 2 127 - 1
  let wordMin : Int := -Int.pow 2 127
  if datatype == xsd "byte" then some (-128, 127)
  else if datatype == xsd "short" then some (-32768, 32767)
  else if datatype == xsd "int" then some (-2147483648, 2147483647)
  else if datatype == xsd "long" then some (-9223372036854775808, 9223372036854775807)
  else if datatype == xsd "unsignedByte" then some (0, 255)
  else if datatype == xsd "unsignedShort" then some (0, 65535)
  else if datatype == xsd "unsignedInt" then some (0, 4294967295)
  else if datatype == xsd "unsignedLong" then some (0, 18446744073709551615)
  else if datatype == xsd "positiveInteger" then some (1, wordMax)
  else if datatype == xsd "nonNegativeInteger" then some (0, wordMax)
  else if datatype == xsd "negativeInteger" then some (wordMin, -1)
  else if datatype == xsd "nonPositiveInteger" then some (wordMin, 0)
  else none

end SparqlExpr.Vocabulary
