import SparqlExpr.Number.Binary
import SparqlExpr.Error

/-!
Numeric values of literals and their arithmetic.

Binary operations first bring both operands to a common type, the wider of the two in the order
integer, decimal, float, double: two integers stay integers (their quotient is a decimal), a
double on either side makes both doubles, else a float on either side makes both floats (the
other operand goes through double on the way), else both become decimals. Decimal arithmetic is
exact but for quotients; float and double follow IEEE 754, so dividing by zero gives an infinity
or NaN there, while an integer or decimal division by zero is an error.
-/

namespace SparqlExpr

/-- The value of a numeric literal. -/
inductive Numeric where
  | integer (n : Int)
  | decimal (d : Decimal)
  | float (x : Float32)
  | double (x : Float)
  deriving Inhabited

namespace Numeric

/-- A binary64 float from its bit pattern as a natural number. -/
def doubleOfBits (bits : Nat) : Float := Float.ofBits (UInt64.ofNat bits)

/-- A binary32 float from its bit pattern as a natural number. -/
def floatOfBits (bits : Nat) : Float32 := Float32.ofBits (UInt32.ofNat bits)

/-- The double with the same value as a float. -/
def widen (x : Float32) : Float :=
  doubleOfBits (BinaryFormat.convert .binary32 .binary64 x.toBits.toNat)

/-- The float nearest to a double. -/
def narrow (x : Float) : Float32 :=
  floatOfBits (BinaryFormat.convert .binary64 .binary32 x.toBits.toNat)

/-- The double nearest to an integer; infinite beyond the largest double. -/
def doubleOfInt (n : Int) : Float := doubleOfBits (BinaryFormat.binary64.ofInt n)

/-- The double nearest to a decimal. -/
def doubleOfDecimal (d : Decimal) : Float := doubleOfBits (BinaryFormat.binary64.ofDecimal d)

/-- The exact decimal value of a finite double. -/
def decimalOfDouble? (x : Float) : Option Decimal :=
  BinaryFormat.binary64.toDecimal? x.toBits.toNat

def datatype : Numeric → String
  | integer _ => Vocabulary.xsdInteger
  | decimal _ => Vocabulary.xsdDecimal
  | float _ => Vocabulary.xsdFloat
  | double _ => Vocabulary.xsdDouble

/-- Non-zero and not NaN. -/
def isTruthy : Numeric → Bool
  | integer n => n != 0
  | decimal d => !d.isZero
  | float x => !x.isNaN && x != 0
  | double x => !x.isNaN && x != 0

/-- The text of a float or double: `NaN`, `INF`, `-INF`, or the shortest digits that read back,
written positionally. -/
def binaryText (f : BinaryFormat) (bits : Nat) : String :=
  match f.decode bits with
  | .nan => "NaN"
  | .infinite negative => if negative then "-INF" else "INF"
  | .finite .. => f.displayText bits

/-- The canonical text of a numeric value. -/
def text : Numeric → String
  | integer n => toString n
  | decimal d => d.canonicalText
  | float x => binaryText .binary32 x.toBits.toNat
  | double x => binaryText .binary64 x.toBits.toNat

/-- The value as a double: integers and decimals rounded to nearest, floats widened exactly. -/
def toDouble : Numeric → Float
  | integer n => doubleOfInt n
  | decimal d => doubleOfDecimal d
  | float x => widen x
  | double x => x

/-- The exact value as a decimal; none for infinities and NaN. -/
def toDecimal? : Numeric → Option Decimal
  | integer n => some (Decimal.ofInt n)
  | decimal d => some d
  | float x => decimalOfDouble? (widen x)
  | double x => decimalOfDouble? x

end Numeric

/-- Two operands brought to a common type. -/
inductive Promoted where
  | integers (a b : Int)
  | decimals (a b : Decimal)
  | floats (a b : Float32)
  | doubles (a b : Float)

/-- Brings two operands to the wider of their types; a float or double that has no decimal value
cannot become a decimal. -/
def Numeric.promote (l r : Numeric) : Except ArithmeticFault Promoted :=
  match l, r with
  | .integer a, .integer b => .ok (.integers a b)
  | .double _, _ | _, .double _ => .ok (.doubles l.toDouble r.toDouble)
  | .float _, _ | _, .float _ =>
    .ok (.floats (Numeric.narrow l.toDouble) (Numeric.narrow r.toDouble))
  | _, _ =>
    match l.toDecimal?, r.toDecimal? with
    | some a, some b => .ok (.decimals a b)
    | _, _ => .error .typeMismatch

/-- The four arithmetic operators. -/
inductive ArithmeticOp where
  | add
  | sub
  | mul
  | div
  deriving DecidableEq, Repr

namespace ArithmeticOp

def symbol : ArithmeticOp → String
  | add => "+"
  | sub => "-"
  | mul => "*"
  | div => "/"

def onFloat32 : ArithmeticOp → Float32 → Float32 → Float32
  | add, a, b => a + b
  | sub, a, b => a - b
  | mul, a, b => a * b
  | div, a, b => a / b

def onFloat : ArithmeticOp → Float → Float → Float
  | add, a, b => a + b
  | sub, a, b => a - b
  | mul, a, b => a * b
  | div, a, b => a / b

/-- Exact decimal arithmetic; a zero divisor is an error. -/
def onDecimal : ArithmeticOp → Decimal → Decimal → Except ArithmeticFault Decimal
  | add, a, b => .ok (a.add b)
  | sub, a, b => .ok (a.sub b)
  | mul, a, b => .ok (a.mul b)
  | div, a, b =>
    match a.div? b with
    | some q => .ok q
    | none => .error .divisionByZero

/-- The operator on two numerics after promotion; the quotient of two integers is a decimal. -/
def apply (op : ArithmeticOp) (l r : Numeric) : Except ArithmeticFault Numeric := do
  match ← Numeric.promote l r with
  | .integers a b =>
    match op with
    | add => pure (.integer (a + b))
    | sub => pure (.integer (a - b))
    | mul => pure (.integer (a * b))
    | div => .decimal <$> onDecimal div (Decimal.ofInt a) (Decimal.ofInt b)
  | .decimals a b => .decimal <$> onDecimal op a b
  | .floats a b => pure (.float (op.onFloat32 a b))
  | .doubles a b => pure (.double (op.onFloat a b))

end ArithmeticOp

/-- IEEE comparison: none when either side is NaN. -/
def Float.partialCompare (a b : Float) : Option Ordering :=
  BinaryFormat.binary64.compareBits? a.toBits.toNat b.toBits.toNat

def Float32.partialCompare (a b : Float32) : Option Ordering :=
  BinaryFormat.binary32.compareBits? a.toBits.toNat b.toBits.toNat

namespace Numeric

/-- Comparison after promotion; none when promotion fails or a NaN is involved. -/
def compare? (l r : Numeric) : Option Ordering :=
  match promote l r with
  | .ok (.integers a b) => some (Ord.compare a b)
  | .ok (.decimals a b) => some (a.compare b)
  | .ok (.floats a b) => Float32.partialCompare a b
  | .ok (.doubles a b) => Float.partialCompare a b
  | .error _ => none

def negate : Numeric → Numeric
  | integer n => integer (-n)
  | decimal d => decimal d.neg
  | float x => float (-x)
  | double x => double (-x)

def abs : Numeric → Numeric
  | integer n => integer n.natAbs
  | decimal d => decimal d.abs
  | float x => float x.abs
  | double x => double x.abs

def ceil : Numeric → Numeric
  | integer n => integer n
  | decimal d => decimal d.ceil
  | float x => float x.ceil
  | double x => double x.ceil

def floor : Numeric → Numeric
  | integer n => integer n
  | decimal d => decimal d.floor
  | float x => float x.floor
  | double x => double x.floor

/-- Rounding of a double with halves toward positive infinity: a value whose fractional part is
exactly `-0.5` goes up, every other value to the nearest integer, halves away from zero. -/
def roundHalfUp (x : Float) : Float :=
  let whole := if x < 0 then x.ceil else x.floor
  if x - whole == -0.5 then x.ceil else x.round

/-- Rounding to an integer value, halves toward positive infinity. -/
def round : Numeric → Numeric
  | integer n => integer n
  | decimal d => decimal d.roundHalfUp
  | float x => float (narrow (roundHalfUp (widen x)))
  | double x => double (roundHalfUp x)

end Numeric

end SparqlExpr
