/-!
Exact decimal numbers `mantissa × 10^(-scale)`.

The representation is not unique (`2.50` has mantissa 250 and scale 2, `2.5` has 25 and 1), and
some operations observe it: the quotient of two decimals is produced digit by digit from the two
mantissas, so its digits depend on how the operands are written. Every other observation goes
through the value (`Decimal.compare`) or through the normal form (`Decimal.normalize`), which
drops trailing zeros of the mantissa.

The text of a decimal (`Decimal.text`) is positional unless the normal form has more than five
zeros between the point and the first digit (then `1.5E-7`) or more than fifteen zeros after the
last digit (then `15e+20`).
-/

namespace SparqlExpr

/-- An exact decimal number: the value is `mantissa × 10^(-scale)`. -/
structure Decimal where
  mantissa : Int
  scale : Int
  deriving Repr, Inhabited

/-- Number of decimal digits of a natural number; zero has one digit. -/
def Nat.decimalLength (n : Nat) : Nat := (toString n).length

/-- The decimal digits of a natural number, most significant first. -/
def Nat.decimalText (n : Nat) : String := toString n

namespace Decimal

def zero : Decimal := ⟨0, 0⟩

def one : Decimal := ⟨1, 0⟩

/-- The integer `n` as a decimal with scale zero. -/
def ofInt (n : Int) : Decimal := ⟨n, 0⟩

def isZero (d : Decimal) : Bool := d.mantissa == 0

def isNegative (d : Decimal) : Bool := d.mantissa < 0

def neg (d : Decimal) : Decimal := ⟨-d.mantissa, d.scale⟩

def abs (d : Decimal) : Decimal := ⟨d.mantissa.natAbs, d.scale⟩

/-- The mantissa that writes the same value at a scale at least `d.scale`. -/
def mantissaAt (d : Decimal) (s : Int) : Int := d.mantissa * Int.pow 10 (s - d.scale).toNat

/-- Comparison by value. -/
def compare (a b : Decimal) : Ordering :=
  let s := max a.scale b.scale
  Ord.compare (a.mantissaAt s) (b.mantissaAt s)

/-- Equality by value. -/
def sameValue (a b : Decimal) : Bool := compare a b == .eq

def isOne (d : Decimal) : Bool := sameValue d one

/-- The same value written at scale `s`, for `s` at least `d.scale`. -/
def withScale (d : Decimal) (s : Int) : Decimal := ⟨d.mantissaAt s, s⟩

/-- Sum, at the larger scale of the two operands. A zero operand gives the other one, rescaled
when its own scale is the smaller; otherwise both are written at the larger scale and the
mantissas are added. -/
def add (a b : Decimal) : Decimal :=
  if b.isZero then (if a.scale < b.scale then a.withScale b.scale else a)
  else if a.isZero then (if b.scale < a.scale then b.withScale a.scale else b)
  else
    let s := max a.scale b.scale
    ⟨a.mantissaAt s + b.mantissaAt s, s⟩

def sub (a b : Decimal) : Decimal := add a b.neg

/-- Product. A factor equal to one gives the other one unchanged; otherwise mantissas multiply
and scales add. -/
def mul (a b : Decimal) : Decimal :=
  if a.isOne then b
  else if b.isOne then a
  else ⟨a.mantissa * b.mantissa, a.scale + b.scale⟩

/-- Multiply `num` by ten until it is at least `den`, counting the steps in `scale`. -/
def shiftToDivisor (num den : Nat) (scale : Int) (h : 0 < num) : Nat × Int :=
  if num < den then shiftToDivisor (num * 10) den (scale + 1) (by omega)
  else (num, scale)
termination_by den - num

/-- The digits after the first partial quotient: append quotient digits while the remainder is
not zero and fewer than `budget` further digits were produced, then round on the next digit
(five or more rounds the magnitude up). The remainder passed in is already multiplied by ten. -/
def quotientDigits (quotient remainder den : Nat) (scale : Int) : Nat → Nat × Int
  | 0 => (if remainder ≠ 0 ∧ 5 ≤ remainder / den then quotient + 1 else quotient, scale)
  | budget + 1 =>
    if remainder = 0 then (quotient, scale)
    else
      quotientDigits (quotient * 10 + remainder / den) (remainder % den * 10) den (scale + 1)
        budget

/-- Long division of two positive mantissas with at most `precision` digits in the quotient,
the first partial quotient counted whole. Gives the quotient mantissa and its scale. -/
def longDivision (num den : Nat) (scale : Int) (precision : Nat) (h : 0 < num) : Nat × Int :=
  let (num, scale) := shiftToDivisor num den scale h
  let quotient := num / den
  let remainder := num % den
  if remainder = 0 then (quotient, scale)
  else quotientDigits quotient (remainder * 10) den scale
    (precision - Nat.decimalLength quotient)

/-- Digits kept by a quotient that does not terminate. -/
def divisionPrecision : Nat := 100

/-- Quotient, `none` for a zero divisor. A zero dividend or a divisor equal to one gives the
dividend unchanged; equal mantissas give one at the difference of the scales; otherwise the
magnitudes go through `longDivision` and the sign is applied last. -/
def div? (a b : Decimal) : Option Decimal :=
  if b.isZero then none
  else if a.isZero || b.isOne then some a
  else
    let scale := a.scale - b.scale
    if a.mantissa == b.mantissa then some ⟨1, scale⟩
    else if h : 0 < a.mantissa.natAbs then
      let (q, s) := longDivision a.mantissa.natAbs b.mantissa.natAbs scale divisionPrecision h
      let negative := (a.mantissa < 0) != (b.mantissa < 0)
      some ⟨if negative then -(q : Int) else q, s⟩
    else some a

/-- The value truncated toward zero, written with scale zero. -/
def truncate (d : Decimal) : Decimal :=
  if d.mantissa == 0 then ⟨0, 0⟩
  else if 0 < d.scale then ⟨d.mantissa.tdiv (Int.pow 10 d.scale.toNat), 0⟩
  else ⟨d.mantissa * Int.pow 10 (-d.scale).toNat, 0⟩

/-- The largest integer not above the value. -/
def floor (d : Decimal) : Decimal :=
  let t := d.truncate
  if compare t d == .gt then t.sub one else t

/-- The least integer not below the value. -/
def ceil (d : Decimal) : Decimal :=
  let t := d.truncate
  if compare t d == .lt then t.add one else t

/-- Rounding half toward positive infinity: the floor of the value plus one half. -/
def roundHalfUp (d : Decimal) : Decimal := (d.add ⟨5, 1⟩).floor

/-- Remove trailing zeros of the mantissa, lowering the scale. -/
def dropTrailingZeros (m : Int) (s : Int) : Int × Int :=
  if h : m ≠ 0 ∧ m % 10 = 0 then dropTrailingZeros (m.tdiv 10) (s - 1)
  else (m, s)
termination_by m.natAbs
decreasing_by
  have : (m.tdiv 10).natAbs = m.natAbs / 10 := Int.natAbs_tdiv m 10
  omega

/-- The normal form: no trailing zero in the mantissa, and zero written with scale zero. -/
def normalize (d : Decimal) : Decimal :=
  if d.mantissa == 0 then ⟨0, 0⟩
  else
    let (m, s) := dropTrailingZeros d.mantissa d.scale
    ⟨m, s⟩

/-- `n` zeros. -/
def zeros (n : Nat) : String := String.ofList (List.replicate n '0')

/-- The magnitude text of digits `ds` at scale `s` in positional notation. -/
def positional (ds : String) (s : Int) : String :=
  if s ≤ 0 then ds ++ zeros (-s).toNat
  else
    let k := s.toNat
    if k < ds.length then
      String.ofList (ds.toList.take (ds.length - k)) ++ "." ++
        String.ofList (ds.toList.drop (ds.length - k))
    else "0." ++ zeros (k - ds.length) ++ ds

/-- The text of a decimal, computed on its normal form: `1.5E-7` when more than five zeros
stand between the point and the first digit, `15e+20` when more than fifteen zeros follow the
last digit, positional otherwise. -/
def text (d : Decimal) : String :=
  let n := d.normalize
  let ds := Nat.decimalText n.mantissa.natAbs
  let len : Int := ds.length
  let body :=
    if 0 < n.scale ∧ 5 < n.scale - len then
      let exponent := len - 1 - n.scale
      let lead := String.ofList (ds.toList.take 1)
      let rest := String.ofList (ds.toList.drop 1)
      (if rest.isEmpty then lead else lead ++ "." ++ rest) ++ "E" ++ toString exponent
    else if n.scale < 0 ∧ 15 < -n.scale then ds ++ "e+" ++ toString (-n.scale)
    else positional ds n.scale
  (if n.mantissa < 0 then "-" else "") ++ body

/-- The canonical XSD text: `text`, with `.0` appended when it has neither point nor
exponent. -/
def canonicalText (d : Decimal) : String :=
  let t := d.text
  if t.any (fun c => c == '.' || c == 'e' || c == 'E') then t else t ++ ".0"

/-- Reads a non-empty run of ASCII digits. -/
def readDigits? (s : String) : Option Nat :=
  if !s.isEmpty && s.all Char.isDigit then
    some (s.foldl (fun n c => n * 10 + (c.toNat - '0'.toNat)) 0)
  else none

/-- Reads an integer with an optional leading `+` or `-`. -/
def readSignedInt? (s : String) : Option Int :=
  match s.toList with
  | '-' :: rest => (readDigits? (String.ofList rest)).map fun n => -(n : Int)
  | '+' :: rest => (readDigits? (String.ofList rest)).map fun n => (n : Int)
  | _ => (readDigits? s).map fun n => (n : Int)

/-- Scales are kept within 64-bit signed words. -/
def scaleInRange (s : Int) : Bool := -Int.pow 2 63 ≤ s && s < Int.pow 2 63

/-- Reads a decimal in the notation `[+-]digits[.digits][(e|E)[+-]digits]`: the mantissa is the
digits with the point removed, the scale the number of digits after the point minus the
exponent. A point at the very end is ignored. -/
def ofText? (s : String) : Option Decimal := do
  let cs := s.toList
  let (base, exponent) ← match cs.findIdx? (fun c => c == 'e' || c == 'E') with
    | none => pure (cs, (0 : Int))
    | some i => do
      let e ← readSignedInt? (String.ofList (cs.drop (i + 1)))
      if -Int.pow 2 127 ≤ e ∧ e < Int.pow 2 127 then pure (cs.take i, e) else none
  if base.isEmpty then none
  let (digits, fractionLength) :=
    match base.findIdx? (· == '.') with
    | none => (base, 0)
    | some i =>
      if i + 1 = base.length then (base.take i, 0)
      else (base.take i ++ base.drop (i + 1), base.length - (i + 1))
  let mantissa ← readSignedInt? (String.ofList digits)
  let scale : Int := fractionLength - exponent
  if scaleInRange scale then some ⟨mantissa, scale⟩ else none

end Decimal

end SparqlExpr
