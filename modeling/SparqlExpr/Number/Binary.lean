import SparqlExpr.Number.Decimal

/-!
IEEE 754 binary floating-point formats, worked on bit patterns with exact natural-number
arithmetic.

* `BinaryFormat.decode` gives the meaning of a bit pattern: a finite `± m × 2^q`, an infinity, or
  NaN.
* `BinaryFormat.roundRatio` gives the pattern nearest to an exact positive ratio, ties to the even
  significand, overflowing to infinity; reading decimal text (`readText?`) and converting from
  one format to another (`convert`) go through it, so both are correctly rounded.
* `BinaryFormat.shortest` gives the fewest significant decimal digits that read back to the same
  pattern, and of those the nearest to the value; `displayText` writes them positionally, never
  with an exponent (`1e300` is written as a one followed by three hundred zeros).
-/

namespace SparqlExpr

/-- An IEEE 754 binary interchange format: significand precision (hidden bit included) and the
width of the exponent field. -/
structure BinaryFormat where
  precision : Nat
  exponentBits : Nat
  deriving Repr

/-- The meaning of a bit pattern: `finite negative m q` is `± m × 2^q`. -/
inductive BinaryDatum where
  | finite (negative : Bool) (significand : Nat) (exponent : Int)
  | infinite (negative : Bool)
  | nan
  deriving Repr

namespace BinaryFormat

/-- The 64-bit format (double). -/
def binary64 : BinaryFormat := ⟨53, 11⟩

/-- The 32-bit format (float). -/
def binary32 : BinaryFormat := ⟨24, 8⟩

def fractionBits (f : BinaryFormat) : Nat := f.precision - 1

def bias (f : BinaryFormat) : Nat := Nat.pow 2 (f.exponentBits - 1) - 1

/-- The all-ones exponent field of infinities and NaNs. -/
def maxBiased (f : BinaryFormat) : Nat := Nat.pow 2 f.exponentBits - 1

/-- The exponent of the least subnormal: every finite value is `m × 2^q` with `q` at least
this. -/
def minExponent (f : BinaryFormat) : Int := 2 - (f.bias : Int) - f.precision

/-- The largest `q` of a finite value `m × 2^q` with `m < 2^precision`. -/
def maxExponent (f : BinaryFormat) : Int :=
  (f.maxBiased : Int) - 1 - f.bias - f.fractionBits

def signBit (f : BinaryFormat) (negative : Bool) : Nat :=
  if negative then Nat.pow 2 (f.fractionBits + f.exponentBits) else 0

def infinityBits (f : BinaryFormat) (negative : Bool) : Nat :=
  f.signBit negative + f.maxBiased * Nat.pow 2 f.fractionBits

/-- The quiet NaN with a clear sign bit. -/
def nanBits (f : BinaryFormat) : Nat :=
  f.maxBiased * Nat.pow 2 f.fractionBits + Nat.pow 2 (f.fractionBits - 1)

/-- The meaning of a bit pattern. -/
def decode (f : BinaryFormat) (bits : Nat) : BinaryDatum :=
  let unit := Nat.pow 2 f.fractionBits
  let fraction := bits % unit
  let biased := bits / unit % Nat.pow 2 f.exponentBits
  let negative := bits / Nat.pow 2 (f.fractionBits + f.exponentBits) % 2 == 1
  if biased == f.maxBiased then
    if fraction == 0 then .infinite negative else .nan
  else if biased == 0 then .finite negative fraction f.minExponent
  else .finite negative (fraction + unit) (f.minExponent + biased - 1)

/-- The pattern of `± m × 2^q`, for `m < 2^precision` and `q ≥ minExponent`, where `m` has its
top bit set unless `q = minExponent` (a subnormal). -/
def encodeFinite (f : BinaryFormat) (negative : Bool) (m : Nat) (q : Int) : Nat :=
  let unit := Nat.pow 2 f.fractionBits
  if m < unit then f.signBit negative + m
  else f.signBit negative + (q - f.minExponent + 1).toNat * unit + (m - unit)

/-- Floor quotient, remainder and divisor of `num / (den × 2^q)`, all scaled to integers. -/
def scaledQuotient (num den : Nat) (q : Int) : Nat × Nat × Nat :=
  if 0 ≤ q then
    let d := den * Nat.pow 2 q.toNat
    (num / d, num % d, d)
  else
    let n := num * Nat.pow 2 (-q).toNat
    (n / den, n % den, den)

/-- The pattern nearest to `± num / den` (for `den > 0`): the significand is the floor quotient
at the exponent that gives it `precision` bits (or at the subnormal exponent), rounded up when
the remainder is above half the divisor or exactly half with an odd quotient; a value beyond
the largest finite one becomes infinity. -/
def roundRatio (f : BinaryFormat) (negative : Bool) (num den : Nat) : Nat :=
  if num = 0 then f.signBit negative
  else
    let p := f.precision
    let estimate : Int := (Nat.log2 num : Int) - Nat.log2 den - (p - 1 : Nat)
    let q0 :=
      if (scaledQuotient num den estimate).1 < Nat.pow 2 (p - 1) then estimate - 1 else estimate
    let q := max q0 f.minExponent
    let (m, r, d) := scaledQuotient num den q
    let m := if 2 * r > d || (2 * r == d && m % 2 == 1) then m + 1 else m
    let (m, q) := if m == Nat.pow 2 p then (Nat.pow 2 (p - 1), q + 1) else (m, q)
    if q > f.maxExponent then f.infinityBits negative
    else f.encodeFinite negative m q

/-- The pattern nearest to `± digits × 10^exp10`. Magnitudes beyond `10^400` are infinite and
below `10^-400` are zero in every format of at most 64 bits, so those are decided without
computing the power. -/
def roundDecimal (f : BinaryFormat) (negative : Bool) (digits : Nat) (exp10 : Int) : Nat :=
  if digits = 0 then f.signBit negative
  else
    let magnitude : Int := (Nat.decimalLength digits : Int) + exp10
    if 400 < magnitude then f.infinityBits negative
    else if magnitude < -400 then f.signBit negative
    else if 0 ≤ exp10 then f.roundRatio negative (digits * Nat.pow 10 exp10.toNat) 1
    else f.roundRatio negative digits (Nat.pow 10 (-exp10).toNat)

/-- The pattern nearest to an exact decimal. -/
def ofDecimal (f : BinaryFormat) (d : Decimal) : Nat :=
  f.roundDecimal (d.mantissa < 0) d.mantissa.natAbs (-d.scale)

/-- The pattern nearest to an integer. -/
def ofInt (f : BinaryFormat) (n : Int) : Nat :=
  f.roundDecimal (n < 0) n.natAbs 0

/-- The pattern in format `g` nearest to the value of pattern `bits` in format `f`. -/
def convert (f g : BinaryFormat) (bits : Nat) : Nat :=
  match f.decode bits with
  | .nan => g.nanBits
  | .infinite negative => g.infinityBits negative
  | .finite negative m q =>
    if 0 ≤ q then g.roundRatio negative (m * Nat.pow 2 q.toNat) 1
    else g.roundRatio negative m (Nat.pow 2 (-q).toNat)

/-- The exact decimal value of a finite pattern; `none` for infinities and NaN. -/
def toDecimal? (f : BinaryFormat) (bits : Nat) : Option Decimal :=
  match f.decode bits with
  | .finite negative m q =>
    let sign : Int := if negative then -1 else 1
    if 0 ≤ q then some ⟨sign * (m * Nat.pow 2 q.toNat : Nat), 0⟩
    else some ⟨sign * (m * Nat.pow 5 (-q).toNat : Nat), -q⟩
  | _ => none

/-- The finite value `± m × 2^q` as an integer count of `2^e`, for `e ≤ q`. -/
def scaledValue (negative : Bool) (m : Nat) (q e : Int) : Int :=
  (if negative then -1 else 1) * (m * Nat.pow 2 (q - e).toNat : Nat)

/-- IEEE 754 comparison of two patterns: none when either is NaN, the infinities below and
above every finite value, finite values by their exact values (so the two zeros are equal). -/
def compareBits? (f : BinaryFormat) (a b : Nat) : Option Ordering :=
  match f.decode a, f.decode b with
  | .nan, _ | _, .nan => none
  | .infinite na, .infinite nb => some (compare nb na)
  | .infinite na, .finite .. => some (if na then .lt else .gt)
  | .finite .., .infinite nb => some (if nb then .gt else .lt)
  | .finite na ma qa, .finite nb mb qb =>
    let e := min qa qb
    some (compare (scaledValue na ma qa e) (scaledValue nb mb qb e))

/-- Compares `a × 10^t` with `b × 2^e` exactly. -/
def compareScaled (a : Nat) (t : Int) (b : Nat) (e : Int) : Ordering :=
  Ord.compare (a * Nat.pow 10 t.toNat * Nat.pow 2 (-e).toNat)
    (b * Nat.pow 2 e.toNat * Nat.pow 10 (-t).toNat)

/-- Moves an estimate `k` of `⌊log10 (m × 2^q)⌋` to the exact value, one step at a time. -/
def fixLog10 (m : Nat) (q : Int) : Nat → Int → Int
  | 0, k => k
  | fuel + 1, k =>
    if compareScaled 1 k m q == .gt then fixLog10 m q fuel (k - 1)
    else if compareScaled 1 (k + 1) m q != .gt then fixLog10 m q fuel (k + 1)
    else k

/-- `⌊log10 (m × 2^q)⌋` for `m > 0`. -/
def floorLog10 (m : Nat) (q : Int) : Int :=
  fixLog10 m q 8 (((Nat.log2 m : Int) + q) * 30103 / 100000)

/-- The shortest decimal `c × 10^t` that reads back to the positive finite value `m × 2^q` of
format `f`, and of those the nearest to it. A decimal reads back when it lies in the rounding
interval of the value: halfway to each neighbour, ends included when `m` is even. Candidates
with `k` significant digits are the two grid points of step `10^t` around the value; the first
`k` with a candidate inside the interval wins. -/
def shortest (f : BinaryFormat) (m : Nat) (q : Int) : Nat × Int :=
  -- the value and its interval in units of `2^(q-2)`
  let e := q - 2
  let v := 4 * m
  let lowGap := if m == Nat.pow 2 f.fractionBits && q > f.minExponent then 1 else 2
  let low := v - lowGap
  let high := v + 2
  let inclusive := m % 2 == 0
  let inside (c : Nat) (t : Int) : Bool :=
    let lo := compareScaled c t low e
    let hi := compareScaled c t high e
    (lo == .gt || (inclusive && lo == .eq)) && (hi == .lt || (inclusive && hi == .eq))
  let top := floorLog10 m q
  let rec search : Nat → Nat → Nat × Int
    | 0, _ => (m * Nat.pow 2 q.toNat, 0)
    | fuel + 1, k =>
      let t := top - k + 1
      -- ⌊value / 10^t⌋
      let below := m * Nat.pow 2 q.toNat * Nat.pow 10 (-t).toNat /
        (Nat.pow 2 (-q).toNat * Nat.pow 10 t.toNat)
      let above := below + 1
      match inside below t, inside above t with
      | true, true =>
        -- the nearer one: compare 2·value with (2·below + 1)·10^t
        if compareScaled (2 * below + 1) t (2 * m) q == .lt then (above, t) else (below, t)
      | true, false => (below, t)
      | false, true => (above, t)
      | false, false => search fuel (k + 1)
  search 40 1

/-- Digits `c × 10^t` written positionally, trailing zeros of `c` moved into the exponent. -/
def positionalText (c : Nat) (t : Int) : String :=
  let (c, scale) := Decimal.dropTrailingZeros c (-t)
  let t := -scale
  let ds := Nat.decimalText c.natAbs
  let point : Int := ds.length + t
  if 0 ≤ t then ds ++ Decimal.zeros t.toNat
  else if 0 < point then
    String.ofList (ds.toList.take point.toNat) ++ "." ++ String.ofList (ds.toList.drop point.toNat)
  else "0." ++ Decimal.zeros (-point).toNat ++ ds

/-- The general display text of a pattern: `NaN`, `inf`, `-inf`, or the shortest round-trip
digits written positionally with a `-` for every negative value, zero included. -/
def displayText (f : BinaryFormat) (bits : Nat) : String :=
  match f.decode bits with
  | .nan => "NaN"
  | .infinite negative => if negative then "-inf" else "inf"
  | .finite negative m q =>
    let sign := if negative then "-" else ""
    if m == 0 then sign ++ "0"
    else
      let (c, t) := f.shortest m q
      sign ++ positionalText c t

end BinaryFormat

/-- A number read from text: its sign, and either a word (infinity, NaN) or decimal digits with
a power of ten. -/
inductive NumberText where
  | infinity (negative : Bool)
  | nan
  | finite (negative : Bool) (digits : Nat) (exp10 : Int)
  deriving Repr

namespace NumberText

/-- Splits off a leading run of ASCII digits. -/
def digitRun (cs : List Char) : List Char × List Char :=
  (cs.takeWhile Char.isDigit, cs.dropWhile Char.isDigit)

def digitsValue (cs : List Char) : Nat :=
  cs.foldl (fun n c => n * 10 + (c.toNat - '0'.toNat)) 0

/-- Reads a floating-point number: an optional sign, then `inf`, `infinity` or `nan` in any
case, or digits with an optional point (at least one digit on either side) and an optional
exponent `e`/`E` with an optional sign and at least one digit. -/
def read? (s : String) : Option NumberText :=
  let cs := s.toList
  let (negative, body) :=
    match cs with
    | '-' :: rest => (true, rest)
    | '+' :: rest => (false, rest)
    | _ => (false, cs)
  let word := (String.ofList body).toLower
  if word == "inf" || word == "infinity" then some (.infinity negative)
  else if word == "nan" then some .nan
  else
    let (whole, rest) := digitRun body
    let (fraction, rest) :=
      match rest with
      | '.' :: more => digitRun more
      | _ => ([], rest)
    if whole.isEmpty && fraction.isEmpty then none
    else
      let exponent : Option Int :=
        match rest with
        | [] => some 0
        | c :: more =>
          if c == 'e' || c == 'E' then
            let (eNegative, eBody) :=
              match more with
              | '-' :: r => (true, r)
              | '+' :: r => (false, r)
              | _ => (false, more)
            if !eBody.isEmpty && eBody.all Char.isDigit then
              let n : Int := digitsValue eBody
              some (if eNegative then -n else n)
            else none
          else none
      exponent.map fun e =>
        .finite negative (digitsValue (whole ++ fraction)) (e - fraction.length)

end NumberText

namespace BinaryFormat

/-- The pattern of a number read from text, rounded to nearest. -/
def ofNumberText (f : BinaryFormat) : NumberText → Nat
  | .infinity negative => f.infinityBits negative
  | .nan => f.nanBits
  | .finite negative digits exp10 => f.roundDecimal negative digits exp10

/-- Reads text as a pattern of format `f`, rounding to nearest. -/
def readText? (f : BinaryFormat) (s : String) : Option Nat :=
  (NumberText.read? s).map f.ofNumberText

end BinaryFormat

end SparqlExpr
