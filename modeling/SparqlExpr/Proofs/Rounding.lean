import Mathlib
import SparqlExpr.Number.Binary
import SparqlExpr.Proofs.Notation

/-!
Rounding to nearest in the binary formats.

A finite magnitude of a format is `m × 2^q` with `m < 2^precision` and `q` between the least and
the largest exponent (`Representable`). A pattern rounds a signed magnitude `x` to nearest
(`RoundsToNearest`) when it is the infinity of that sign for `x` at or above the overflow
threshold, halfway between the largest finite magnitude and the next power of two, and otherwise
a finite pattern of that sign whose magnitude is at least as close to `x` as every finite
magnitude of the format.

The main statement is `roundRatio_roundsToNearest`: for every well-formed format, the pattern
`roundRatio` builds for a ratio of naturals rounds it to nearest. Its proof goes through the
fields of a pattern (`decode_fields`, `decode_encodeFinite`), the floor quotient at an exponent
(`scaledQuotient_spec`), the exponent at which the floor quotient has `precision` bits
(`precisionExponent_spec`), and the fact that no finite magnitude lies strictly between the two
neighbours of `x` on the grid of that exponent (`grid_gap`). Decimal magnitudes far outside the
range of the format are decided by their number of digits (`roundDecimal_roundsToNearest`).
-/

namespace SparqlExpr

namespace BinaryFormat

variable {f : BinaryFormat}

/-- A format with at least two significand bits and two exponent bits. -/
structure WellFormed (f : BinaryFormat) : Prop where
  two_le_precision : 2 ≤ f.precision
  two_le_exponentBits : 2 ≤ f.exponentBits

theorem wellFormed_binary64 : binary64.WellFormed := ⟨by decide, by decide⟩

theorem wellFormed_binary32 : binary32.WellFormed := ⟨by decide, by decide⟩

/-- The magnitude `m × 2^q`. -/
def magnitude (m : Nat) (q : Int) : ℚ := m * 2 ^ q

/-- A finite magnitude of the format: a significand below `2^precision` and an exponent between
the least and the largest one. -/
structure Representable (f : BinaryFormat) (m : Nat) (q : Int) : Prop where
  lt_precision : m < 2 ^ f.precision
  minExponent_le : f.minExponent ≤ q
  le_maxExponent : q ≤ f.maxExponent

/-- The magnitude from which rounding to nearest gives infinity: halfway between the largest
finite magnitude `(2^precision - 1) × 2^maxExponent` and `2^precision × 2^maxExponent`. -/
def overflowThreshold (f : BinaryFormat) : ℚ := (2 ^ f.precision - 1 / 2) * 2 ^ f.maxExponent

/-- `bits` rounds the magnitude `x` with the given sign to nearest: infinity from the overflow
threshold on, and below it a finite pattern whose magnitude is as close to `x` as any finite
magnitude of the format. -/
def RoundsToNearest (f : BinaryFormat) (negative : Bool) (x : ℚ) (bits : Nat) : Prop :=
  (f.overflowThreshold ≤ x ∧ f.decode bits = .infinite negative) ∨
    (x < f.overflowThreshold ∧ ∃ m q, f.decode bits = .finite negative m q ∧
      f.Representable m q ∧
      ∀ m' q', f.Representable m' q' → |magnitude m q - x| ≤ |magnitude m' q' - x|)

section Fields

/-! The fields of a pattern: sign, biased exponent and fraction. -/

theorem unit_pos (f : BinaryFormat) : 0 < 2 ^ f.fractionBits := Nat.two_pow_pos _

theorem precision_eq (hf : f.WellFormed) : f.precision = f.fractionBits + 1 := by
  have := hf.two_le_precision
  simp only [fractionBits]
  omega

theorem two_pow_precision (hf : f.WellFormed) :
    2 ^ f.precision = 2 * 2 ^ f.fractionBits := by
  rw [precision_eq hf, pow_succ, Nat.mul_comm]

theorem maxBiased_add_one (f : BinaryFormat) : f.maxBiased + 1 = 2 ^ f.exponentBits := by
  have : 0 < 2 ^ f.exponentBits := Nat.two_pow_pos _
  simp only [maxBiased, Nat.pow_eq]
  omega

theorem one_le_maxBiased (hf : f.WellFormed) : 1 ≤ f.maxBiased := by
  have : 2 ^ 2 ≤ 2 ^ f.exponentBits := Nat.pow_le_pow_right (by norm_num) hf.two_le_exponentBits
  have := maxBiased_add_one f
  omega

/-- The exponents of normal patterns: the biased exponent of `q` is `q - minExponent + 1`, and
at the largest exponent it is one below the all-ones field. -/
theorem maxExponent_sub_minExponent (hf : f.WellFormed) :
    f.maxExponent - f.minExponent + 1 = (f.maxBiased : Int) - 1 := by
  have := precision_eq hf
  simp only [maxExponent, minExponent]
  omega

theorem signBit_eq (negative : Bool) :
    f.signBit negative = (if negative then 1 else 0) * (2 ^ f.exponentBits * 2 ^ f.fractionBits) := by
  cases negative <;> simp [signBit, Nat.pow_eq, pow_add, Nat.mul_comm]

/-- A pattern read field by field. -/
theorem decode_fields (negative : Bool) {e fraction : Nat} (he : e < 2 ^ f.exponentBits)
    (hfraction : fraction < 2 ^ f.fractionBits) :
    f.decode (f.signBit negative + e * 2 ^ f.fractionBits + fraction) =
      if e = f.maxBiased then (if fraction = 0 then .infinite negative else .nan)
      else if e = 0 then .finite negative fraction f.minExponent
      else .finite negative (fraction + 2 ^ f.fractionBits) (f.minExponent + e - 1) := by
  set U := 2 ^ f.fractionBits with hU
  set E := 2 ^ f.exponentBits with hE
  set s : Nat := if negative then 1 else 0 with hs
  have hUpos : 0 < U := unit_pos f
  have hEpos : 0 < E := Nat.two_pow_pos _
  have hbits : f.signBit negative + e * U + fraction = fraction + (s * E + e) * U := by
    rw [signBit_eq]
    ring
  have hfraction' : (fraction + (s * E + e) * U) % U = fraction := by
    rw [Nat.add_mul_mod_self_right, Nat.mod_eq_of_lt hfraction]
  have hquotient : (fraction + (s * E + e) * U) / U = s * E + e := by
    rw [Nat.add_mul_div_right _ _ hUpos, Nat.div_eq_of_lt hfraction, Nat.zero_add]
  have hbiased : (s * E + e) % E = e := by
    rw [Nat.add_comm, Nat.add_mul_mod_self_right, Nat.mod_eq_of_lt he]
  have hsign : (s * E + e) / E = s := by
    rw [Nat.add_comm, Nat.add_mul_div_right _ _ hEpos, Nat.div_eq_of_lt he, Nat.zero_add]
  have hnegative : (s % 2 == 1) = negative := by cases negative <;> rfl
  simp only [decode, Nat.pow_eq, hbits, hfraction', hquotient, hbiased, pow_add,
    ← Nat.div_div_eq_div_mul, hsign, hnegative, ← hU, ← hE, beq_iff_eq]

theorem decode_infinityBits (negative : Bool) :
    f.decode (f.infinityBits negative) = .infinite negative := by
  have hmax : f.maxBiased < 2 ^ f.exponentBits := by have := maxBiased_add_one f; omega
  have hbits : f.infinityBits negative = f.signBit negative + f.maxBiased * 2 ^ f.fractionBits + 0 := by
    simp [infinityBits, Nat.pow_eq]
  rw [hbits, decode_fields negative hmax (unit_pos f)]
  simp

/-- The pattern of a zero of either sign. -/
theorem decode_signBit (hf : f.WellFormed) (negative : Bool) :
    f.decode (f.signBit negative) = .finite negative 0 f.minExponent := by
  have h := decode_fields (f := f) negative (Nat.two_pow_pos _) (unit_pos f)
  have hzero : (0 : Nat) ≠ f.maxBiased := by have := one_le_maxBiased hf; omega
  simp only [Nat.zero_mul, Nat.add_zero, if_neg hzero, if_true] at h
  exact h

/-- A finite pattern encodes its significand and exponent: a normal one with the top bit of its
significand set, a subnormal one at the least exponent. -/
theorem decode_encodeFinite (hf : f.WellFormed) (negative : Bool) {m : Nat} {q : Int}
    (hrep : f.Representable m q) (hnormal : 2 ^ f.fractionBits ≤ m ∨ q = f.minExponent) :
    f.decode (f.encodeFinite negative m q) = .finite negative m q := by
  have hU := unit_pos f
  have hm := hrep.lt_precision
  rw [two_pow_precision hf] at hm
  have hrange := maxExponent_sub_minExponent hf
  have hmin := hrep.minExponent_le
  have hmax := hrep.le_maxExponent
  have hbiased := maxBiased_add_one f
  unfold encodeFinite
  simp only [Nat.pow_eq]
  split
  · rename_i hsub
    have hq : q = f.minExponent := hnormal.resolve_left (by omega)
    have h := decode_fields (f := f) negative (Nat.two_pow_pos _) hsub
    have hzero : (0 : Nat) ≠ f.maxBiased := by have := one_le_maxBiased hf; omega
    simp only [Nat.zero_mul, Nat.add_zero, if_neg hzero, if_true] at h
    rw [h, hq]
  · rename_i hnorm
    have he : (q - f.minExponent + 1).toNat < 2 ^ f.exponentBits := by omega
    have h := decode_fields (f := f) negative he
      (show m - 2 ^ f.fractionBits < 2 ^ f.fractionBits by omega)
    have hne : (q - f.minExponent + 1).toNat ≠ f.maxBiased := by omega
    have hne' : (q - f.minExponent + 1).toNat ≠ 0 := by omega
    rw [if_neg hne, if_neg hne'] at h
    rw [h, Nat.sub_add_cancel (by omega)]
    congr 1
    omega

end Fields

section Quotient

/-- The floor quotient at an exponent: `num / den = (m + r / d) × 2^q` with `r < d`. -/
theorem scaledQuotient_spec {num den : Nat} (hden : 0 < den) {q : Int} {m r d : Nat}
    (h : scaledQuotient num den q = (m, r, d)) :
    0 < d ∧ r < d ∧ (num : ℚ) / den = (m + (r : ℚ) / d) * 2 ^ q := by
  unfold scaledQuotient at h
  split at h
  · rename_i hq
    simp only [Nat.pow_eq, Prod.mk.injEq] at h
    obtain ⟨rfl, rfl, rfl⟩ := h
    have hd : 0 < den * 2 ^ q.toNat := Nat.mul_pos hden (Nat.two_pow_pos _)
    refine ⟨hd, Nat.mod_lt _ hd, ?_⟩
    have hsplit : (num : ℚ) = (den * 2 ^ q.toNat : Nat) * (num / (den * 2 ^ q.toNat) : Nat) +
        (num % (den * 2 ^ q.toNat) : Nat) := by exact_mod_cast (Nat.div_add_mod _ _).symm
    have hpow : (2 : ℚ) ^ q = 2 ^ q.toNat := by rw [← zpow_natCast, Int.toNat_of_nonneg hq]
    rw [hpow, hsplit]
    push_cast
    field_simp
  · rename_i hq
    simp only [Nat.pow_eq, Prod.mk.injEq] at h
    obtain ⟨rfl, rfl, rfl⟩ := h
    refine ⟨hden, Nat.mod_lt _ hden, ?_⟩
    have hsplit : ((num * 2 ^ (-q).toNat : Nat) : ℚ) = den * (num * 2 ^ (-q).toNat / den : Nat) +
        (num * 2 ^ (-q).toNat % den : Nat) := by exact_mod_cast (Nat.div_add_mod _ _).symm
    have hpow : (2 : ℚ) ^ q = 1 / 2 ^ (-q).toNat := by
      rw [← zpow_natCast, Int.toNat_of_nonneg (by omega), zpow_neg, one_div, inv_inv]
    rw [hpow]
    push_cast at hsplit
    field_simp
    rw [← hsplit]

/-- The floor quotient at an exponent brackets the ratio between two neighbours of the grid of
that exponent. -/
theorem floor_bounds {num den : Nat} (hden : 0 < den) {q : Int} {m r d : Nat}
    (h : scaledQuotient num den q = (m, r, d)) :
    (m : ℚ) * 2 ^ q ≤ (num : ℚ) / den ∧ (num : ℚ) / den < (m + 1) * 2 ^ q := by
  obtain ⟨hd, hr, hvalue⟩ := scaledQuotient_spec hden h
  have hpow : (0 : ℚ) < 2 ^ q := zpow_pos (by norm_num) _
  have hfraction : (r : ℚ) / d < 1 := by
    rw [div_lt_one (by exact_mod_cast hd)]
    exact_mod_cast hr
  have hnonneg : (0 : ℚ) ≤ (r : ℚ) / d := by positivity
  rw [hvalue]
  constructor <;> nlinarith

end Quotient

section Exponent

/-- The exponent `roundRatio` first tries: the binary logarithm of the ratio, less the bits of
the significand after the first. -/
def estimate (f : BinaryFormat) (num den : Nat) : Int :=
  (Nat.log2 num : Int) - Nat.log2 den - (f.precision - 1 : Nat)

/-- The ratio lies between `2^(precision - 2)` and `2^precision` units of the estimate. -/
theorem estimate_bounds (hf : f.WellFormed) {num den : Nat} (hnum : num ≠ 0) (hden : den ≠ 0) :
    (2 : ℚ) ^ (f.precision - 2) * 2 ^ f.estimate num den < (num : ℚ) / den ∧
      (num : ℚ) / den < 2 ^ f.precision * 2 ^ f.estimate num den := by
  have hp := hf.two_le_precision
  have hnum_lo : ((2 ^ num.log2 : Nat) : ℚ) ≤ num := by exact_mod_cast Nat.log2_self_le hnum
  have hnum_hi : (num : ℚ) < ((2 ^ (num.log2 + 1) : Nat) : ℚ) := by exact_mod_cast Nat.lt_log2_self
  have hden_lo : ((2 ^ den.log2 : Nat) : ℚ) ≤ den := by exact_mod_cast Nat.log2_self_le hden
  have hden_hi : (den : ℚ) < ((2 ^ (den.log2 + 1) : Nat) : ℚ) := by exact_mod_cast Nat.lt_log2_self
  have hden_pos : (0 : ℚ) < den := by exact_mod_cast Nat.pos_of_ne_zero hden
  push_cast at hnum_lo hnum_hi hden_lo hden_hi
  have hlow : (2 : ℚ) ^ (f.precision - 2) * 2 ^ f.estimate num den =
      2 ^ num.log2 / 2 ^ (den.log2 + 1) := by
    rw [estimate, ← zpow_natCast, ← zpow_add₀ (by norm_num), div_eq_mul_inv, ← zpow_natCast,
      ← zpow_natCast, ← zpow_neg, ← zpow_add₀ (by norm_num)]
    congr 1
    push_cast
    omega
  have hhigh : (2 : ℚ) ^ f.precision * 2 ^ f.estimate num den =
      2 ^ (num.log2 + 1) / 2 ^ den.log2 := by
    rw [estimate, ← zpow_natCast, ← zpow_add₀ (by norm_num), div_eq_mul_inv, ← zpow_natCast,
      ← zpow_natCast, ← zpow_neg, ← zpow_add₀ (by norm_num)]
    congr 1
    push_cast
    omega
  have hnum_pos : (0 : ℚ) < num := by exact_mod_cast Nat.pos_of_ne_zero hnum
  rw [hlow, hhigh]
  constructor
  · calc (2 : ℚ) ^ num.log2 / 2 ^ (den.log2 + 1) ≤ num / 2 ^ (den.log2 + 1) := by gcongr
      _ < num / den := by gcongr
  · calc (num : ℚ) / den ≤ num / 2 ^ den.log2 := by gcongr
      _ < 2 ^ (num.log2 + 1) / 2 ^ den.log2 := by gcongr

/-- The exponent at which the floor quotient has `precision` bits: the estimate, or one less
when the floor quotient at the estimate falls short of `2^(precision - 1)`. -/
def precisionExponent (f : BinaryFormat) (num den : Nat) : Int :=
  if (scaledQuotient num den (f.estimate num den)).1 < Nat.pow 2 (f.precision - 1) then
    f.estimate num den - 1
  else f.estimate num den

theorem two_pow_pred (hf : f.WellFormed) : (2 : ℚ) ^ f.precision = 2 ^ (f.precision - 1) * 2 := by
  rw [← pow_succ, Nat.sub_add_cancel (by have := hf.two_le_precision; omega)]

/-- At the precision exponent the ratio has `precision` bits: it lies between `2^(precision-1)`
and `2^precision` units. -/
theorem precisionExponent_spec (hf : f.WellFormed) {num den : Nat} (hnum : num ≠ 0)
    (hden : den ≠ 0) :
    (2 : ℚ) ^ (f.precision - 1) * 2 ^ f.precisionExponent num den ≤ (num : ℚ) / den ∧
      (num : ℚ) / den < 2 ^ f.precision * 2 ^ f.precisionExponent num den := by
  obtain ⟨hlow, hhigh⟩ := estimate_bounds hf hnum hden
  rcases hsq : scaledQuotient num den (f.estimate num den) with ⟨m, r, d⟩
  obtain ⟨hfloor, hceil⟩ := floor_bounds (Nat.pos_of_ne_zero hden) hsq
  have hpred : (2 : ℚ) ^ (f.precision - 1) = 2 ^ (f.precision - 2) * 2 := by
    rw [← pow_succ]
    congr 1
    have := hf.two_le_precision
    omega
  have hstep : (2 : ℚ) ^ (f.estimate num den - 1) * 2 = 2 ^ f.estimate num den := by
    rw [zpow_sub_one₀ (by norm_num)]
    field_simp
  have hpow : (0 : ℚ) < 2 ^ f.estimate num den := zpow_pos (by norm_num) _
  unfold precisionExponent
  rw [hsq]
  split
  · rename_i hshort
    have hm : (m : ℚ) + 1 ≤ 2 ^ (f.precision - 1) := by
      have : m + 1 ≤ 2 ^ (f.precision - 1) := by simpa [Nat.pow_eq] using hshort
      exact_mod_cast this
    constructor
    · calc (2 : ℚ) ^ (f.precision - 1) * 2 ^ (f.estimate num den - 1)
          = 2 ^ (f.precision - 2) * 2 ^ f.estimate num den := by rw [hpred, ← hstep]; ring
        _ ≤ (num : ℚ) / den := hlow.le
    · calc (num : ℚ) / den < (m + 1) * 2 ^ f.estimate num den := hceil
        _ ≤ 2 ^ (f.precision - 1) * 2 ^ f.estimate num den := by gcongr
        _ = 2 ^ f.precision * 2 ^ (f.estimate num den - 1) := by
          rw [two_pow_pred hf, ← hstep]; ring
  · rename_i hfull
    have hm : (2 : ℚ) ^ (f.precision - 1) ≤ m := by
      have : 2 ^ (f.precision - 1) ≤ m := by simpa [Nat.pow_eq] using hfull
      exact_mod_cast this
    exact ⟨le_trans (by gcongr) hfloor, hhigh⟩

end Exponent

section Grid

/-- No finite magnitude lies strictly between the neighbours `m × 2^q` and `(m + 1) × 2^q` when
the grid is that of the least exponent or `m` has `precision` bits. -/
theorem grid_gap (hf : f.WellFormed) {m : Nat} {q : Int}
    (hgrid : q = f.minExponent ∨ 2 ^ (f.precision - 1) ≤ m)
    {m' : Nat} {q' : Int} (hrep : f.Representable m' q') :
    magnitude m' q' ≤ m * 2 ^ q ∨ (m + 1) * 2 ^ q ≤ magnitude m' q' := by
  by_cases hq : q ≤ q'
  · -- a finite magnitude at an exponent at least `q` is a multiple of the grid step
    obtain ⟨k, hk⟩ : ∃ k : Nat, q' = q + k := ⟨(q' - q).toNat, by omega⟩
    have hmagnitude : magnitude m' q' = ((m' * 2 ^ k : Nat) : ℚ) * 2 ^ q := by
      rw [magnitude, hk, zpow_add₀ (by norm_num), zpow_natCast]
      push_cast
      ring
    rw [hmagnitude]
    rcases le_or_gt (m' * 2 ^ k) m with hle | hlt
    · left
      have hleQ : ((m' * 2 ^ k : Nat) : ℚ) ≤ m := by exact_mod_cast hle
      gcongr
    · right
      have hltQ : (m : ℚ) + 1 ≤ ((m' * 2 ^ k : Nat) : ℚ) := by exact_mod_cast hlt
      gcongr
  · -- below the grid exponent, a finite magnitude is below the least one with `precision` bits
    have hm : 2 ^ (f.precision - 1) ≤ m :=
      hgrid.resolve_left (by have := hrep.minExponent_le; omega)
    have hm' : (m' : ℚ) ≤ 2 ^ f.precision := by exact_mod_cast hrep.lt_precision.le
    have hmQ : (2 : ℚ) ^ (f.precision - 1) ≤ m := by exact_mod_cast hm
    left
    calc magnitude m' q' = m' * 2 ^ q' := rfl
      _ ≤ m' * 2 ^ (q - 1) := by
        gcongr
        · norm_num
        · omega
      _ ≤ 2 ^ f.precision * 2 ^ (q - 1) := by gcongr
      _ = 2 ^ (f.precision - 1) * 2 ^ q := by
        rw [two_pow_pred hf, zpow_sub_one₀ (by norm_num)]
        ring
      _ ≤ m * 2 ^ q := by gcongr

/-- A magnitude between two neighbours on the grid, and at least as close to `x` as both, is at
least as close to `x` as every finite magnitude. -/
theorem nearest_of_grid (hf : f.WellFormed) {x v : ℚ} {m : Nat} {q : Int}
    (hgrid : q = f.minExponent ∨ 2 ^ (f.precision - 1) ≤ m) (hbelow : |v - x| ≤ x - m * 2 ^ q)
    (habove : |v - x| ≤ (m + 1) * 2 ^ q - x) {m' : Nat} {q' : Int}
    (hrep : f.Representable m' q') : |v - x| ≤ |magnitude m' q' - x| := by
  rcases grid_gap hf hgrid hrep with hle | hge
  · calc |v - x| ≤ x - m * 2 ^ q := hbelow
      _ ≤ x - magnitude m' q' := by linarith
      _ ≤ |magnitude m' q' - x| := by rw [abs_sub_comm]; exact le_abs_self _
  · calc |v - x| ≤ (m + 1) * 2 ^ q - x := habove
      _ ≤ magnitude m' q' - x := by linarith
      _ ≤ |magnitude m' q' - x| := le_abs_self _

/-- The rounding decision of `roundRatio`: up when the remainder is above half the divisor, or
exactly half with an odd quotient. -/
def roundsUp (m r d : Nat) : Bool := 2 * r > d || (2 * r == d && m % 2 == 1)

/-- Rounding the floor quotient `m` with remainder `r` over `d` picks the nearer neighbour, and
on a tie the even one. -/
theorem roundsUp_spec {m r d : Nat} (hd : 0 < d) (hr : r < d) {x : ℚ} {q : Int}
    (hx : x = (m + (r : ℚ) / d) * 2 ^ q) :
    let v : ℚ := ((if roundsUp m r d then m + 1 else m : Nat) : ℚ) * 2 ^ q
    |v - x| ≤ x - m * 2 ^ q ∧ |v - x| ≤ (m + 1) * 2 ^ q - x ∧
      (roundsUp m r d = true → (m + 1 / 2) * 2 ^ q ≤ x) ∧
      (roundsUp m r d = false →
        x < (m + 1 / 2) * 2 ^ q ∨ (x = (m + 1 / 2) * 2 ^ q ∧ m % 2 = 0)) := by
  intro v
  have hpow : (0 : ℚ) < 2 ^ q := zpow_pos (by norm_num) _
  have hdQ : (0 : ℚ) < d := by exact_mod_cast hd
  have hrQ : (r : ℚ) < d := by exact_mod_cast hr
  have hr0 : (0 : ℚ) ≤ r := by positivity
  have hfrac : x - m * 2 ^ q = (r : ℚ) / d * 2 ^ q := by rw [hx]; ring
  have hfrac' : (m + 1) * 2 ^ q - x = (1 - (r : ℚ) / d) * 2 ^ q := by rw [hx]; ring
  have hhalf : x - (m + 1 / 2) * 2 ^ q = ((r : ℚ) / d - 1 / 2) * 2 ^ q := by rw [hx]; ring
  have ht1 : (r : ℚ) / d < 1 := by rwa [div_lt_one hdQ]
  have ht0 : (0 : ℚ) ≤ (r : ℚ) / d := by positivity
  by_cases hup : roundsUp m r d = true
  · -- up: the remainder is at least half the divisor
    have hge : d ≤ 2 * r := by
      simp only [roundsUp, Bool.or_eq_true, decide_eq_true_eq, Bool.and_eq_true, beq_iff_eq] at hup
      omega
    have hhalfQ : (1 : ℚ) / 2 ≤ (r : ℚ) / d := by
      rw [div_le_div_iff₀ (by norm_num) hdQ]
      exact_mod_cast (by omega : 1 * d ≤ r * 2)
    have hv : v - x = (1 - (r : ℚ) / d) * 2 ^ q := by
      simp only [v, hup, if_true]
      push_cast
      rw [hx]
      ring
    have hvabs : |v - x| = (1 - (r : ℚ) / d) * 2 ^ q := by
      rw [hv, abs_of_nonneg (by nlinarith)]
    refine ⟨by rw [hvabs, hfrac]; nlinarith, by rw [hvabs, hfrac'], fun _ => ?_, fun h => ?_⟩
    · nlinarith
    · rw [hup] at h
      cases h
  · -- down: the remainder is at most half the divisor, and exactly half only for an even `m`
    have hfalse : roundsUp m r d = false := by simpa using hup
    have hle : 2 * r ≤ d := by
      simp only [roundsUp, Bool.or_eq_false_iff, decide_eq_false_iff_not, Bool.and_eq_false_iff,
        beq_eq_false_iff_ne] at hfalse
      omega
    have hhalfQ : (r : ℚ) / d ≤ 1 / 2 := by
      rw [div_le_div_iff₀ hdQ (by norm_num)]
      exact_mod_cast (by omega : r * 2 ≤ 1 * d)
    have hv : v - x = -((r : ℚ) / d * 2 ^ q) := by
      simp only [v, hfalse, Bool.false_eq_true, if_false]
      rw [hx]
      ring
    have hvabs : |v - x| = (r : ℚ) / d * 2 ^ q := by
      rw [hv, abs_neg, abs_of_nonneg (by positivity)]
    refine ⟨by rw [hvabs, hfrac], by rw [hvabs, hfrac']; nlinarith, fun h => ?_, fun _ => ?_⟩
    · rw [hfalse] at h
      cases h
    · by_cases htie : 2 * r = d
      · right
        have hmod : m % 2 = 0 := by
          simp only [roundsUp, Bool.or_eq_false_iff, decide_eq_false_iff_not, Bool.and_eq_false_iff,
            beq_eq_false_iff_ne] at hfalse
          omega
        refine ⟨?_, hmod⟩
        have hexact : (r : ℚ) / d = 1 / 2 := by
          rw [div_eq_div_iff hdQ.ne' (by norm_num)]
          exact_mod_cast (by omega : r * 2 = 1 * d)
        have hzero : x - (m + 1 / 2) * 2 ^ q = 0 := by rw [hhalf, hexact]; ring
        linarith
      · left
        have hstrict : (r : ℚ) / d < 1 / 2 := by
          rw [div_lt_div_iff₀ hdQ (by norm_num)]
          exact_mod_cast (by omega : r * 2 < 1 * d)
        nlinarith

end Grid

/-- The significand and exponent that `roundRatio` settles on for a non-zero ratio: the floor
quotient at the working exponent rounded to nearest, renormalized when rounding carries it to
`2^precision`. -/
def roundedPair (f : BinaryFormat) (num den : Nat) : Nat × Int :=
  let q := max (f.precisionExponent num den) f.minExponent
  let (m, r, d) := scaledQuotient num den q
  let m := if roundsUp m r d then m + 1 else m
  if m == Nat.pow 2 f.precision then (Nat.pow 2 (f.precision - 1), q + 1) else (m, q)

/-- `roundRatio` encodes the pair it settles on, or infinity beyond the largest exponent. -/
theorem roundRatio_eq (negative : Bool) {num : Nat} (den : Nat) (hnum : num ≠ 0) :
    f.roundRatio negative num den =
      match f.roundedPair num den with
      | (m, q) => if q > f.maxExponent then f.infinityBits negative else f.encodeFinite negative m q := by
  unfold roundRatio
  rw [if_neg hnum]
  rfl

/-- At the working exponent, the maximum of the precision exponent and the least exponent, the
floor quotient has at most `precision` bits, and exactly that many unless the exponent is the
least one. -/
theorem working_floor {x : ℚ} {q0 q : Int} (hq : max q0 f.minExponent = q)
    (hlow0 : 2 ^ (f.precision - 1) * 2 ^ q0 ≤ x) (hhigh0 : x < 2 ^ f.precision * 2 ^ q0)
    {m : Nat} (hlo : m * 2 ^ q ≤ x) (hhi : x < (m + 1) * 2 ^ q) :
    m < 2 ^ f.precision ∧ (q = f.minExponent ∨ 2 ^ (f.precision - 1) ≤ m) := by
  have hpow : (0 : ℚ) < 2 ^ q := zpow_pos (by norm_num) _
  constructor
  · have hmono : (2 : ℚ) ^ q0 ≤ 2 ^ q := zpow_le_zpow_right₀ (by norm_num) (by omega)
    have hlt : (m : ℚ) * 2 ^ q < 2 ^ f.precision * 2 ^ q :=
      lt_of_le_of_lt hlo (lt_of_lt_of_le hhigh0 (by gcongr))
    have : (m : ℚ) < 2 ^ f.precision := lt_of_mul_lt_mul_right hlt hpow.le
    exact_mod_cast this
  · by_cases hmin : q0 < f.minExponent
    · left
      omega
    · right
      have hq0 : q0 = q := by omega
      subst hq0
      have hlt : (2 : ℚ) ^ (f.precision - 1) * 2 ^ q0 < (m + 1) * 2 ^ q0 :=
        lt_of_le_of_lt hlow0 hhi
      have : (2 : ℚ) ^ (f.precision - 1) < m + 1 := lt_of_mul_lt_mul_right hlt hpow.le
      have : 2 ^ (f.precision - 1) < m + 1 := by exact_mod_cast this
      omega

theorem minExponent_le_maxExponent (hf : f.WellFormed) : f.minExponent ≤ f.maxExponent := by
  have := maxExponent_sub_minExponent hf
  have := one_le_maxBiased hf
  have hbiased := maxBiased_add_one f
  have : 2 ^ 2 ≤ 2 ^ f.exponentBits := Nat.pow_le_pow_right (by norm_num) hf.two_le_exponentBits
  omega

/-- Below `2^precision - 1/2` units of an exponent no larger than the largest one, a magnitude is
below the overflow threshold. -/
theorem lt_overflowThreshold {x y : ℚ} {q : Int} (hq : q ≤ f.maxExponent) (hy0 : 0 ≤ y)
    (hy : y ≤ 2 ^ f.precision - 1 / 2) (hx : x < y * 2 ^ q) : x < f.overflowThreshold :=
  calc x < y * 2 ^ q := hx
    _ ≤ y * 2 ^ f.maxExponent := by gcongr; norm_num
    _ ≤ f.overflowThreshold := by unfold overflowThreshold; gcongr

/-- From `2^(precision - 1)` units of an exponent beyond the largest one, a magnitude is at or
above the overflow threshold. -/
theorem overflowThreshold_le (hf : f.WellFormed) {x : ℚ} {m : Nat} {q : Int}
    (hq : f.maxExponent < q) (hm : 2 ^ (f.precision - 1) ≤ m) (hx : m * 2 ^ q ≤ x) :
    f.overflowThreshold ≤ x := by
  have hmQ : (2 : ℚ) ^ (f.precision - 1) ≤ m := by exact_mod_cast hm
  calc f.overflowThreshold ≤ 2 ^ f.precision * 2 ^ f.maxExponent := by
        unfold overflowThreshold
        gcongr
        norm_num
    _ = 2 ^ (f.precision - 1) * 2 ^ (f.maxExponent + 1) := by
        rw [two_pow_pred hf, zpow_add_one₀ (by norm_num)]
        ring
    _ ≤ m * 2 ^ q := by
        gcongr
        · norm_num
        · omega
    _ ≤ x := hx

/-- What `roundedPair` settles on for a positive ratio `x`: a significand below `2^precision`,
normal or at the least exponent; beyond the largest exponent only when `x` is at or above the
overflow threshold, and otherwise a magnitude as close to `x` as every finite magnitude. -/
theorem roundedPair_spec (hf : f.WellFormed) {num den : Nat} (hnum : num ≠ 0) (hden : 0 < den)
    {mf : Nat} {qf : Int} (hpair : f.roundedPair num den = (mf, qf)) :
    mf < 2 ^ f.precision ∧ f.minExponent ≤ qf ∧
      (2 ^ f.fractionBits ≤ mf ∨ qf = f.minExponent) ∧
      (f.maxExponent < qf → f.overflowThreshold ≤ (num : ℚ) / den) ∧
      (qf ≤ f.maxExponent → (num : ℚ) / den < f.overflowThreshold ∧
        ∀ m' q', f.Representable m' q' →
          |magnitude mf qf - (num : ℚ) / den| ≤ |magnitude m' q' - (num : ℚ) / den|) := by
  obtain ⟨hlow0, hhigh0⟩ := precisionExponent_spec hf hnum hden.ne'
  unfold roundedPair at hpair
  generalize f.precisionExponent num den = q0 at hlow0 hhigh0 hpair
  generalize hq : max q0 f.minExponent = q at hpair
  rcases hsq : scaledQuotient num den q with ⟨m, r, d⟩
  simp only [hsq] at hpair
  obtain ⟨hd, hr, hx⟩ := scaledQuotient_spec hden hsq
  obtain ⟨hlo, hhi⟩ := floor_bounds hden hsq
  generalize (num : ℚ) / den = x at hlow0 hhigh0 hx hlo hhi ⊢
  obtain ⟨hm, hgrid⟩ := working_floor hq hlow0 hhigh0 hlo hhi
  obtain ⟨hbelow, habove, hup, hdown⟩ := roundsUp_spec hd hr hx
  have hqmin : f.minExponent ≤ q := by omega
  have hrange := minExponent_le_maxExponent hf
  -- beyond the largest exponent the working exponent is not the least one, so `m` is normal
  have hoverflow : f.maxExponent < q → f.overflowThreshold ≤ x := fun hlt =>
    overflowThreshold_le hf hlt (hgrid.resolve_left (by omega)) hlo
  have hnormal : 2 ^ f.fractionBits ≤ m ∨ q = f.minExponent := hgrid.symm
  cases hround : roundsUp m r d
  · -- rounded down: the floor quotient itself, below the threshold unless the exponent is
    -- already too large
    simp only [hround, Bool.false_eq_true, if_false, Nat.pow_eq, beq_iff_eq,
      if_neg (Nat.ne_of_lt hm)] at hpair hbelow habove
    obtain ⟨rfl, rfl⟩ := Prod.mk.inj hpair
    refine ⟨hm, hqmin, hnormal, hoverflow, fun hle => ⟨?_, fun m' q' hrep =>
      nearest_of_grid hf hgrid hbelow habove hrep⟩⟩
    rcases hdown hround with hlt | ⟨heq, heven⟩
    · exact lt_overflowThreshold hle (by positivity) (by
        have : (m : ℚ) + 1 ≤ 2 ^ f.precision := by exact_mod_cast hm
        linarith) hlt
    · -- a tie kept on an even `m`, which is then at most `2^precision - 2`
      have hP : 2 ^ f.precision = 2 * 2 ^ f.fractionBits := two_pow_precision hf
      have hm2 : (m : ℚ) + 2 ≤ 2 ^ f.precision := by exact_mod_cast (by omega : m + 2 ≤ 2 ^ f.precision)
      exact lt_overflowThreshold hle (by positivity) (by linarith) hhi
  · simp only [hround, if_true, Nat.pow_eq, beq_iff_eq] at hpair hbelow habove
    have hup := hup hround
    by_cases hcarry : m + 1 = 2 ^ f.precision
    · -- carried to `2^precision`: renormalized to `2^(precision - 1)` one exponent up
      rw [if_pos hcarry] at hpair
      obtain ⟨rfl, rfl⟩ := Prod.mk.inj hpair
      have hmQ : (m : ℚ) + 1 = 2 ^ f.precision := by exact_mod_cast hcarry
      have hsame : magnitude (2 ^ (f.precision - 1)) (q + 1) = ((m + 1 : Nat) : ℚ) * 2 ^ q := by
        rw [magnitude, zpow_add_one₀ (by norm_num)]
        push_cast
        rw [hmQ, two_pow_pred hf]
        ring
      refine ⟨Nat.pow_lt_pow_right (by norm_num) (by have := hf.two_le_precision; omega),
        by omega, Or.inl le_rfl, fun hlt => ?_, fun hle => ⟨?_, fun m' q' hrep => ?_⟩⟩
      · calc f.overflowThreshold ≤ (2 ^ f.precision - 1 / 2) * 2 ^ q := by
              unfold overflowThreshold
              gcongr
              · linarith [(one_le_pow₀ (by norm_num) : (1 : ℚ) ≤ 2 ^ f.precision)]
              · norm_num
              · omega
          _ ≤ x := by rw [← hmQ]; linarith
      · have hx' : x < 2 ^ (f.precision - 1) * 2 ^ (q + 1) := by
          calc x < (m + 1) * 2 ^ q := hhi
            _ = 2 ^ (f.precision - 1) * 2 ^ (q + 1) := by
              rw [hmQ, two_pow_pred hf, zpow_add_one₀ (by norm_num)]
              ring
        exact lt_overflowThreshold hle (by positivity)
          (by linarith [two_pow_pred hf, (one_le_pow₀ (by norm_num) : (1 : ℚ) ≤ 2 ^ (f.precision - 1))])
          hx'
      · rw [hsame]
        exact nearest_of_grid hf hgrid hbelow habove hrep
    · -- no carry: the successor of the floor quotient, still below `2^precision`
      rw [if_neg hcarry] at hpair
      obtain ⟨rfl, rfl⟩ := Prod.mk.inj hpair
      refine ⟨by omega, hqmin, by omega, hoverflow, fun hle => ⟨?_, fun m' q' hrep =>
        nearest_of_grid hf hgrid hbelow habove hrep⟩⟩
      have hm1 : (m : ℚ) + 1 + 1 ≤ 2 ^ f.precision := by
        exact_mod_cast (by omega : m + 1 + 1 ≤ 2 ^ f.precision)
      exact lt_overflowThreshold hle (by positivity) (by linarith) hhi

/-- From the overflow threshold on, infinity rounds to nearest. -/
theorem infinityBits_roundsToNearest (negative : Bool) {x : ℚ} (hx : f.overflowThreshold ≤ x) :
    f.RoundsToNearest negative x (f.infinityBits negative) :=
  Or.inl ⟨hx, decode_infinityBits negative⟩

/-- Up to half the least subnormal magnitude, zero rounds to nearest: every other finite
magnitude is at least twice as far. -/
theorem signBit_roundsToNearest (hf : f.WellFormed) (negative : Bool) {x : ℚ} (hx0 : 0 ≤ x)
    (hx : 2 * x ≤ 2 ^ f.minExponent) : f.RoundsToNearest negative x (f.signBit negative) := by
  have hmin : (2 : ℚ) ^ f.minExponent ≤ 2 ^ f.maxExponent :=
    zpow_le_zpow_right₀ (by norm_num) (minExponent_le_maxExponent hf)
  have hpow : (0 : ℚ) < 2 ^ f.minExponent := zpow_pos (by norm_num) _
  have hbelow : x < f.overflowThreshold := by
    have : (1 : ℚ) ≤ 2 ^ f.precision - 1 / 2 := by
      have : (2 : ℚ) ≤ 2 ^ f.precision := by
        calc (2 : ℚ) = 2 ^ 1 := by norm_num
          _ ≤ 2 ^ f.precision := pow_le_pow_right₀ (by norm_num) (by have := hf.two_le_precision; omega)
      linarith
    unfold overflowThreshold
    nlinarith
  refine Or.inr ⟨hbelow, 0, f.minExponent, decode_signBit hf negative,
    ⟨Nat.two_pow_pos _, le_rfl, minExponent_le_maxExponent hf⟩, fun m' q' hrep => ?_⟩
  rw [magnitude, Nat.cast_zero, zero_mul, zero_sub, abs_neg, abs_of_nonneg hx0]
  rcases Nat.eq_zero_or_pos m' with rfl | hm'
  · simp [magnitude, abs_of_nonneg hx0]
  · -- a non-zero finite magnitude is at least the least subnormal one
    have hle : (2 : ℚ) ^ f.minExponent ≤ magnitude m' q' :=
      calc (2 : ℚ) ^ f.minExponent ≤ 2 ^ q' := zpow_le_zpow_right₀ (by norm_num) hrep.minExponent_le
        _ = 1 * 2 ^ q' := (one_mul _).symm
        _ ≤ magnitude m' q' := by
          unfold magnitude
          gcongr
          exact_mod_cast hm'
    calc x ≤ magnitude m' q' - x := by linarith
      _ ≤ |magnitude m' q' - x| := le_abs_self _

/-- `roundRatio` rounds every ratio of naturals to nearest, in every well-formed format: the
signed zero for a zero numerator, infinity from the overflow threshold on, and otherwise the
finite pattern of the pair `roundedPair` settles on. -/
theorem roundRatio_roundsToNearest (hf : f.WellFormed) (negative : Bool) (num : Nat) {den : Nat}
    (hden : 0 < den) :
    f.RoundsToNearest negative ((num : ℚ) / den) (f.roundRatio negative num den) := by
  by_cases hnum : num = 0
  · subst hnum
    rw [roundRatio, if_pos rfl, Nat.cast_zero, zero_div]
    exact signBit_roundsToNearest hf negative le_rfl (by simp; positivity)
  · rw [roundRatio_eq negative den hnum]
    rcases hpair : f.roundedPair num den with ⟨m, q⟩
    obtain ⟨hm, hmin, hnormal, hoverflow, hnearest⟩ := roundedPair_spec hf hnum hden hpair
    dsimp only
    split
    · rename_i hlt
      exact infinityBits_roundsToNearest negative (hoverflow hlt)
    · rename_i hle
      have hrep : f.Representable m q := ⟨hm, hmin, not_lt.mp hle⟩
      obtain ⟨hbelow, hclosest⟩ := hnearest hrep.le_maxExponent
      exact Or.inr ⟨hbelow, m, q, decode_encodeFinite hf negative hrep hnormal, hrep, hclosest⟩

section Decimal

/-! Decimal magnitudes `digits × 10^exp10`, bracketed between powers of ten by the number of
digits; far outside the range of the format they are decided without the power of ten. -/

/-- A non-zero number of `n` digits, scaled by `10^e`, lies between `10^(n - 1 + e)` and
`10^(n + e)`. -/
theorem pow_le_scaled {digits : Nat} (hd : digits ≠ 0) (exp10 : Int) :
    (10 : ℚ) ^ ((Nat.decimalLength digits : Int) - 1 + exp10) ≤ digits * 10 ^ exp10 ∧
      (digits : ℚ) * 10 ^ exp10 < 10 ^ ((Nat.decimalLength digits : Int) + exp10) := by
  rw [decimalLength_eq]
  have hlen : 0 < (Nat.toDigits 10 digits).length := Nat.length_toDigits_pos
  have hlo : ((10 ^ ((Nat.toDigits 10 digits).length - 1) : Nat) : ℚ) ≤ digits := by
    exact_mod_cast pow_length_toDigits_le hd
  have hhi : (digits : ℚ) < ((10 ^ (Nat.toDigits 10 digits).length : Nat) : ℚ) := by
    exact_mod_cast lt_pow_length_toDigits digits
  have hpow : (0 : ℚ) < 10 ^ exp10 := zpow_pos (by norm_num) _
  push_cast at hlo hhi
  constructor
  · have hpred : ((Nat.toDigits 10 digits).length : Int) - 1 =
        ((Nat.toDigits 10 digits).length - 1 : Nat) := by omega
    rw [zpow_add₀ (by norm_num), hpred, zpow_natCast]
    gcongr
  · rw [zpow_add₀ (by norm_num), zpow_natCast]
    gcongr

/-- `roundDecimal` rounds `digits × 10^exp10` to nearest in every well-formed format that
overflows below `10^400` and whose least subnormal magnitude is at least `2 × 10^-401`. -/
theorem roundDecimal_roundsToNearest (hf : f.WellFormed)
    (hlarge : f.overflowThreshold ≤ 10 ^ 400)
    (hsmall : 2 * (10 : ℚ) ^ (-401 : Int) ≤ 2 ^ f.minExponent)
    (negative : Bool) (digits : Nat) (exp10 : Int) :
    f.RoundsToNearest negative (digits * 10 ^ exp10) (f.roundDecimal negative digits exp10) := by
  unfold roundDecimal
  by_cases hzero : digits = 0
  · subst hzero
    rw [if_pos rfl, Nat.cast_zero, zero_mul]
    exact signBit_roundsToNearest hf negative le_rfl (by simp; positivity)
  rw [if_neg hzero]
  obtain ⟨hlo, hhi⟩ := pow_le_scaled hzero exp10
  dsimp only
  split
  · -- at least `10^400`, so at or above the overflow threshold
    rename_i hover
    refine infinityBits_roundsToNearest negative (hlarge.trans (le_trans ?_ hlo))
    rw [← zpow_natCast]
    exact zpow_le_zpow_right₀ (by norm_num) (by push_cast; omega)
  split
  · -- below `10^-401`, so within half the least subnormal magnitude
    rename_i hunder
    refine signBit_roundsToNearest hf negative (by positivity) (le_trans ?_ hsmall)
    have hsmaller : (10 : ℚ) ^ ((Nat.decimalLength digits : Int) + exp10) ≤ 10 ^ (-401 : Int) :=
      zpow_le_zpow_right₀ (by norm_num) (by omega)
    linarith
  split
  · rename_i hexp
    obtain ⟨k, rfl⟩ := Int.eq_ofNat_of_zero_le hexp
    have h := roundRatio_roundsToNearest hf negative (digits * Nat.pow 10 k) one_pos
    have hvalue : ((digits * Nat.pow 10 k : Nat) : ℚ) / (1 : Nat) = digits * 10 ^ (k : Int) := by
      rw [zpow_natCast, Nat.pow_eq]
      push_cast
      ring
    rwa [hvalue] at h
  · rename_i hexp
    obtain ⟨k, rfl⟩ : ∃ k : Nat, exp10 = -(k : Int) := ⟨(-exp10).toNat, by omega⟩
    have h := roundRatio_roundsToNearest hf negative digits
      (show 0 < Nat.pow 10 k from Nat.pow_pos (by norm_num))
    have hvalue : (digits : ℚ) / (Nat.pow 10 k : Nat) = digits * 10 ^ (-(k : Int)) := by
      rw [zpow_neg, zpow_natCast, Nat.pow_eq, div_eq_mul_inv]
      push_cast
      rfl
    simpa only [neg_neg, Int.toNat_natCast, hvalue] using h

/-- Thirty-two bits take at most ten decimal digits. -/
theorem two_pow_le_ten_pow (k : Nat) : (2 : ℚ) ^ (32 * k) ≤ 10 ^ (10 * k) := by
  rw [pow_mul, pow_mul]
  exact pow_le_pow_left₀ (by norm_num) (by norm_num) k

theorem binary64_overflowThreshold_le : binary64.overflowThreshold ≤ 10 ^ 400 := by
  have hmax : binary64.maxExponent = (971 : Nat) := by decide
  have hprecision : binary64.precision = 53 := rfl
  calc binary64.overflowThreshold ≤ 2 ^ 53 * 2 ^ 971 := by
        rw [overflowThreshold, hmax, hprecision, zpow_natCast]
        gcongr
        norm_num
    _ = 2 ^ (32 * 32) := by rw [← pow_add]
    _ ≤ 10 ^ (10 * 32) := two_pow_le_ten_pow 32
    _ ≤ 10 ^ 400 := pow_le_pow_right₀ (by norm_num) (by norm_num)

theorem binary64_minExponent_ge : 2 * (10 : ℚ) ^ (-401 : Int) ≤ 2 ^ binary64.minExponent := by
  have hmin : binary64.minExponent = -((1074 : Nat) : Int) := by decide
  have hbound : (2 : ℚ) * 2 ^ 1074 ≤ 10 ^ 401 :=
    calc (2 : ℚ) * 2 ^ 1074 ≤ 2 ^ (32 * 34) := by
          rw [← pow_succ']
          exact pow_le_pow_right₀ (by norm_num) (by norm_num)
      _ ≤ 10 ^ (10 * 34) := two_pow_le_ten_pow 34
      _ ≤ 10 ^ 401 := pow_le_pow_right₀ (by norm_num) (by norm_num)
  have hneg : (-401 : Int) = -((401 : Nat) : Int) := rfl
  rw [hmin, hneg, zpow_neg, zpow_neg, zpow_natCast, zpow_natCast, ← div_eq_mul_inv, ← one_div,
    div_le_div_iff₀ (by positivity) (by positivity), one_mul]
  exact hbound

/-- `roundDecimal` rounds to nearest double. -/
theorem binary64_roundDecimal (negative : Bool) (digits : Nat) (exp10 : Int) :
    binary64.RoundsToNearest negative (digits * 10 ^ exp10)
      (binary64.roundDecimal negative digits exp10) :=
  roundDecimal_roundsToNearest wellFormed_binary64 binary64_overflowThreshold_le
    binary64_minExponent_ge negative digits exp10

end Decimal

end BinaryFormat

end SparqlExpr
