import Mathlib
import SparqlExpr.Builtin.Cast
import SparqlExpr.Proofs.TermOrder

/-!
Rounding decimals to integers, exactly.

Every rounding of a decimal starts from `Decimal.truncate`, which writes the value rounded toward
zero at scale zero: a positive scale divides the mantissa by a power of ten, truncating, and a
scale of zero or less multiplies it. `Decimal.floor` and `Decimal.ceil` correct that truncation
by one where it went the wrong way, and `Decimal.roundHalfUp` is the floor of the value plus one
half. Each is stated through the rational value of a decimal, `Decimal.toRat`, so that the
statements hold for every mantissa and every scale, negative ones included.

The main statement is `decimal_rounding_exact`.
-/

namespace SparqlExpr

/-- A rational rounded toward zero: the ceiling of a negative number, else its floor. -/
def towardZero (x : ℚ) : ℤ := if x < 0 then ⌈x⌉ else ⌊x⌋

/-- The integer rounded toward zero lies between zero and the number, less than one away. -/
theorem towardZero_bounds (x : ℚ) :
    (0 ≤ x → (towardZero x : ℚ) ≤ x ∧ x < towardZero x + 1) ∧
      (x < 0 → x ≤ towardZero x ∧ (towardZero x : ℚ) < x + 1) := by
  refine ⟨fun hx => ?_, fun hx => ?_⟩
  · rw [towardZero, if_neg (not_lt.mpr hx)]
    exact ⟨Int.floor_le x, Int.lt_floor_add_one x⟩
  · rw [towardZero, if_pos hx]
    exact ⟨Int.le_ceil x, Int.ceil_lt_add_one x⟩

/-- Truncating division by a positive number rounds the quotient toward zero. -/
theorem tdiv_eq_towardZero (m : ℤ) (n : ℕ) (hn : 0 < n) :
    m.tdiv n = towardZero (m / n) := by
  have hnq : (0 : ℚ) < n := by exact_mod_cast hn
  by_cases hm : 0 ≤ m
  · have hq : ¬(m : ℚ) / n < 0 := not_lt.mpr (div_nonneg (by exact_mod_cast hm) hnq.le)
    rw [towardZero, if_neg hq, Rat.floor_intCast_div_natCast, Int.tdiv_eq_ediv_of_nonneg hm]
  · have hq : (m : ℚ) / n < 0 := div_neg_of_neg_of_pos (by exact_mod_cast not_le.mp hm) hnq
    -- a negative dividend: truncation is the negated quotient of its magnitude
    have hneg : m.tdiv n = -((-m).tdiv n) := by rw [Int.neg_tdiv, neg_neg]
    rw [towardZero, if_pos hq, Rat.ceil_intCast_div_natCast, hneg,
      Int.tdiv_eq_ediv_of_nonneg (by omega)]

@[simp] theorem towardZero_intCast (z : ℤ) : towardZero z = z := by
  unfold towardZero
  split <;> simp

namespace Decimal

theorem toRat_ofMk (m s : ℤ) : (⟨m, s⟩ : Decimal).toRat = m / 10 ^ s := rfl

@[simp] theorem toRat_one : Decimal.one.toRat = 1 := by
  simp [Decimal.one, toRat]

theorem toRat_half : (⟨5, 1⟩ : Decimal).toRat = 1 / 2 := by
  norm_num [toRat]

@[simp] theorem toRat_neg (d : Decimal) : d.neg.toRat = -d.toRat := by
  simp [neg, toRat, neg_div]

theorem mantissaAt_self (d : Decimal) : d.mantissaAt d.scale = d.mantissa := by
  simp [mantissaAt]

theorem mantissaAt_of_isZero {d : Decimal} (h : d.isZero = true) (s : Int) :
    d.mantissaAt s = 0 := by
  simp only [isZero, beq_iff_eq] at h
  simp [mantissaAt, h]

/-- Every sum is the aligned one, at the larger scale: a zero operand leaves the other one
rescaled to that scale, which is what adding its mantissa there gives. -/
theorem add_eq (a b : Decimal) :
    a.add b = ⟨a.mantissaAt (max a.scale b.scale) + b.mantissaAt (max a.scale b.scale),
      max a.scale b.scale⟩ := by
  unfold add
  split
  · rename_i hb
    rw [mantissaAt_of_isZero hb, add_zero]
    split
    · rename_i hlt
      rw [max_eq_right hlt.le]
      rfl
    · rename_i hge
      rw [max_eq_left (not_lt.mp hge), mantissaAt_self]
  split
  · rename_i ha
    rw [mantissaAt_of_isZero ha, zero_add]
    split
    · rename_i hlt
      rw [max_eq_left hlt.le]
      rfl
    · rename_i hge
      rw [max_eq_right (not_lt.mp hge), mantissaAt_self]
  · rfl

@[simp] theorem scale_add (a b : Decimal) : (a.add b).scale = max a.scale b.scale := by
  rw [add_eq]

/-- The sum of two decimals has the sum of their values: both mantissas are taken to the larger
scale. -/
theorem toRat_add (a b : Decimal) : (a.add b).toRat = a.toRat + b.toRat := by
  have hpos : (10 : ℚ) ^ max a.scale b.scale ≠ 0 := zpow_ne_zero _ (by norm_num)
  rw [add_eq, toRat_ofMk, Int.cast_add, add_div, mantissaAt_eq (le_max_left _ _),
    mantissaAt_eq (le_max_right _ _), mul_div_cancel_right₀ _ hpos,
    mul_div_cancel_right₀ _ hpos]

theorem toRat_sub (a b : Decimal) : (a.sub b).toRat = a.toRat - b.toRat := by
  rw [sub, toRat_add, toRat_neg, sub_eq_add_neg]

/-- Truncation writes the value rounded toward zero at scale zero. -/
theorem truncate_eq (d : Decimal) : d.truncate = ⟨towardZero d.toRat, 0⟩ := by
  unfold truncate
  split
  · rename_i hzero
    have hm : d.mantissa = 0 := beq_iff_eq.mp hzero
    simp [toRat, hm, towardZero]
  split
  · rename_i _ hscale
    -- a positive scale: the mantissa over a power of ten, truncated
    obtain ⟨k, hk⟩ : ∃ k : ℕ, d.scale = k := ⟨d.scale.toNat, by omega⟩
    have hnat : d.scale.toNat = k := by omega
    have hpow : Int.pow 10 d.scale.toNat = ((10 ^ k : ℕ) : ℤ) := by
      rw [hnat]
      push_cast
      rfl
    have hvalue : d.toRat = d.mantissa / ((10 ^ k : ℕ) : ℚ) := by
      rw [toRat, hk, zpow_natCast]
      push_cast
      rfl
    rw [hpow, tdiv_eq_towardZero _ _ (by positivity), ← hvalue]
  · rename_i _ hscale
    -- a scale of zero or less: the value is an integer, the mantissa times a power of ten
    obtain ⟨k, hk⟩ : ∃ k : ℕ, d.scale = -(k : ℤ) := ⟨(-d.scale).toNat, by omega⟩
    have hnat : (-d.scale).toNat = k := by omega
    have hvalue : d.toRat = ((d.mantissa * 10 ^ k : ℤ) : ℚ) := by
      rw [toRat, hk, zpow_neg, zpow_natCast, div_inv_eq_mul]
      push_cast
      rfl
    have hpow : Int.pow 10 (-d.scale).toNat = 10 ^ k := by
      rw [hnat]
      rfl
    rw [hvalue, towardZero_intCast, hpow]

theorem toRat_truncate (d : Decimal) : d.truncate.toRat = towardZero d.toRat := by
  rw [truncate_eq, toRat_ofMk, zpow_zero, div_one]

/-- The floor: the truncation, less one when it lies above the value. -/
theorem toRat_floor (d : Decimal) : d.floor.toRat = ⌊d.toRat⌋ := by
  have hbounds := towardZero_bounds d.toRat
  simp only [floor]
  rw [compare_eq_toRat, toRat_truncate]
  split
  · rename_i habove
    -- rounding toward zero went up, so the value is negative and not an integer
    have hlt : d.toRat < towardZero d.toRat := by
      simpa [beq_iff_eq, compare_gt_iff_gt] using habove
    have hneg : d.toRat < 0 := by
      by_contra hnonneg
      linarith [(hbounds.1 (not_lt.mp hnonneg)).1]
    have hfloor : ⌊d.toRat⌋ = towardZero d.toRat - 1 := by
      rw [Int.floor_eq_iff]
      push_cast
      constructor <;> linarith [(hbounds.2 hneg).2]
    rw [toRat_sub, toRat_truncate, toRat_one, hfloor]
    push_cast
    ring
  · rename_i hnotAbove
    have hle : (towardZero d.toRat : ℚ) ≤ d.toRat := by
      simpa [beq_iff_eq, compare_gt_iff_gt] using hnotAbove
    have hfloor : ⌊d.toRat⌋ = towardZero d.toRat := by
      rw [Int.floor_eq_iff]
      refine ⟨hle, ?_⟩
      by_cases hneg : d.toRat < 0
      · linarith [(hbounds.2 hneg).1]
      · exact (hbounds.1 (not_lt.mp hneg)).2
    rw [toRat_truncate, hfloor]

/-- The ceiling: the truncation, plus one when it lies below the value. -/
theorem toRat_ceil (d : Decimal) : d.ceil.toRat = ⌈d.toRat⌉ := by
  have hbounds := towardZero_bounds d.toRat
  simp only [ceil]
  rw [compare_eq_toRat, toRat_truncate]
  split
  · rename_i hbelow
    -- rounding toward zero went down, so the value is positive and not an integer
    have hlt : (towardZero d.toRat : ℚ) < d.toRat := by
      simpa [beq_iff_eq, compare_lt_iff_lt] using hbelow
    have hpos : 0 ≤ d.toRat := by
      by_contra hneg
      linarith [(hbounds.2 (not_le.mp hneg)).1]
    have hceil : ⌈d.toRat⌉ = towardZero d.toRat + 1 := by
      rw [Int.ceil_eq_iff]
      push_cast
      constructor <;> linarith [(hbounds.1 hpos).2]
    rw [toRat_add, toRat_truncate, toRat_one, hceil]
    push_cast
    ring
  · rename_i hnotBelow
    have hge : d.toRat ≤ towardZero d.toRat := by
      simpa [beq_iff_eq, compare_lt_iff_lt] using hnotBelow
    have hceil : ⌈d.toRat⌉ = towardZero d.toRat := by
      rw [Int.ceil_eq_iff]
      refine ⟨?_, hge⟩
      by_cases hneg : d.toRat < 0
      · linarith [(hbounds.2 hneg).2]
      · linarith [(hbounds.1 (not_lt.mp hneg)).1]
    rw [toRat_truncate, hceil]

/-- Rounding is the floor of the value plus one half, so halves go toward positive infinity. -/
theorem toRat_roundHalfUp (d : Decimal) : d.roundHalfUp.toRat = ⌊d.toRat + 1 / 2⌋ := by
  rw [roundHalfUp, toRat_floor, toRat_add, toRat_half]

example : (Decimal.roundHalfUp ⟨-25, 1⟩).toRat = -2 := by
  rw [toRat_roundHalfUp]
  norm_num [toRat]

end Decimal

/-- FLOOR, CEIL and ROUND of a decimal are the decimals of its floor, its ceiling and the floor
of it plus one half, and the cast to xsd:integer of a decimal literal is its value rounded toward
zero, whatever the scale of the decimal. FLOOR, CEIL and ROUND give an integer back as it is. -/
theorem decimal_rounding_exact (d : Decimal) (n : ℤ) :
    (∃ e, Numeric.floor (.decimal d) = .decimal e ∧ e.toRat = ⌊d.toRat⌋) ∧
    (∃ e, Numeric.ceil (.decimal d) = .decimal e ∧ e.toRat = ⌈d.toRat⌉) ∧
    (∃ e, Numeric.round (.decimal d) = .decimal e ∧ e.toRat = ⌊d.toRat + 1 / 2⌋) ∧
    (∀ l : Literal, l.value = .numeric (.decimal d) → l.category = .decimal →
      Builtin.castToInteger (.literal l) = .ok (Term.integer (towardZero d.toRat))) ∧
    Numeric.floor (.integer n) = .integer n ∧ Numeric.ceil (.integer n) = .integer n ∧
    Numeric.round (.integer n) = .integer n := by
  refine ⟨⟨_, rfl, Decimal.toRat_floor d⟩, ⟨_, rfl, Decimal.toRat_ceil d⟩,
    ⟨_, rfl, Decimal.toRat_roundHalfUp d⟩, fun l hvalue hcategory => ?_, rfl, rfl, rfl⟩
  have harg : Builtin.numericArg Vocabulary.xsdInteger (.literal l) = .ok (.decimal d) := by
    simp [Builtin.numericArg, Term.numeric?, Literal.numeric?, hvalue]
  unfold Builtin.castToInteger
  simp only [Term.category, hcategory, harg, Outcome.ok_bind]
  rw [Decimal.truncate_eq]
  rfl

end SparqlExpr
