import Mathlib
import SparqlExpr.Proofs.Notation
import SparqlExpr.Builtin.Cast
import SparqlExpr.Proofs.WellFormed
import SparqlExpr.Proofs.Outcome

/-!
The canonical text of a decimal against its value.

The text of a decimal is computed from its normal form (`Decimal.normalize`), which is unique
for each value: two decimals of one value have one normal form (`normalize_eq_normalize_iff`).
The text writes that normal form in scientific notation, so it writes the value of the decimal
(`scientificNotation_canonicalText`), and as notation writes at most one number, texts and
values determine each other (`canonicalText_eq_canonicalText_iff`).

The text is positional exactly when the value is zero, or at least `10^-6` in magnitude and not
a multiple of `10^16`; then it is decimal notation and reads back as a decimal literal of the
value. Otherwise it has an exponent, which the lexical space of xsd:decimal does not allow.
-/

namespace SparqlExpr

section Whitespace

/-- Trimming leaves text without white space as it is. -/
theorem trim_eq_self {s : String} (h : ∀ c ∈ s.toList, Unicode.isWhiteSpace c = false) :
    Unicode.trim s = s := by
  have hdrop : ∀ cs : List Char, (∀ c ∈ cs, Unicode.isWhiteSpace c = false) →
      cs.dropWhile Unicode.isWhiteSpace = cs := by
    intro cs hcs
    cases cs with
    | nil => rfl
    | cons c rest => simp [hcs c List.mem_cons_self]
  rw [Unicode.trim, hdrop _ h, hdrop _ (fun c hc => h c (List.mem_reverse.mp hc)),
    List.reverse_reverse, String.ofList_toList]

/-- Visible ASCII characters are not white space. -/
theorem isWhiteSpace_of_visible {c : Char} (hrange : 0x20 < c.toNat ∧ c.toNat < 0x7F) :
    Unicode.isWhiteSpace c = false := by
  simp only [Unicode.isWhiteSpace, Unicode.inRanges, Unicode.whiteSpace, List.any_cons,
    List.any_nil, Bool.or_false, Bool.or_eq_false_iff, Bool.and_eq_false_iff, decide_eq_false_iff_not]
  omega

theorem isWhiteSpace_of_isDigit {c : Char} (h : c.isDigit = true) : Unicode.isWhiteSpace c = false := by
  have := Char.isDigit_iff_toNat.mp h
  simp only [Char.reduceToNat] at this
  exact isWhiteSpace_of_visible (by omega)

/-- No character of scientific notation is white space. -/
theorem ScientificNotation.not_whiteSpace {cs : List Char} {x : ℚ} (h : ScientificNotation cs x) :
    ∀ c ∈ cs, Unicode.isWhiteSpace c = false := by
  intro c hc
  rcases h.mem hc with h | rfl | rfl | rfl | h
  · exact isWhiteSpace_of_isDigit h
  · decide
  · decide
  · decide
  · simp only [isExponentMark, Bool.or_eq_true, beq_iff_eq] at h
    rcases h with rfl | rfl <;> decide

end Whitespace

namespace Decimal

section NormalForm

/-- A decimal in normal form: zero is written at scale zero, and no other mantissa ends in a
zero digit. -/
def IsNormal (d : Decimal) : Prop :=
  (d.mantissa = 0 → d.scale = 0) ∧ (d.mantissa ≠ 0 → ¬(10 : Int) ∣ d.mantissa)

/-- Dropping the trailing zeros of a non-zero mantissa leaves a mantissa with no trailing zero,
at a scale no larger, of the same value. -/
theorem dropTrailingZeros_spec (m s : Int) (hm : m ≠ 0) :
    (dropTrailingZeros m s).1 ≠ 0 ∧ ¬(10 : Int) ∣ (dropTrailingZeros m s).1 ∧
      (dropTrailingZeros m s).2 ≤ s ∧
      ((dropTrailingZeros m s).1 : ℚ) / 10 ^ (dropTrailingZeros m s).2 = m / 10 ^ s := by
  fun_induction dropTrailingZeros m s with
  | case1 m s h ih =>
      have hdvd : (10 : Int) ∣ m := Int.dvd_of_emod_eq_zero h.2
      have hquotient : m.tdiv 10 * 10 = m := Int.tdiv_mul_cancel hdvd
      have hne : m.tdiv 10 ≠ 0 := by
        intro hzero
        rw [hzero, Int.zero_mul] at hquotient
        exact h.1 hquotient.symm
      obtain ⟨hne', hdvd', hscale, hvalue⟩ := ih hne
      refine ⟨hne', hdvd', by omega, ?_⟩
      rw [hvalue, zpow_sub_one₀ (by norm_num : (10 : ℚ) ≠ 0)]
      have hquotientQ : ((m.tdiv 10 : Int) : ℚ) * 10 = m := by exact_mod_cast hquotient
      rw [← hquotientQ]
      field_simp
  | case2 m s h =>
      have hmod : m % 10 ≠ 0 := fun hmod => h ⟨hm, hmod⟩
      exact ⟨hm, fun hdvd => hmod (Int.emod_eq_zero_of_dvd hdvd), le_rfl, rfl⟩

theorem normalize_of_mantissa_eq_zero {d : Decimal} (h : d.mantissa = 0) :
    d.normalize = ⟨0, 0⟩ := by
  simp [normalize, h]

theorem normalize_of_mantissa_ne_zero {d : Decimal} (h : d.mantissa ≠ 0) :
    d.normalize = ⟨(dropTrailingZeros d.mantissa d.scale).1,
      (dropTrailingZeros d.mantissa d.scale).2⟩ := by
  simp [normalize, h]

theorem isNormal_normalize (d : Decimal) : d.normalize.IsNormal := by
  by_cases h : d.mantissa = 0
  · rw [normalize_of_mantissa_eq_zero h]
    exact ⟨fun _ => rfl, fun hne => absurd rfl hne⟩
  · obtain ⟨hne, hdvd, -, -⟩ := dropTrailingZeros_spec d.mantissa d.scale h
    rw [normalize_of_mantissa_ne_zero h]
    exact ⟨fun hzero => absurd hzero hne, fun _ => hdvd⟩

@[simp] theorem toRat_normalize (d : Decimal) : d.normalize.toRat = d.toRat := by
  by_cases h : d.mantissa = 0
  · simp [normalize_of_mantissa_eq_zero h, toRat, h]
  · obtain ⟨-, -, -, hvalue⟩ := dropTrailingZeros_spec d.mantissa d.scale h
    rw [normalize_of_mantissa_ne_zero h]
    exact hvalue

theorem normalize_scale_le {d : Decimal} (h : d.mantissa ≠ 0) : d.normalize.scale ≤ d.scale := by
  rw [normalize_of_mantissa_ne_zero h]
  exact (dropTrailingZeros_spec d.mantissa d.scale h).2.2.1

theorem toRat_eq_zero_iff {d : Decimal} : d.toRat = 0 ↔ d.mantissa = 0 := by
  have hpow : (10 : ℚ) ^ d.scale ≠ 0 := zpow_ne_zero _ (by norm_num)
  simp [toRat, hpow]

/-- Two decimals of one value, the second at a scale `k` higher, have mantissas that differ by
the factor `10^k`. -/
theorem mantissa_mul_pow_eq {a b : Decimal} (h : a.toRat = b.toRat) {k : Nat}
    (hk : b.scale = a.scale + k) : a.mantissa * 10 ^ k = b.mantissa := by
  have hpow : (10 : ℚ) ^ b.scale = 10 ^ a.scale * 10 ^ k := by
    rw [hk, zpow_add₀ (by norm_num : (10 : ℚ) ≠ 0), zpow_natCast]
  have hpos : (0 : ℚ) < 10 ^ a.scale := zpow_pos (by norm_num) _
  unfold toRat at h
  rw [hpow] at h
  field_simp at h
  exact_mod_cast h

/-- A decimal is determined by its value and its scale. -/
theorem eq_of_toRat_eq_of_scale_eq {a b : Decimal} (h : a.toRat = b.toRat)
    (hscale : a.scale = b.scale) : a = b := by
  have hmantissa := mantissa_mul_pow_eq h (k := 0) (by simp [hscale])
  obtain ⟨ma, sa⟩ := a
  obtain ⟨mb, sb⟩ := b
  simp only [pow_zero, mul_one] at hmantissa hscale
  rw [hmantissa, hscale]

/-- A decimal in normal form has the largest scale of all decimals of its value. -/
theorem IsNormal.scale_le {a b : Decimal} (ha : a.IsNormal) (hzero : a.mantissa ≠ 0)
    (h : a.toRat = b.toRat) : a.scale ≤ b.scale := by
  by_contra hlt
  obtain ⟨k, hk⟩ : ∃ k : Nat, a.scale = b.scale + (k + 1) := ⟨(a.scale - b.scale - 1).toNat, by omega⟩
  have hmul := mantissa_mul_pow_eq h.symm hk
  exact ha.2 hzero ⟨b.mantissa * 10 ^ k, by rw [← hmul, pow_succ]; ring⟩

/-- Each value has one decimal in normal form. -/
theorem IsNormal.eq_of_toRat_eq {a b : Decimal} (ha : a.IsNormal) (hb : b.IsNormal)
    (h : a.toRat = b.toRat) : a = b := by
  refine eq_of_toRat_eq_of_scale_eq h ?_
  -- zero is normal at scale zero; any other value at the largest scale it can be written with
  by_cases hzero : a.mantissa = 0
  · have hzero' : b.mantissa = 0 := toRat_eq_zero_iff.mp (h ▸ toRat_eq_zero_iff.mpr hzero)
    rw [ha.1 hzero, hb.1 hzero']
  · have hzero' : b.mantissa ≠ 0 := fun hb0 => hzero (toRat_eq_zero_iff.mp (h ▸ toRat_eq_zero_iff.mpr hb0))
    exact le_antisymm (ha.scale_le hzero h) (hb.scale_le hzero' h.symm)

/-- Two decimals have one normal form exactly when they have one value. -/
theorem normalize_eq_normalize_iff {a b : Decimal} :
    a.normalize = b.normalize ↔ a.toRat = b.toRat := by
  constructor
  · intro h
    rw [← toRat_normalize a, h, toRat_normalize]
  · intro h
    exact (isNormal_normalize a).eq_of_toRat_eq (isNormal_normalize b) (by simpa using h)

/-- The canonical text depends on the value alone. -/
theorem canonicalText_eq_of_toRat_eq {a b : Decimal} (h : a.toRat = b.toRat) :
    a.canonicalText = b.canonicalText := by
  simp only [canonicalText, text, normalize_eq_normalize_iff.mpr h]

end NormalForm

section Printing

/-! Printed integers and digit strings as notation of their values. -/

theorem toList_toString_int (n : Int) :
    (toString n).toList = signText (decide (n < 0)) ++ Nat.toDigits 10 n.natAbs := by
  cases n with
  | ofNat k =>
      have hk : ¬((k : Int) < 0) := by omega
      simp [Int.repr_eq_if, signText, hk]
  | negSucc k => simp [Int.repr_eq_if, signText, Int.negSucc_lt_zero]

theorem allDigits_toDigits (n : Nat) : AllDigits (Nat.toDigits 10 n) :=
  fun _ hc => isDigit_of_mem_toDigits_ten hc

theorem signedInt_natAbs (n : Int) : signedInt (decide (n < 0)) n.natAbs = n := by
  by_cases hn : n < 0
  · rw [decide_eq_true hn, signedInt, if_pos rfl]
    omega
  · rw [decide_eq_false hn, signedInt, if_neg Bool.false_ne_true]
    omega

/-- A printed integer is integer notation of it. -/
theorem integerNotation_toString (n : Int) : IntegerNotation (toString n).toList n := by
  rw [toList_toString_int]
  refine ⟨_, _, signPrefix_signText _ _, Nat.toDigits_ne_nil, allDigits_toDigits _, ?_⟩
  rw [Nat.ofDigitChars_ten_toDigits]
  exact (signedInt_natAbs n).symm

/-- A printed non-negative integer after a plus sign is integer notation of it. -/
theorem integerNotation_plus_toString {n : Int} (hn : 0 ≤ n) :
    IntegerNotation ('+' :: (toString n).toList) n := by
  have hneg : decide (n < 0) = false := by simp; omega
  rw [toList_toString_int, hneg, signText, List.nil_append]
  refine ⟨false, _, SignPrefix.plus _, Nat.toDigits_ne_nil, allDigits_toDigits _, ?_⟩
  simp only [Nat.ofDigitChars_ten_toDigits, Bool.false_eq_true, if_false]
  omega

end Printing

end Decimal

section Shapes

/-! The three shapes of the text of a decimal, each notation of the digits it writes at the
scale it writes them. -/

namespace Decimal

variable {ds : List Char}

/-- One digit, then a point and the other digits if there are any, then `E` and the exponent of
the first digit: notation of the digits at scale `s`. -/
theorem scientific_exponentText (hne : ds ≠ []) (hall : AllDigits ds) (s : Int) :
    UnsignedScientific
      (ds.take 1 ++ (if ds.drop 1 = [] then [] else '.' :: ds.drop 1) ++
        'E' :: (toString ((ds.length : Int) - 1 - s)).toList)
      ((Nat.ofDigitChars 10 ds 0 : ℚ) / 10 ^ s) := by
  obtain ⟨c, rest, rfl⟩ := List.exists_cons_of_ne_nil hne
  have hc : AllDigits [c] := fun x hx => hall x (by simp_all)
  have hrest : AllDigits rest := fun x hx => hall x (List.mem_cons_of_mem c hx)
  have hexp := integerNotation_toString (((c :: rest).length : Int) - 1 - s)
  have hscale : (10 : ℚ) ^ (((c :: rest).length : Int) - 1 - s) = 10 ^ rest.length / 10 ^ s := by
    rw [List.length_cons, Nat.cast_succ, add_sub_cancel_right,
      zpow_sub₀ (by norm_num : (10 : ℚ) ≠ 0), zpow_natCast]
  have hpow : (10 : ℚ) ^ rest.length ≠ 0 := pow_ne_zero _ (by norm_num)
  simp only [List.take_succ_cons, List.take_zero, List.drop_succ_cons, List.drop_zero]
  by_cases hempty : rest = []
  · subst hempty
    rw [if_pos rfl, List.append_nil]
    have h := UnsignedScientific.exponent (UnsignedDecimal.whole (List.cons_ne_nil c []) hc)
      (Or.inr rfl) hexp
    rw [hscale] at h
    simpa [div_eq_mul_inv] using h
  · rw [if_neg hempty]
    have h := UnsignedScientific.exponent
      (UnsignedDecimal.pointed (Or.inl (List.cons_ne_nil c [])) hc hrest) (Or.inr rfl) hexp
    simp only [hscale, List.singleton_append] at h
    convert h using 1
    · simp
    · field_simp

/-- Digits, then `e+` and the number of zeros the digits stand for: notation of the digits at
the negative scale `s`. -/
theorem scientific_zerosText (hne : ds ≠ []) (hall : AllDigits ds) {s : Int} (hs : s < 0) :
    UnsignedScientific (ds ++ 'e' :: '+' :: (toString (-s)).toList)
      ((Nat.ofDigitChars 10 ds 0 : ℚ) / 10 ^ s) := by
  have h := UnsignedScientific.exponent (UnsignedDecimal.whole hne hall) (Or.inl rfl)
    (integerNotation_plus_toString (n := -s) (by omega))
  rw [zpow_neg] at h
  rw [div_eq_mul_inv]
  exact h

theorem toList_signString (p : Prop) [Decidable p] :
    (if p then "-" else "").toList = signText (decide p) := by
  by_cases hp : p <;> simp [hp, signText]

/-- The digits of the mantissa of the normal form, as the text writes them. -/
def digits (d : Decimal) : List Char := Nat.toDigits 10 d.normalize.mantissa.natAbs

/-- The normal form has more than five zeros between the point and its first digit. -/
def ExponentBelow (d : Decimal) : Prop :=
  0 < d.normalize.scale ∧ 5 < d.normalize.scale - d.digits.length

/-- The normal form has more than fifteen zeros after its last digit. -/
def ExponentAbove (d : Decimal) : Prop :=
  d.normalize.scale < 0 ∧ 15 < -d.normalize.scale

@[simp] theorem toList_decimalText (n : Nat) : (Nat.decimalText n).toList = Nat.toDigits 10 n := by
  rw [Nat.decimalText, toList_toString_nat]

theorem length_decimalText (n : Nat) : (Nat.decimalText n).length = (Nat.toDigits 10 n).length := by
  rw [← String.length_toList, toList_decimalText]

theorem decimalText_eq_ofList (n : Nat) : Nat.decimalText n = String.ofList (Nat.toDigits 10 n) := by
  rw [← String.toList_inj, toList_decimalText, String.toList_ofList]

theorem text_toList_of_exponentBelow {d : Decimal} (h : ExponentBelow d) :
    d.text.toList = signText (decide (d.normalize.mantissa < 0)) ++
      (d.digits.take 1 ++ (if d.digits.drop 1 = [] then [] else '.' :: d.digits.drop 1) ++
        'E' :: (toString ((d.digits.length : Int) - 1 - d.normalize.scale)).toList) := by
  simp only [text, ExponentBelow, digits] at h ⊢
  rw [length_decimalText, if_pos h, String.toList_append, toList_signString]
  by_cases hrest : (Nat.toDigits 10 d.normalize.mantissa.natAbs).tail = [] <;> simp [hrest]

theorem text_toList_of_exponentAbove {d : Decimal} (hbelow : ¬ExponentBelow d)
    (h : ExponentAbove d) :
    d.text.toList = signText (decide (d.normalize.mantissa < 0)) ++
      (d.digits ++ 'e' :: '+' :: (toString (-d.normalize.scale)).toList) := by
  simp only [text, ExponentBelow, ExponentAbove, digits] at hbelow h ⊢
  rw [length_decimalText, if_neg hbelow, if_pos h, String.toList_append, toList_signString]
  simp

theorem text_toList_of_positional {d : Decimal} (hbelow : ¬ExponentBelow d)
    (habove : ¬ExponentAbove d) :
    d.text.toList = signText (decide (d.normalize.mantissa < 0)) ++
      (positional (String.ofList d.digits) d.normalize.scale).toList := by
  simp only [text, ExponentBelow, ExponentAbove, digits] at hbelow habove ⊢
  rw [length_decimalText, if_neg hbelow, if_neg habove, String.toList_append, toList_signString,
    decimalText_eq_ofList]

/-- Positional text of digits at a scale of zero or less is the digits and as many zeros. -/
theorem positional_of_nonpos {s : Int} (hs : s ≤ 0) :
    (positional (String.ofList ds) s).toList = ds ++ List.replicate (-s).toNat '0' := by
  simp [positional, hs, zeros]

/-- Positional text of digits at a positive scale is digits, a point and as many digits as the
scale, which together read as the digits. -/
theorem positional_of_pos (hne : ds ≠ []) (hall : AllDigits ds) {s : Int} (hs : 0 < s) :
    ∃ ws fs, (positional (String.ofList ds) s).toList = ws ++ '.' :: fs ∧ ws ≠ [] ∧
      AllDigits ws ∧ AllDigits fs ∧ (fs.length : Int) = s ∧
      Nat.ofDigitChars 10 (ws ++ fs) 0 = Nat.ofDigitChars 10 ds 0 := by
  have hs' : ¬s ≤ 0 := by omega
  have hlength := List.length_pos_of_ne_nil hne
  simp only [positional, if_neg hs', String.length_ofList, String.toList_ofList]
  split
  · rename_i hlt
    refine ⟨ds.take (ds.length - s.toNat), ds.drop (ds.length - s.toNat), by simp, ?_,
      fun c hc => hall c (List.mem_of_mem_take hc), fun c hc => hall c (List.mem_of_mem_drop hc),
      ?_, by rw [List.take_append_drop]⟩
    · simp only [ne_eq, List.take_eq_nil_iff, not_or]
      exact ⟨by omega, hne⟩
    · simp only [List.length_drop]
      omega
  · rename_i hge
    refine ⟨['0'], List.replicate (s.toNat - ds.length) '0' ++ ds, ?_, List.cons_ne_nil _ _, ?_,
      ?_, ?_, ?_⟩
    · simp [zeros]
    · intro c hc
      rw [List.mem_singleton.mp hc]
      rfl
    · refine AllDigits.append (fun c hc => ?_) hall
      rw [List.eq_of_mem_replicate hc]
      rfl
    · simp only [List.length_append, List.length_replicate]
      omega
    · have h := ofDigitChars_replicate_zero_append (s.toNat - ds.length + 1) ds
      rwa [List.replicate_succ, List.cons_append] at h

end Decimal

end Shapes

namespace Decimal

section CanonicalText

theorem canonicalText_of_mark {d : Decimal} {c : Char} (hc : c ∈ d.text.toList)
    (hmark : c = '.' ∨ c = 'e' ∨ c = 'E') : d.canonicalText = d.text := by
  have hany : d.text.any (fun c => c == '.' || c == 'e' || c == 'E') = true := by
    rw [String.any, String.contains_bool_eq, List.any_eq_true]
    exact ⟨c, hc, by simpa [or_assoc] using hmark⟩
  simp only [canonicalText, hany, if_true]

theorem canonicalText_of_no_mark {d : Decimal}
    (h : ∀ c ∈ d.text.toList, c ≠ '.' ∧ c ≠ 'e' ∧ c ≠ 'E') :
    d.canonicalText = d.text ++ ".0" := by
  have hany : d.text.any (fun c => c == '.' || c == 'e' || c == 'E') = false := by
    rw [String.any, String.contains_bool_eq, List.any_eq_false]
    intro c hc
    simpa [and_assoc] using h c hc
  simp only [canonicalText, hany, Bool.false_eq_true, if_false]

/-- The digits of the normal form with its sign, over ten to its scale, are the value. -/
theorem digits_value (d : Decimal) :
    (signedInt (decide (d.normalize.mantissa < 0)) (Nat.ofDigitChars 10 d.digits 0) : ℚ) /
      10 ^ d.normalize.scale = d.toRat := by
  rw [digits, Nat.ofDigitChars_ten_toDigits, signedInt_natAbs, ← toRat_normalize d]
  rfl

theorem digits_ne_nil (d : Decimal) : d.digits ≠ [] := Nat.toDigits_ne_nil

theorem allDigits_digits (d : Decimal) : AllDigits d.digits := allDigits_toDigits _

/-- Without an exponent, the canonical text is digits, a point and digits after the sign of the
value, with the scale of the normal form (at least one) after the point, and it writes the
value. -/
theorem canonicalText_positional {d : Decimal} (hbelow : ¬ExponentBelow d)
    (habove : ¬ExponentAbove d) :
    ∃ ws fs, d.canonicalText.toList =
        signText (decide (d.normalize.mantissa < 0)) ++ ws ++ '.' :: fs ∧
      ws ≠ [] ∧ fs ≠ [] ∧ AllDigits ws ∧ AllDigits fs ∧
      (fs.length : Int) = max d.normalize.scale 1 ∧
      (signedInt (decide (d.normalize.mantissa < 0)) (Nat.ofDigitChars 10 (ws ++ fs) 0) : ℚ) /
        10 ^ fs.length = d.toRat := by
  have htext := text_toList_of_positional hbelow habove
  rw [← digits_value d]
  by_cases hs : d.normalize.scale ≤ 0
  · -- digits and zeros, completed by `.0`
    rw [positional_of_nonpos hs] at htext
    have hzero : AllDigits ['0'] := fun c hc => by rw [List.mem_singleton.mp hc]; rfl
    have hzeros : AllDigits (List.replicate (-d.normalize.scale).toNat '0') :=
      fun c hc => by rw [List.eq_of_mem_replicate hc]; rfl
    have hcanonical : d.canonicalText = d.text ++ ".0" := by
      refine canonicalText_of_no_mark fun c hc => ?_
      rw [htext] at hc
      simp only [List.mem_append] at hc
      rcases hc with hc | hc | hc
      · cases hneg : decide (d.normalize.mantissa < 0) <;> simp_all [signText]
      · have := d.allDigits_digits c hc
        refine ⟨?_, ?_, ?_⟩ <;> rintro rfl <;> contradiction
      · rw [List.eq_of_mem_replicate hc]
        decide
    refine ⟨d.digits ++ List.replicate (-d.normalize.scale).toNat '0', ['0'], ?_,
      by simp [d.digits_ne_nil], List.cons_ne_nil _ _, d.allDigits_digits.append hzeros, hzero,
      by simp; omega, ?_⟩
    · rw [hcanonical, String.toList_append, htext]
      simp
    · obtain ⟨k, hk⟩ : ∃ k : Nat, (-d.normalize.scale).toNat = k := ⟨_, rfl⟩
      have hscale : d.normalize.scale = -(k : Int) := by omega
      have hdigits : Nat.ofDigitChars 10 (d.digits ++ List.replicate k '0' ++ ['0']) 0 =
          Nat.ofDigitChars 10 d.digits 0 * 10 ^ k * 10 := by
        rw [Nat.ofDigitChars_append, Nat.ofDigitChars_append, Nat.ofDigitChars_replicate_zero,
          Nat.ofDigitChars_cons, Nat.ofDigitChars_nil]
        simp only [Char.reduceToNat, Nat.sub_self, Nat.add_zero]
        ring
      rw [hk, hdigits, hscale, zpow_neg, zpow_natCast]
      cases decide (d.normalize.mantissa < 0)
      · simp [signedInt]
      · simp [signedInt]
        field_simp
  · obtain ⟨ws, fs, hpositional, hws, hwd, hfd, hlength, hvalue⟩ :=
      positional_of_pos d.digits_ne_nil d.allDigits_digits (by omega : 0 < d.normalize.scale)
    rw [hpositional] at htext
    have hcanonical : d.canonicalText = d.text :=
      canonicalText_of_mark (c := '.') (by rw [htext]; simp) (Or.inl rfl)
    refine ⟨ws, fs, by rw [hcanonical, htext, List.append_assoc], hws, ?_, hwd, hfd,
      by omega, ?_⟩
    · rintro rfl
      simp at hlength
      omega
    · rw [hvalue, ← zpow_natCast, hlength]

/-- The canonical text of a decimal is scientific notation of its value. -/
theorem scientificNotation_canonicalText (d : Decimal) :
    ScientificNotation d.canonicalText.toList d.toRat := by
  have hvalue := digits_value d
  rw [Lexical.signedInt_div] at hvalue
  by_cases hbelow : ExponentBelow d
  · have htext := text_toList_of_exponentBelow hbelow
    rw [canonicalText_of_mark (c := 'E') (by rw [htext]; simp) (by simp), htext]
    exact ⟨_, _, _, signPrefix_signText _ _,
      scientific_exponentText d.digits_ne_nil d.allDigits_digits _, hvalue.symm⟩
  · by_cases habove : ExponentAbove d
    · have htext := text_toList_of_exponentAbove hbelow habove
      rw [canonicalText_of_mark (c := 'e') (by rw [htext]; simp) (by simp), htext]
      exact ⟨_, _, _, signPrefix_signText _ _,
        scientific_zerosText d.digits_ne_nil d.allDigits_digits habove.1, hvalue.symm⟩
    · obtain ⟨ws, fs, htext, hws, -, hwd, hfd, -, hvalue⟩ := canonicalText_positional hbelow habove
      rw [htext, List.append_assoc, ← hvalue, Lexical.signedInt_div]
      exact ⟨_, _, _, signPrefix_signText _ _,
        .plain (.pointed (Or.inl hws) hwd hfd), rfl⟩

/-- Two decimals have one canonical text exactly when they have one value. -/
theorem canonicalText_eq_canonicalText_iff {a b : Decimal} :
    a.canonicalText = b.canonicalText ↔ a.toRat = b.toRat := by
  constructor
  · intro h
    have hb := scientificNotation_canonicalText b
    rw [← h] at hb
    exact (scientificNotation_canonicalText a).unique hb
  · exact canonicalText_eq_of_toRat_eq

end CanonicalText

section Magnitude

/-! Which values have a positional text, in terms of the value alone. -/

theorem abs_toRat (d : Decimal) :
    |d.toRat| = (d.normalize.mantissa.natAbs : ℚ) / 10 ^ d.normalize.scale := by
  have hpos : (0 : ℚ) < 10 ^ d.normalize.scale := zpow_pos (by norm_num) _
  rw [← toRat_normalize, toRat, abs_div, abs_of_pos hpos, Nat.cast_natAbs, Int.cast_abs]

theorem normalize_mantissa_ne_zero {d : Decimal} (h : d.toRat ≠ 0) : d.normalize.mantissa ≠ 0 :=
  fun hzero => h (by rw [← toRat_normalize, toRat_eq_zero_iff, hzero])

/-- The text has an exponent below the point exactly when the value is not zero and below
`10^-6` in magnitude. -/
theorem exponentBelow_iff {d : Decimal} :
    ExponentBelow d ↔ d.toRat ≠ 0 ∧ |d.toRat| < 1 / 10 ^ 6 := by
  obtain ⟨hzero, -⟩ := isNormal_normalize d
  have hlength : d.digits.length = (Nat.toDigits 10 d.normalize.mantissa.natAbs).length := rfl
  rw [abs_toRat, ExponentBelow, hlength]
  generalize hN : d.normalize.mantissa.natAbs = N
  generalize hlen : (Nat.toDigits 10 N).length = len
  have hupper : N < 10 ^ len := hlen ▸ lt_pow_length_toDigits N
  constructor
  · rintro ⟨hpos, hgap⟩
    have hNzero : N ≠ 0 := by
      rintro rfl
      have := hzero (Int.natAbs_eq_zero.mp hN)
      omega
    refine ⟨fun h0 => hNzero (Int.natAbs_eq_zero.mpr (toRat_eq_zero_iff.mp (by
      rw [← toRat_normalize] at h0; exact h0)) ▸ hN.symm), ?_⟩
    obtain ⟨t, ht⟩ : ∃ t : Nat, d.normalize.scale = t := ⟨d.normalize.scale.toNat, by omega⟩
    rw [ht, zpow_natCast, div_lt_div_iff₀ (by positivity) (by positivity), one_mul]
    have hgap' : len + 6 ≤ t := by omega
    have hnat : N * 10 ^ 6 < 10 ^ t :=
      calc N * 10 ^ 6 < 10 ^ len * 10 ^ 6 := Nat.mul_lt_mul_of_pos_right hupper (by norm_num)
        _ = 10 ^ (len + 6) := (Nat.pow_add 10 len 6).symm
        _ ≤ 10 ^ t := Nat.pow_le_pow_right (by norm_num) hgap'
    exact_mod_cast hnat
  · rintro ⟨hne, hsmall⟩
    have hNzero : N ≠ 0 := by
      rintro rfl
      exact hne (by rw [← toRat_normalize, toRat_eq_zero_iff]; omega)
    have hlower : 10 ^ (len - 1) ≤ N := hlen ▸ pow_length_toDigits_le hNzero
    by_contra hnot
    obtain ⟨t, ht⟩ : ∃ t : Nat, d.normalize.scale = t ∨ d.normalize.scale = -(t : Int) :=
      ⟨d.normalize.scale.natAbs, by omega⟩
    rcases ht with ht | ht
    · rw [ht, zpow_natCast, div_lt_div_iff₀ (by positivity) (by positivity), one_mul] at hsmall
      have hgap : t ≤ len - 1 + 6 := by omega
      have hnat : 10 ^ t ≤ N * 10 ^ 6 :=
        calc 10 ^ t ≤ 10 ^ (len - 1 + 6) := Nat.pow_le_pow_right (by norm_num) hgap
          _ = 10 ^ (len - 1) * 10 ^ 6 := Nat.pow_add 10 (len - 1) 6
          _ ≤ N * 10 ^ 6 := Nat.mul_le_mul_right _ hlower
      have : ((10 ^ t : Nat) : ℚ) ≤ ((N * 10 ^ 6 : Nat) : ℚ) := by exact_mod_cast hnat
      push_cast at this
      linarith
    · rw [ht, zpow_neg, zpow_natCast, div_inv_eq_mul] at hsmall
      have hN1 : (1 : ℚ) ≤ N := by exact_mod_cast Nat.one_le_iff_ne_zero.mpr hNzero
      have hpow : (1 : ℚ) ≤ 10 ^ t := one_le_pow₀ (by norm_num)
      have : (1 : ℚ) ≤ N * 10 ^ t := one_le_mul_of_one_le_of_one_le hN1 hpow
      have hsix : (1 : ℚ) / 10 ^ 6 < 1 := by norm_num
      linarith

/-- The text has an exponent above the point exactly when the value is a non-zero multiple of
`10^16`. -/
theorem exponentAbove_iff {d : Decimal} :
    ExponentAbove d ↔ d.toRat ≠ 0 ∧ ∃ k : Int, d.toRat = k * 10 ^ 16 := by
  obtain ⟨hzero, -⟩ := isNormal_normalize d
  constructor
  · rintro ⟨hneg, hgap⟩
    have hne : d.normalize.mantissa ≠ 0 := fun h => by have := hzero h; omega
    obtain ⟨j, hj⟩ : ∃ j : Nat, d.normalize.scale = -((16 + j : Nat) : Int) :=
      ⟨(-d.normalize.scale - 16).toNat, by omega⟩
    refine ⟨fun h0 => hne (toRat_eq_zero_iff.mp (by rw [toRat_normalize]; exact h0)),
      d.normalize.mantissa * 10 ^ j, ?_⟩
    rw [← toRat_normalize, toRat, hj, zpow_neg, zpow_natCast, div_inv_eq_mul]
    push_cast
    ring
  · rintro ⟨hne, k, hk⟩
    have hmantissa := normalize_mantissa_ne_zero hne
    have hvalue : d.normalize.toRat = (⟨k, -16⟩ : Decimal).toRat := by
      rw [toRat_normalize, hk, toRat, zpow_neg, div_inv_eq_mul]
      rfl
    have hle := (isNormal_normalize d).scale_le hmantissa hvalue
    exact ⟨by simp only at hle; omega, by simp only at hle; omega⟩

/-- The values whose canonical text is positional: zero, and the values of magnitude at least
`10^-6` that are not multiples of `10^16`. -/
def HasPositionalText (d : Decimal) : Prop :=
  d.toRat = 0 ∨ ((1 : ℚ) / 10 ^ 6 ≤ |d.toRat| ∧ ∀ k : Int, d.toRat ≠ k * 10 ^ 16)

theorem hasPositionalText_iff {d : Decimal} :
    d.HasPositionalText ↔ ¬ExponentBelow d ∧ ¬ExponentAbove d := by
  rw [exponentBelow_iff, exponentAbove_iff, HasPositionalText]
  by_cases hzero : d.toRat = 0
  · simp [hzero]
  · simp only [hzero, false_or, ne_eq, not_false_eq_true, true_and, not_lt, not_exists]

end Magnitude

section Reading

/-- A positional canonical text reads back as a decimal of the value, when the scale fits in
64 bits. -/
theorem readDecimal?_canonicalText {d : Decimal} (hd : d.HasPositionalText)
    (hscale : d.scale < 2 ^ 63) :
    ∃ v, Lexical.readDecimal? d.canonicalText = some v ∧ v.toRat = d.toRat := by
  obtain ⟨hbelow, habove⟩ := hasPositionalText_iff.mp hd
  obtain ⟨ws, fs, htext, hws, hfs, hwd, hfd, hlength, hvalue⟩ :=
    canonicalText_positional hbelow habove
  have hnormal : d.normalize.scale ≤ max d.scale 0 := by
    by_cases hzero : d.mantissa = 0
    · rw [normalize_of_mantissa_eq_zero hzero]
      exact le_max_right _ _
    · exact (normalize_scale_le hzero).trans (le_max_left _ _)
  have hfits : fs.length < 2 ^ 63 := by omega
  rw [← String.ofList_toList (s := d.canonicalText), htext,
    Lexical.readDecimal?_pointed _ hws hfs hwd hfd, if_pos (scaleInRange_of_lt hfits)]
  exact ⟨_, rfl, by rw [toRat_mk, hvalue]⟩

/-- A canonical text with an exponent is outside the lexical space of xsd:decimal. -/
theorem readDecimal?_canonicalText_of_not {d : Decimal} (hd : ¬d.HasPositionalText) :
    Lexical.readDecimal? d.canonicalText = none := by
  rw [hasPositionalText_iff, not_and_or, not_not, not_not] at hd
  rcases hd with hbelow | habove
  · have htext := text_toList_of_exponentBelow hbelow
    rw [canonicalText_of_mark (c := 'E') (by rw [htext]; simp) (by simp)]
    exact Lexical.readDecimal?_eq_none_of_exponentMark (c := 'E') (by rw [htext]; simp) rfl
  · by_cases hbelow : ExponentBelow d
    · have htext := text_toList_of_exponentBelow hbelow
      rw [canonicalText_of_mark (c := 'E') (by rw [htext]; simp) (by simp)]
      exact Lexical.readDecimal?_eq_none_of_exponentMark (c := 'E') (by rw [htext]; simp) rfl
    · have htext := text_toList_of_exponentAbove hbelow habove
      rw [canonicalText_of_mark (c := 'e') (by rw [htext]; simp) (by simp)]
      exact Lexical.readDecimal?_eq_none_of_exponentMark (c := 'e') (by rw [htext]; simp) rfl

theorem category_string (s : String) : (Term.string s).category = .string := by
  simp [Term.string, Term.category, Literal.string, Literal.category]

/-- Casting a string without white space to xsd:decimal reads it under that datatype. -/
theorem castToDecimal_string {s : String} (htrim : Unicode.trim s = s) :
    Builtin.castToDecimal (Term.string s) =
      match Term.typed s Vocabulary.xsdDecimal with
      | .literal l => .ok (.literal ⟨l.value, none, Vocabulary.xsdDecimal, none⟩)
      | _ => .error (.invalidArgument Vocabulary.xsdDecimal ("cannot cast " ++ Quoted.quote s)) := by
  have hlexical : Builtin.lexicalArg Vocabulary.xsdDecimal (Term.string s) = .ok s := rfl
  unfold Builtin.castToDecimal
  rw [category_string]
  simp only [Builtin.parseAs, hlexical, Outcome.ok_bind, htrim]
  generalize Term.typed s Vocabulary.xsdDecimal = t
  cases t <;> rfl

theorem typed_xsdDecimal (s : String) :
    Term.typed s Vocabulary.xsdDecimal =
      match Lexical.readDecimal? s with
      | some v => .literal ⟨.numeric (.decimal v), some s, Vocabulary.xsdDecimal, none⟩
      | none => .illTyped s Vocabulary.xsdDecimal := by
  simp only [Term.typed, Term.parseLiteral, Category.ofDatatype_xsdDecimal, Lexical.readValue?]
  cases Lexical.readDecimal? s <;> rfl

theorem trim_canonicalText (d : Decimal) : Unicode.trim d.canonicalText = d.canonicalText :=
  trim_eq_self (scientificNotation_canonicalText d).not_whiteSpace

/-- The text of a computed decimal literal is the canonical text of its value. -/
theorem lexicalForm_decimal (d : Decimal) : (Literal.decimal d).lexicalForm = d.canonicalText :=
  rfl

end Reading

section Readback

/-- The canonical text of a decimal determines its value and is determined by it. When the value
is zero, or at least `10^-6` in magnitude and not a multiple of `10^16`, the text is decimal
notation: read under xsd:decimal it gives a literal of the same value, and so does the cast to
xsd:decimal of the text of the computed literal. Otherwise the text has an exponent and is
outside the lexical space: reading it gives an ill-typed literal, and the cast fails quoting
the text. -/
theorem decimal_canonicalText_reads_back (d e : Decimal) :
    (d.canonicalText = e.canonicalText ↔ d.toRat = e.toRat) ∧
      (d.HasPositionalText → d.scale < 2 ^ 63 →
        ∃ v : Decimal, v.toRat = d.toRat ∧
          Term.typed d.canonicalText Vocabulary.xsdDecimal =
            .literal ⟨.numeric (.decimal v), some d.canonicalText, Vocabulary.xsdDecimal, none⟩ ∧
          Builtin.castToDecimal (Term.string (Literal.decimal d).lexicalForm) =
            .ok (.literal ⟨.numeric (.decimal v), none, Vocabulary.xsdDecimal, none⟩)) ∧
      (¬d.HasPositionalText →
        Term.typed d.canonicalText Vocabulary.xsdDecimal =
            .illTyped d.canonicalText Vocabulary.xsdDecimal ∧
          Builtin.castToDecimal (Term.string (Literal.decimal d).lexicalForm) =
            .error (.invalidArgument Vocabulary.xsdDecimal
              ("cannot cast " ++ Quoted.quote d.canonicalText))) := by
  refine ⟨canonicalText_eq_canonicalText_iff, fun hd hscale => ?_, fun hd => ?_⟩
  · obtain ⟨v, hread, hvalue⟩ := readDecimal?_canonicalText hd hscale
    have htyped := typed_xsdDecimal d.canonicalText
    rw [hread] at htyped
    refine ⟨v, hvalue, htyped, ?_⟩
    rw [lexicalForm_decimal, castToDecimal_string (trim_canonicalText d), htyped]
  · have htyped := typed_xsdDecimal d.canonicalText
    rw [readDecimal?_canonicalText_of_not hd] at htyped
    refine ⟨htyped, ?_⟩
    rw [lexicalForm_decimal, castToDecimal_string (trim_canonicalText d), htyped]

theorem quarter_hasPositionalText : (⟨25, 2⟩ : Decimal).HasPositionalText := by
  have hvalue : (⟨25, 2⟩ : Decimal).toRat = 1 / 4 := by
    norm_num [toRat]
  refine Or.inr ⟨by rw [hvalue]; norm_num, fun k hk => ?_⟩
  rw [hvalue] at hk
  have hint : (1 : ℚ) = ((k * 4 * 10 ^ 16 : Int) : ℚ) := by
    push_cast
    linarith
  have hint' : (1 : Int) = k * 4 * 10 ^ 16 := by exact_mod_cast hint
  omega

theorem quarter_canonicalText_reads_back :
    ∃ v : Decimal, v.toRat = (⟨25, 2⟩ : Decimal).toRat ∧
      Term.typed (⟨25, 2⟩ : Decimal).canonicalText Vocabulary.xsdDecimal =
        .literal ⟨.numeric (.decimal v), some (⟨25, 2⟩ : Decimal).canonicalText,
          Vocabulary.xsdDecimal, none⟩ ∧
      Builtin.castToDecimal (Term.string (Literal.decimal ⟨25, 2⟩).lexicalForm) =
        .ok (.literal ⟨.numeric (.decimal v), none, Vocabulary.xsdDecimal, none⟩) :=
  (decimal_canonicalText_reads_back ⟨25, 2⟩ ⟨25, 2⟩).2.1 quarter_hasPositionalText (by decide)

/-- The quotient `1 / 10000000` is written `1E-7`, which xsd:decimal does not read. -/
theorem tenMillionth_text_is_illTyped :
    (⟨1, 7⟩ : Decimal).canonicalText = "1E-7" ∧
      Term.typed (⟨1, 7⟩ : Decimal).canonicalText Vocabulary.xsdDecimal =
        .illTyped "1E-7" Vocabulary.xsdDecimal := by
  have hnormal : (⟨1, 7⟩ : Decimal).IsNormal := ⟨by simp, fun _ => by decide⟩
  have hnormalize : (⟨1, 7⟩ : Decimal).normalize = ⟨1, 7⟩ :=
    (isNormal_normalize _).eq_of_toRat_eq hnormal (toRat_normalize _)
  have hdigits : (⟨1, 7⟩ : Decimal).digits = ['1'] := by
    rw [digits, hnormalize]
    rfl
  have hbelow : ExponentBelow ⟨1, 7⟩ := by
    rw [ExponentBelow, hdigits, hnormalize]
    decide
  have htext := text_toList_of_exponentBelow hbelow
  rw [hdigits, hnormalize] at htext
  have hcanonical : (⟨1, 7⟩ : Decimal).canonicalText = "1E-7" := by
    rw [canonicalText_of_mark (c := 'E') (by rw [htext]; simp) (by simp), ← String.toList_inj,
      htext]
    decide
  refine ⟨hcanonical, ?_⟩
  rw [typed_xsdDecimal, hcanonical,
    Lexical.readDecimal?_eq_none_of_exponentMark (c := 'E') (by decide) rfl]

end Readback

end Decimal

end SparqlExpr
