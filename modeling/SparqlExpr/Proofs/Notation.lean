import Mathlib
import SparqlExpr.Term.Lexical

/-!
Decimal notation: the grammar of signed integers and decimals, the numbers they write, and the
readers of the lexical spaces of xsd:integer and xsd:decimal against that grammar.

The readers fold digit strings left to right (`Lexical.digitsValue` and its copies) and the
printers write numbers with `toString`; both are tied here to `Nat.ofDigitChars` and
`Nat.toDigits`, so that a number written and read back is the number.

The grammar is stated as relations between texts and the numbers they write:
`SignPrefix` for an optional sign, `UnsignedDecimal` for `[0-9]+(\.[0-9]*)?|\.[0-9]+`. The main
statements are `readInteger?_eq_some_iff` (an integer is read exactly from a signed digit string
within the bounds of its datatype) and `readDecimal?_eq_some_iff` (a decimal is read exactly from
decimal notation, and its value is the number the notation writes).
-/

namespace SparqlExpr

section Digits

/-- The digit fold of the readers is `Nat.ofDigitChars` in base ten (`48` is the code of `0`). -/
@[simp] theorem foldl_digit_eq_ofDigitChars (cs : List Char) (a : Nat) :
    cs.foldl (fun n c => n * 10 + (c.toNat - 48)) a = Nat.ofDigitChars 10 cs a := by
  induction cs generalizing a with
  | nil => simp
  | cons c rest ih =>
      rw [List.foldl_cons, ih, Nat.ofDigitChars_cons, Nat.mul_comm]
      rfl

@[simp] theorem Lexical.digitsValue_eq (cs : List Char) :
    Lexical.digitsValue cs = Nat.ofDigitChars 10 cs 0 :=
  foldl_digit_eq_ofDigitChars cs 0

@[simp] theorem toList_toString_nat (n : Nat) : (toString n).toList = Nat.toDigits 10 n := by
  simp

theorem isDigit_of_mem_toDigits_ten {n : Nat} {c : Char} (h : c ∈ Nat.toDigits 10 n) :
    c.isDigit = true :=
  Nat.isDigit_of_mem_toDigits (by decide) (by decide) h

/-- Zeros in front of a digit string do not change its value. -/
theorem ofDigitChars_replicate_zero_append (k : Nat) (cs : List Char) :
    Nat.ofDigitChars 10 (List.replicate k '0' ++ cs) 0 = Nat.ofDigitChars 10 cs 0 := by
  rw [Nat.ofDigitChars_append, Nat.ofDigitChars_replicate_zero, Nat.mul_zero]

/-- A digit written after a digit string multiplies its value by ten and adds the digit. -/
theorem ofDigitChars_append_digit (cs : List Char) (c : Char) :
    Nat.ofDigitChars 10 (cs ++ [c]) 0 = 10 * Nat.ofDigitChars 10 cs 0 + (c.toNat - '0'.toNat) := by
  rw [Nat.ofDigitChars_append, Nat.ofDigitChars_cons, Nat.ofDigitChars_nil]

/-- A number is below ten to the number of its digits. -/
theorem lt_pow_length_toDigits (n : Nat) : n < 10 ^ (Nat.toDigits 10 n).length :=
  (Nat.length_toDigits_le_iff (by norm_num) Nat.length_toDigits_pos).mp le_rfl

/-- A non-zero number is at least ten to the number of its digits after the first. -/
theorem pow_length_toDigits_le {n : Nat} (hn : n ≠ 0) :
    10 ^ ((Nat.toDigits 10 n).length - 1) ≤ n := by
  by_cases hlength : (Nat.toDigits 10 n).length - 1 = 0
  · rw [hlength]
    omega
  · by_contra hlt
    have hshort := (Nat.length_toDigits_le_iff (b := 10) (n := n) (by norm_num)
      (Nat.pos_of_ne_zero hlength)).mpr (by omega)
    omega

theorem decimalLength_eq (n : Nat) : Nat.decimalLength n = (Nat.toDigits 10 n).length := by
  rw [Nat.decimalLength, ← String.length_toList, toList_toString_nat]

end Digits

section Grammar

/-- Every character of a text is an ASCII digit. -/
def AllDigits (cs : List Char) : Prop := ∀ c ∈ cs, c.isDigit = true

/-- `cs` is `body` after an optional sign, negative when the sign is `-`. -/
inductive SignPrefix : List Char → Bool → List Char → Prop
  | unsigned (body : List Char) : SignPrefix body false body
  | plus (body : List Char) : SignPrefix ('+' :: body) false body
  | minus (body : List Char) : SignPrefix ('-' :: body) true body

/-- A number with a sign: negative when the sign says so. -/
def signed (negative : Bool) (x : ℚ) : ℚ := if negative then -x else x

/-- Integer notation `[+-]?[0-9]+` of an integer. -/
def IntegerNotation (cs : List Char) (n : Int) : Prop :=
  ∃ negative body, SignPrefix cs negative body ∧ body ≠ [] ∧ AllDigits body ∧
    n = if negative then -(Nat.ofDigitChars 10 body 0 : Int) else Nat.ofDigitChars 10 body 0

/-- Unsigned decimal notation `[0-9]+(\.[0-9]*)?|\.[0-9]+` and the number it writes: the
digits on both sides of the point read as one number, over ten to the number of digits after
the point. -/
inductive UnsignedDecimal : List Char → ℚ → Prop
  | whole {ds : List Char} : ds ≠ [] → AllDigits ds →
      UnsignedDecimal ds (Nat.ofDigitChars 10 ds 0)
  | pointed {ws fs : List Char} : ws ≠ [] ∨ fs ≠ [] → AllDigits ws → AllDigits fs →
      UnsignedDecimal (ws ++ '.' :: fs) ((Nat.ofDigitChars 10 (ws ++ fs) 0 : ℚ) / 10 ^ fs.length)

/-- Decimal notation `[+-]?([0-9]+(\.[0-9]*)?|\.[0-9]+)` of a number. -/
def DecimalNotation (cs : List Char) (x : ℚ) : Prop :=
  ∃ negative body magnitude, SignPrefix cs negative body ∧ UnsignedDecimal body magnitude ∧
    x = signed negative magnitude

/-- Unsigned scientific notation: unsigned decimal notation, then optionally an exponent mark
`e` or `E` and integer notation of the power of ten that scales it. -/
inductive UnsignedScientific : List Char → ℚ → Prop
  | plain {cs : List Char} {x : ℚ} : UnsignedDecimal cs x → UnsignedScientific cs x
  | exponent {cs es : List Char} {x : ℚ} {mark : Char} {n : Int} : UnsignedDecimal cs x →
      (mark = 'e' ∨ mark = 'E') → IntegerNotation es n →
      UnsignedScientific (cs ++ mark :: es) (x * 10 ^ n)

/-- Scientific notation `[+-]?` then unsigned scientific notation, of a number. -/
def ScientificNotation (cs : List Char) (x : ℚ) : Prop :=
  ∃ negative body magnitude, SignPrefix cs negative body ∧ UnsignedScientific body magnitude ∧
    x = signed negative magnitude

end Grammar

namespace Lexical

theorem allDigits_eq_true_iff {cs : List Char} : allDigits cs = true ↔ cs ≠ [] ∧ AllDigits cs := by
  simp [allDigits, AllDigits]

/-- Text that does not start with a sign is left as it is. -/
theorem dropSign_of_not_sign {c : Char} {rest : List Char} (hplus : c ≠ '+') (hminus : c ≠ '-') :
    dropSign (c :: rest) = c :: rest := by
  unfold dropSign
  split <;> simp_all

/-- `dropSign` takes off the sign that `SignPrefix` allows. -/
theorem signPrefix_dropSign (cs : List Char) :
    SignPrefix cs (cs.head? == some '-') (dropSign cs) := by
  rcases cs with _ | ⟨c, rest⟩
  · exact SignPrefix.unsigned []
  · by_cases hplus : c = '+'
    · subst hplus
      exact SignPrefix.plus rest
    · by_cases hminus : c = '-'
      · subst hminus
        exact SignPrefix.minus rest
      · have hhead : ((c :: rest).head? == some '-') = false := by simp [hminus]
        rw [dropSign_of_not_sign hplus hminus, hhead]
        exact SignPrefix.unsigned (c :: rest)

/-- A body that does not start with a sign is what `dropSign` leaves, and the sign is the one
`dropSign` takes off. -/
theorem eq_dropSign_of_signPrefix {cs body : List Char} {negative : Bool}
    (h : SignPrefix cs negative body) (hbody : ∀ c ∈ body.head?, c ≠ '+' ∧ c ≠ '-') :
    body = dropSign cs ∧ negative = (cs.head? == some '-') := by
  cases h with
  | plus _ => simp [dropSign]
  | minus _ => simp [dropSign]
  | unsigned =>
      rcases cs with _ | ⟨c, rest⟩
      · simp [dropSign]
      · obtain ⟨hplus, hminus⟩ := hbody c rfl
        simp [dropSign_of_not_sign hplus hminus, hminus]

theorem not_sign_of_isDigit {c : Char} (h : c.isDigit = true) : c ≠ '+' ∧ c ≠ '-' := by
  constructor <;> rintro rfl <;> contradiction

/-- The bounds of a bounded integer datatype hold, or the datatype is unbounded. -/
def WithinBounds (datatype : String) (n : Int) : Prop :=
  ∀ lo hi, Vocabulary.integerBounds datatype = some (lo, hi) → lo ≤ n ∧ n ≤ hi

/-- Integer notation is digits after the sign that `dropSign` takes off, and writes their value
with that sign. -/
theorem integerNotation_iff {cs : List Char} {n : Int} :
    IntegerNotation cs n ↔ allDigits (dropSign cs) = true ∧
      n = if cs.head? == some '-' then -(Nat.ofDigitChars 10 (dropSign cs) 0 : Int)
        else Nat.ofDigitChars 10 (dropSign cs) 0 := by
  constructor
  · rintro ⟨negative, body, hsign, hne, hdigits, rfl⟩
    obtain ⟨c, rest, rfl⟩ := List.exists_cons_of_ne_nil hne
    have hc : c.isDigit = true := hdigits c List.mem_cons_self
    obtain ⟨hbody, hneg⟩ := eq_dropSign_of_signPrefix hsign fun d hd => by
      cases hd
      exact not_sign_of_isDigit hc
    rw [← hbody, ← hneg, allDigits_eq_true_iff]
    exact ⟨⟨List.cons_ne_nil c rest, hdigits⟩, rfl⟩
  · rintro ⟨hdigits, rfl⟩
    obtain ⟨hne, hall⟩ := allDigits_eq_true_iff.mp hdigits
    exact ⟨_, _, signPrefix_dropSign cs, hne, hall, rfl⟩

/-- An integer is read exactly from integer notation of a value within the bounds of the
datatype. -/
theorem readInteger?_eq_some_iff {s datatype : String} {n : Int} :
    readInteger? s datatype = some n ↔ IntegerNotation s.toList n ∧ WithinBounds datatype n := by
  rw [integerNotation_iff]
  unfold readInteger? WithinBounds
  by_cases hdigits : allDigits (dropSign s.toList) = true
  · simp only [hdigits, Bool.not_true, Bool.false_eq_true, if_false, digitsValue_eq, true_and]
    generalize (if s.toList.head? == some '-' then -(Nat.ofDigitChars 10 (dropSign s.toList) 0 : Int)
      else Nat.ofDigitChars 10 (dropSign s.toList) 0) = v
    rcases hbounds : Vocabulary.integerBounds datatype with _ | ⟨lo, hi⟩
    · simp [eq_comm]
    · by_cases hv : lo ≤ v ∧ v ≤ hi
      · simp only [hv, decide_true, Bool.and_self, if_true, Option.some.injEq, Prod.mk.injEq]
        constructor
        · rintro rfl
          exact ⟨rfl, fun lo' hi' h => h.1 ▸ h.2 ▸ hv⟩
        · rintro ⟨rfl, -⟩
          rfl
      · have hfalse : (decide (lo ≤ v) && decide (v ≤ hi)) = false := by simpa using hv
        simp only [hfalse, Bool.false_eq_true, if_false, Option.some.injEq, Prod.mk.injEq]
        constructor
        · intro h; cases h
        · rintro ⟨rfl, hwithin⟩
          exact absurd (hwithin lo hi ⟨rfl, rfl⟩) hv
  · simp [hdigits]

end Lexical

section Splitting

/-- The first occurrence of a character splits a text around it. -/
theorem findIdx?_eq_some_split {cs : List Char} {p : Char → Bool} {i : Nat}
    (h : cs.findIdx? p = some i) :
    ∃ c, p c = true ∧ cs = cs.take i ++ c :: cs.drop (i + 1) ∧ ∀ x ∈ cs.take i, p x = false := by
  obtain ⟨hi, hp, hbefore⟩ := List.findIdx?_eq_some_iff_getElem.mp h
  refine ⟨cs[i], hp, ?_, ?_⟩
  · rw [← List.drop_eq_getElem_cons hi, List.take_append_drop]
  · intro x hx
    obtain ⟨j, hj, rfl⟩ := List.getElem_of_mem hx
    have hji : j < i := by simpa [List.length_take] using Nat.lt_of_lt_of_le hj (by simp)
    simpa [List.getElem_take] using hbefore j hji

/-- A text split at the first occurrence of a character is found split there. -/
theorem findIdx?_append_cons {ws rest : List Char} {p : Char → Bool} {c : Char}
    (hws : ∀ x ∈ ws, p x = false) (hc : p c = true) :
    (ws ++ c :: rest).findIdx? p = some ws.length := by
  rw [List.findIdx?_append, List.findIdx?_eq_none_iff.mpr hws, List.findIdx?_cons, hc]
  simp

end Splitting

theorem ne_of_isDigit {c : Char} (hc : c.isDigit = true) (d : Char) (hd : d.isDigit = false) :
    c ≠ d := by
  rintro rfl
  simp_all

theorem AllDigits.not_mem {cs : List Char} (h : AllDigits cs) {c : Char} (hc : c.isDigit = false) :
    c ∉ cs := fun hmem => by
  have := h c hmem
  simp_all

theorem AllDigits.append {ws fs : List Char} (hws : AllDigits ws) (hfs : AllDigits fs) :
    AllDigits (ws ++ fs) := by
  intro c hc
  rcases List.mem_append.mp hc with hc | hc
  · exact hws c hc
  · exact hfs c hc

namespace Lexical

/-- The shape test of decimal notation accepts exactly unsigned decimal notation. -/
theorem isDecimalShape_eq_true_iff {cs : List Char} :
    isDecimalShape cs = true ↔ ∃ x, UnsignedDecimal cs x := by
  unfold isDecimalShape
  constructor
  · split
    · rename_i i hi
      obtain ⟨c, hc, hsplit, -⟩ := findIdx?_eq_some_split hi
      have hdot : c = '.' := by simpa using hc
      subst hdot
      intro hshape
      simp only [Bool.and_eq_true, Bool.or_eq_true, List.isEmpty_iff, allDigits_eq_true_iff,
        Bool.not_eq_true', Bool.and_eq_false_iff] at hshape
      obtain ⟨⟨hws, hfs⟩, hnonempty⟩ := hshape
      rw [hsplit]
      refine ⟨_, UnsignedDecimal.pointed ?_ ?_ ?_⟩
      · simpa [List.isEmpty_iff] using hnonempty
      · rcases hws with hws | hws
        · rw [hws]; intro c hc; cases hc
        · exact hws.2
      · rcases hfs with hfs | hfs
        · rw [hfs]; intro c hc; cases hc
        · exact hfs.2
    · intro hdigits
      obtain ⟨hne, hall⟩ := allDigits_eq_true_iff.mp hdigits
      exact ⟨_, UnsignedDecimal.whole hne hall⟩
  · rintro ⟨x, hx⟩
    cases hx with
    | whole hne hall =>
        have hnone : cs.findIdx? (· == '.') = none :=
          List.findIdx?_eq_none_iff.mpr fun c hc => by
            have := hall c hc
            simp only [beq_eq_false_iff_ne]
            rintro rfl
            contradiction
        simp only [hnone]
        exact allDigits_eq_true_iff.mpr ⟨hne, hall⟩
    | pointed hnonempty hws hfs =>
        rename_i ws fs
        have hsplit : (ws ++ '.' :: fs).findIdx? (· == '.') = some ws.length :=
          findIdx?_append_cons (fun c hc => by
            have := hws c hc
            simp only [beq_eq_false_iff_ne]
            rintro rfl
            contradiction) (by decide)
        have hdrop : (ws ++ '.' :: fs).drop (ws.length + 1) = fs := by simp [List.drop_append]
        simp only [hsplit, List.take_left', hdrop]
        by_cases hw : ws = [] <;> by_cases hf : fs = [] <;>
          simp_all [allDigits_eq_true_iff]

end Lexical

/-- Unsigned decimal notation starts with a digit or a point, never with a sign. -/
theorem UnsignedDecimal.head_not_sign {cs : List Char} {x : ℚ} (h : UnsignedDecimal cs x) :
    ∀ c ∈ cs.head?, c ≠ '+' ∧ c ≠ '-' := by
  intro c hc
  cases h with
  | whole hne hall =>
      exact Lexical.not_sign_of_isDigit (hall c (List.mem_of_head? hc))
  | pointed hnonempty hws hfs =>
      rename_i ws fs
      rcases ws with _ | ⟨w, ws⟩
      · simp only [List.nil_append, List.head?_cons, Option.mem_def, Option.some.injEq] at hc
        subst hc
        decide
      · simp only [List.cons_append, List.head?_cons, Option.mem_def, Option.some.injEq] at hc
        subst hc
        exact Lexical.not_sign_of_isDigit (hws _ List.mem_cons_self)

namespace Decimal

/-- The value of a decimal: its mantissa over ten to its scale. -/
def toRat (d : Decimal) : ℚ := d.mantissa / 10 ^ d.scale

theorem readDigits?_ofList {ds : List Char} (hne : ds ≠ []) (hdigits : AllDigits ds) :
    readDigits? (String.ofList ds) = some (Nat.ofDigitChars 10 ds 0) := by
  have hall : (String.ofList ds).all Char.isDigit = true := by
    simpa [List.all_eq_true, AllDigits] using hdigits
  simp [readDigits?, hall, hne]

/-- The text of a sign: `-` when negative, nothing otherwise. -/
def signText : Bool → List Char
  | true => ['-']
  | false => []

theorem signPrefix_signText (negative : Bool) (body : List Char) :
    SignPrefix (signText negative ++ body) negative body := by
  cases negative
  · exact SignPrefix.unsigned body
  · exact SignPrefix.minus body

/-- An integer with a sign. -/
def signedInt (negative : Bool) (n : Nat) : Int := if negative then -(n : Int) else n

theorem readSignedInt?_ofList (negative : Bool) {ds : List Char} (hne : ds ≠ [])
    (hdigits : AllDigits ds) :
    readSignedInt? (String.ofList (signText negative ++ ds)) =
      some (signedInt negative (Nat.ofDigitChars 10 ds 0)) := by
  cases negative with
  | true => simp [readSignedInt?, signText, signedInt, readDigits?_ofList hne hdigits]
  | false =>
      obtain ⟨c, rest, rfl⟩ := List.exists_cons_of_ne_nil hne
      obtain ⟨hplus, hminus⟩ := Lexical.not_sign_of_isDigit (hdigits c List.mem_cons_self)
      have hread := readDigits?_ofList hne hdigits
      simp only [readSignedInt?, signText, signedInt, List.nil_append, String.toList_ofList,
        Bool.false_eq_true, if_false]
      split
      · simp_all
      · simp_all
      · rw [hread]
        rfl

/-- Decimal text without an exponent and with digits after its point reads as the digits on both
sides of the point over ten to the number of digits after it, when that scale is in range. -/
theorem ofText?_pointed (negative : Bool) {ws fs : List Char} (hws : ws ≠ []) (hfs : fs ≠ [])
    (hwd : AllDigits ws) (hfd : AllDigits fs) :
    ofText? (String.ofList (signText negative ++ ws ++ '.' :: fs)) =
      if scaleInRange fs.length then
        some ⟨signedInt negative (Nat.ofDigitChars 10 (ws ++ fs) 0), fs.length⟩
      else none := by
  have hexp : ∀ c ∈ signText negative ++ ws ++ '.' :: fs, (c == 'e' || c == 'E') = false := by
    intro c hc
    simp only [List.mem_append, List.mem_cons] at hc
    rcases hc with (hc | hc) | hc | hc
    · cases negative <;> simp_all [signText]
    · simp [ne_of_isDigit (hwd c hc) 'e' rfl, ne_of_isDigit (hwd c hc) 'E' rfl]
    · simp [hc]
    · simp [ne_of_isDigit (hfd c hc) 'e' rfl, ne_of_isDigit (hfd c hc) 'E' rfl]
  have hdot : (signText negative ++ ws ++ '.' :: fs).findIdx? (· == '.') =
      some (signText negative ++ ws).length := by
    refine findIdx?_append_cons (fun c hc => ?_) (by decide)
    simp only [List.mem_append] at hc
    rcases hc with hc | hc
    · cases negative <;> simp_all [signText]
    · simp [ne_of_isDigit (hwd c hc) '.' rfl]
  have hsplit : ¬((signText negative ++ ws).length + 1 =
      (signText negative ++ ws ++ '.' :: fs).length) := by
    have := List.length_pos_of_ne_nil hfs
    simp only [List.length_append, List.length_cons]
    omega
  have hread := readSignedInt?_ofList negative (List.append_ne_nil_of_left_ne_nil hws fs)
    (hwd.append hfd)
  have hnonempty : (signText negative ++ ws ++ '.' :: fs).isEmpty = false := by simp
  have htake : (signText negative ++ ws ++ '.' :: fs).take (signText negative ++ ws).length =
      signText negative ++ ws := List.take_left' rfl
  have hdrop : (signText negative ++ ws ++ '.' :: fs).drop ((signText negative ++ ws).length + 1) =
      fs := by
    rw [show signText negative ++ ws ++ '.' :: fs = (signText negative ++ ws ++ ['.']) ++ fs by simp,
      List.drop_left' (by simp; omega)]
  have hlength : (((signText negative ++ ws ++ '.' :: fs).length -
      ((signText negative ++ ws).length + 1) : Nat) : Int) - 0 = fs.length := by
    simp only [List.length_append, List.length_cons, Int.sub_zero]
    omega
  rw [← List.append_assoc] at hread
  simp only [ofText?, String.toList_ofList, List.findIdx?_eq_none_iff.mpr hexp, pure_bind,
    hnonempty, Bool.false_eq_true, if_false]
  simp only [hdot, hsplit, if_false]
  simp only [htake, hdrop, hlength]
  rw [hread]
  exact Option.bind_some _ _

/-- Decimal text of digits alone reads as their value at scale zero. -/
theorem ofText?_whole (negative : Bool) {ds : List Char} (hne : ds ≠ []) (hdigits : AllDigits ds) :
    ofText? (String.ofList (signText negative ++ ds)) =
      some ⟨signedInt negative (Nat.ofDigitChars 10 ds 0), 0⟩ := by
  have hsign : ∀ c ∈ signText negative, c = '-' := by
    cases negative <;> simp [signText]
  have hexp : ∀ c ∈ signText negative ++ ds, (c == 'e' || c == 'E') = false := by
    intro c hc
    rcases List.mem_append.mp hc with hc | hc
    · simp [hsign c hc]
    · simp [ne_of_isDigit (hdigits c hc) 'e' rfl, ne_of_isDigit (hdigits c hc) 'E' rfl]
  have hdot : ∀ c ∈ signText negative ++ ds, (c == '.') = false := by
    intro c hc
    rcases List.mem_append.mp hc with hc | hc
    · simp [hsign c hc]
    · simp [ne_of_isDigit (hdigits c hc) '.' rfl]
  have hnonempty : (signText negative ++ ds).isEmpty = false := by simp [hne]
  have hscale : scaleInRange ((0 : Nat) - 0) = true := rfl
  simp only [ofText?, String.toList_ofList, List.findIdx?_eq_none_iff.mpr hexp, pure_bind,
    hnonempty, Bool.false_eq_true, if_false, List.findIdx?_eq_none_iff.mpr hdot, hscale, if_true]
  rw [readSignedInt?_ofList negative hne hdigits]
  exact Option.bind_some _ _

theorem toRat_mk (m : Int) (n : Nat) : (⟨m, n⟩ : Decimal).toRat = m / 10 ^ n := by
  simp [toRat, zpow_natCast]

/-- A natural scale below `2^63` is in range. -/
theorem scaleInRange_of_lt {n : Nat} (h : n < 2 ^ 63) : scaleInRange n = true := by
  have hpow : Int.pow 2 63 = 2 ^ 63 := rfl
  simp only [scaleInRange, hpow, Bool.and_eq_true, decide_eq_true_eq]
  omega

end Decimal

namespace Lexical

/-- A decimal is read by writing a zero before a leading point and after a trailing one and
reading the text with its sign. -/
theorem readDecimal?_eq (s : String) :
    readDecimal? s =
      if isDecimalShape (dropSign s.toList) then
        Decimal.ofText? (String.ofList (Decimal.signText (s.toList.head? == some '-') ++
          (if (dropSign s.toList).head? == some '.' then ['0'] else []) ++ dropSign s.toList ++
          (if (dropSign s.toList).getLast? == some '.' then ['0'] else [])))
      else none := by
  unfold readDecimal?
  by_cases hshape : isDecimalShape (dropSign s.toList) = true
  · simp only [hshape, Bool.not_true, Bool.false_eq_true, if_false, if_true]
    congr 1
    rw [← String.toList_inj]
    generalize (s.toList.head? == some '-') = negative
    generalize dropSign s.toList = u
    by_cases hhead : u.head? = some '.' <;> by_cases hlast : u.getLast? = some '.' <;>
      cases negative <;> simp [hhead, hlast, Decimal.signText]
  · simp [hshape]

theorem signedInt_div (negative : Bool) (n : Nat) (x : ℚ) :
    (Decimal.signedInt negative n : ℚ) / x = signed negative ((n : ℚ) / x) := by
  cases negative <;> simp [Decimal.signedInt, signed, neg_div]

/-- A zero written before the whole digits or after the fraction digits leaves the number a
pointed decimal writes unchanged. -/
theorem pointed_value_pad {ws fs pre suf : List Char} (hpre : pre = [] ∨ pre = ['0'])
    (hsuf : suf = [] ∨ suf = ['0']) :
    (Nat.ofDigitChars 10 (pre ++ ws ++ (fs ++ suf)) 0 : ℚ) / 10 ^ (fs ++ suf).length =
      (Nat.ofDigitChars 10 (ws ++ fs) 0 : ℚ) / 10 ^ fs.length := by
  have hpre' : Nat.ofDigitChars 10 (pre ++ ws ++ (fs ++ suf)) 0 =
      Nat.ofDigitChars 10 (ws ++ fs ++ suf) 0 := by
    rcases hpre with rfl | rfl
    · simp
    · simpa using ofDigitChars_replicate_zero_append 1 (ws ++ (fs ++ suf))
  rw [hpre']
  rcases hsuf with rfl | rfl
  · simp
  · rw [ofDigitChars_append_digit]
    simp only [List.length_append, List.length_singleton, pow_succ, Nat.cast_add, Nat.cast_mul]
    norm_num
    field_simp

/-- What is read from text whose unsigned part is decimal notation of `magnitude`: a decimal of
that value with the sign of the text, which exists once the text has fewer than `2^63`
characters (so that the digits after the point fit the scale). -/
theorem readDecimal?_of_unsignedDecimal {s : String} {magnitude : ℚ}
    (hu : UnsignedDecimal (dropSign s.toList) magnitude) :
    (∀ d, readDecimal? s = some d → d.toRat = signed (s.toList.head? == some '-') magnitude) ∧
      (s.length < 2 ^ 63 → ∃ d, readDecimal? s = some d) := by
  have hshape : isDecimalShape (dropSign s.toList) = true := isDecimalShape_eq_true_iff.mpr ⟨_, hu⟩
  have hlength : (dropSign s.toList).length ≤ s.length := by
    rw [← String.length_toList]
    generalize s.toList = cs
    unfold dropSign
    split <;> simp
  rw [readDecimal?_eq, if_pos hshape]
  generalize (s.toList.head? == some '-') = negative
  generalize hu' : dropSign s.toList = u at hu hlength ⊢
  cases hu with
  | whole hne hall =>
      obtain ⟨c, rest, rfl⟩ := List.exists_cons_of_ne_nil hne
      have hc : c ≠ '.' := ne_of_isDigit (hall c List.mem_cons_self) '.' rfl
      have hlast : (c :: rest).getLast? ≠ some '.' := by
        intro h
        have := hall _ (List.mem_of_getLast? h)
        contradiction
      simp only [List.head?_cons, hc, Option.some.injEq, beq_iff_eq, if_false, hlast,
        List.append_nil]
      rw [Decimal.ofText?_whole negative hne hall]
      refine ⟨?_, fun _ => ⟨_, rfl⟩⟩
      rintro d ⟨⟩
      cases negative <;> simp [Decimal.toRat, Decimal.signedInt, signed]
  | pointed hnonempty hws hfs =>
      rename_i ws fs
      -- a zero is written before a leading point and after a trailing one
      have hpre : (if ((ws ++ '.' :: fs).head? == some '.') = true then ['0'] else []) =
          if ws = [] then ['0'] else [] := by
        rcases ws with _ | ⟨w, ws⟩
        · simp
        · have hw : w ≠ '.' := ne_of_isDigit (hws w List.mem_cons_self) '.' rfl
          simp [hw]
      have hsuf : (if ((ws ++ '.' :: fs).getLast? == some '.') = true then ['0'] else []) =
          if fs = [] then ['0'] else [] := by
        rcases List.eq_nil_or_concat fs with rfl | ⟨fs₀, f, rfl⟩
        · simp
        · have hf : f ≠ '.' := ne_of_isDigit (hfs f (by simp)) '.' rfl
          simp [List.getLast?_append, List.getLast?_cons, hf]
      rw [hpre, hsuf]
      set pre : List Char := if ws = [] then ['0'] else [] with hpre_def
      set suf : List Char := if fs = [] then ['0'] else [] with hsuf_def
      have hpre' : pre = [] ∨ pre = ['0'] := by
        by_cases h : ws = [] <;> simp [pre, h]
      have hsuf' : suf = [] ∨ suf = ['0'] := by
        by_cases h : fs = [] <;> simp [suf, h]
      have hws' : pre ++ ws ≠ [] := by
        by_cases h : ws = [] <;> simp [pre, h]
      have hfs' : fs ++ suf ≠ [] := by
        by_cases h : fs = [] <;> simp [suf, h]
      have hzero : AllDigits ['0'] := by
        intro c hc
        rw [List.mem_singleton.mp hc]
        rfl
      have hwd : AllDigits (pre ++ ws) := by
        refine AllDigits.append ?_ hws
        rcases hpre' with h | h <;> rw [h]
        · intro c hc; cases hc
        · exact hzero
      have hfd : AllDigits (fs ++ suf) := by
        refine AllDigits.append hfs ?_
        rcases hsuf' with h | h <;> rw [h]
        · intro c hc; cases hc
        · exact hzero
      have htext : Decimal.signText negative ++ pre ++ (ws ++ '.' :: fs) ++ suf =
          Decimal.signText negative ++ (pre ++ ws) ++ '.' :: (fs ++ suf) := by
        simp
      rw [htext, Decimal.ofText?_pointed negative hws' hfs' hwd hfd]
      constructor
      · intro d hd
        split at hd
        · cases hd
          rw [Decimal.toRat_mk, signedInt_div, pointed_value_pad hpre' hsuf']
        · cases hd
      · intro hs
        have hsuf_length : suf.length ≤ 1 := by rcases hsuf' with h | h <;> simp [h]
        have hfits : (fs ++ suf).length < 2 ^ 63 := by
          simp only [List.length_append, List.length_cons] at hlength ⊢
          omega
        rw [if_pos (Decimal.scaleInRange_of_lt hfits)]
        exact ⟨_, rfl⟩

/-- Text of digits, a point and digits, after an optional minus sign, is read as the digits on
both sides of the point at the scale of the digits after it, when that scale is in range. -/
theorem readDecimal?_pointed (negative : Bool) {ws fs : List Char} (hws : ws ≠ []) (hfs : fs ≠ [])
    (hwd : AllDigits ws) (hfd : AllDigits fs) :
    readDecimal? (String.ofList (Decimal.signText negative ++ ws ++ '.' :: fs)) =
      if Decimal.scaleInRange fs.length then
        some ⟨Decimal.signedInt negative (Nat.ofDigitChars 10 (ws ++ fs) 0), fs.length⟩
      else none := by
  have hu := UnsignedDecimal.pointed (Or.inl hws) hwd hfd
  obtain ⟨hbody, hneg⟩ := eq_dropSign_of_signPrefix
    (Decimal.signPrefix_signText negative (ws ++ '.' :: fs)) hu.head_not_sign
  have hhead : (ws ++ '.' :: fs).head? ≠ some '.' := by
    obtain ⟨w, rest, rfl⟩ := List.exists_cons_of_ne_nil hws
    simpa using ne_of_isDigit (hwd w List.mem_cons_self) '.' rfl
  have hlast : (ws ++ '.' :: fs).getLast? ≠ some '.' := by
    obtain ⟨rest, f, rfl⟩ := (List.eq_nil_or_concat fs).resolve_left hfs
    simpa [List.getLast?_append, List.getLast?_cons] using
      ne_of_isDigit (hfd f (by simp)) '.' rfl
  rw [readDecimal?_eq, String.toList_ofList, List.append_assoc, ← hbody, ← hneg,
    if_pos (isDecimalShape_eq_true_iff.mpr ⟨_, hu⟩)]
  simp only [hhead, hlast, beq_iff_eq, if_false, List.append_nil, ← List.append_assoc]
  exact Decimal.ofText?_pointed negative hws hfs hwd hfd

/-- A decimal read from text is the number that the text writes in decimal notation. -/
theorem decimalNotation_of_readDecimal? {s : String} {d : Decimal} (h : readDecimal? s = some d) :
    DecimalNotation s.toList d.toRat := by
  have hshape : isDecimalShape (dropSign s.toList) = true := by
    by_contra hshape
    simp [readDecimal?_eq, hshape] at h
  obtain ⟨x, hx⟩ := isDecimalShape_eq_true_iff.mp hshape
  exact ⟨_, _, x, signPrefix_dropSign s.toList, hx, (readDecimal?_of_unsignedDecimal hx).1 d h⟩

/-- Text in decimal notation is read, once it has fewer than `2^63` characters, as a decimal of
the number it writes. -/
theorem readDecimal?_of_decimalNotation {s : String} {x : ℚ} (hx : DecimalNotation s.toList x)
    (hs : s.length < 2 ^ 63) : ∃ d, readDecimal? s = some d ∧ d.toRat = x := by
  obtain ⟨negative, body, magnitude, hsign, hbody, rfl⟩ := hx
  obtain ⟨rfl, rfl⟩ := eq_dropSign_of_signPrefix hsign hbody.head_not_sign
  obtain ⟨hvalue, hexists⟩ := readDecimal?_of_unsignedDecimal hbody
  obtain ⟨d, hd⟩ := hexists hs
  exact ⟨d, hd, hvalue d hd⟩

end Lexical

section Uniqueness

/-! Each grammar relation is functional: a text writes at most one number. The texts are split
at their first point or exponent mark, which no digit run contains. -/

/-- Two texts split at the first character of a class are split at the same place. -/
theorem eq_of_append_cons_eq {ws ws' rest rest' : List Char} {c c' : Char} {p : Char → Bool}
    (h : ws ++ c :: rest = ws' ++ c' :: rest') (hws : ∀ x ∈ ws, p x = false) (hc : p c = true)
    (hws' : ∀ x ∈ ws', p x = false) (hc' : p c' = true) :
    ws = ws' ∧ c = c' ∧ rest = rest' := by
  have hlength : ws.length = ws'.length := by
    have hfirst : (ws ++ c :: rest).findIdx? p = some ws.length := findIdx?_append_cons hws hc
    rw [h, findIdx?_append_cons hws' hc'] at hfirst
    exact (Option.some.inj hfirst).symm
  obtain ⟨rfl, htail⟩ := List.append_inj h hlength
  simp only [List.cons.injEq] at htail
  exact ⟨rfl, htail⟩

theorem IntegerNotation.unique {cs : List Char} {m n : Int} (hm : IntegerNotation cs m)
    (hn : IntegerNotation cs n) : m = n := by
  rw [Lexical.integerNotation_iff] at hm hn
  rw [hm.2, hn.2]

/-- Unsigned decimal notation is made of digits and points. -/
theorem UnsignedDecimal.isDigit_or_point {cs : List Char} {x : ℚ} (h : UnsignedDecimal cs x)
    {c : Char} (hc : c ∈ cs) : c.isDigit = true ∨ c = '.' := by
  cases h with
  | whole _ hall => exact Or.inl (hall c hc)
  | pointed _ hws hfs =>
      simp only [List.mem_append, List.mem_cons] at hc
      rcases hc with hc | hc | hc
      · exact Or.inl (hws c hc)
      · exact Or.inr hc
      · exact Or.inl (hfs c hc)

theorem UnsignedDecimal.ne_nil {cs : List Char} {x : ℚ} (h : UnsignedDecimal cs x) : cs ≠ [] := by
  cases h with
  | whole hne => exact hne
  | pointed => simp

theorem UnsignedDecimal.unique {cs : List Char} {x y : ℚ} (hx : UnsignedDecimal cs x)
    (hy : UnsignedDecimal cs y) : x = y := by
  generalize hcs : cs = cs' at hy
  cases hx with
  | whole _ hall =>
      cases hy with
      | whole => subst hcs; rfl
      | pointed =>
          subst hcs
          exact absurd (hall '.' (by simp)) (by decide)
  | pointed _ hws hfs =>
      cases hy with
      | whole _ hall =>
          subst hcs
          exact absurd (hall '.' (by simp)) (by decide)
      | pointed _ hws' hfs' =>
          have hpoint : ∀ {ds : List Char}, AllDigits ds → ∀ c ∈ ds, (c == '.') = false :=
            fun hds c hc => by simp [ne_of_isDigit (hds c hc) '.' rfl]
          obtain ⟨rfl, -, rfl⟩ :=
            eq_of_append_cons_eq hcs (hpoint hws) (by decide) (hpoint hws') (by decide)
          rfl

/-- The exponent marks. -/
def isExponentMark (c : Char) : Bool := c == 'e' || c == 'E'

theorem UnsignedDecimal.not_exponentMark {cs : List Char} {x : ℚ} (h : UnsignedDecimal cs x) :
    ∀ c ∈ cs, isExponentMark c = false := by
  intro c hc
  rcases h.isDigit_or_point hc with hdigit | rfl
  · simp [isExponentMark, ne_of_isDigit hdigit 'e' rfl, ne_of_isDigit hdigit 'E' rfl]
  · decide

theorem UnsignedScientific.head_not_sign {cs : List Char} {x : ℚ} (h : UnsignedScientific cs x) :
    ∀ c ∈ cs.head?, c ≠ '+' ∧ c ≠ '-' := by
  cases h with
  | plain hx => exact hx.head_not_sign
  | exponent hx =>
      rw [List.head?_append_of_ne_nil _ hx.ne_nil]
      exact hx.head_not_sign

theorem UnsignedScientific.unique {cs : List Char} {x y : ℚ} (hx : UnsignedScientific cs x)
    (hy : UnsignedScientific cs y) : x = y := by
  generalize hcs : cs = cs' at hy
  have hmark : ∀ {mark : Char}, mark = 'e' ∨ mark = 'E' → isExponentMark mark = true := by
    rintro _ (rfl | rfl) <;> rfl
  cases hx with
  | plain hx =>
      cases hy with
      | plain hy => subst hcs; exact hx.unique hy
      | exponent _ hm =>
          subst hcs
          have := hx.not_exponentMark _ (List.mem_append_right _ List.mem_cons_self)
          rw [hmark hm] at this
          cases this
  | exponent hx hm hn =>
      cases hy with
      | plain hy =>
          subst hcs
          have := hy.not_exponentMark _ (List.mem_append_right _ List.mem_cons_self)
          rw [hmark hm] at this
          cases this
      | exponent hy hm' hn' =>
          obtain ⟨rfl, -, rfl⟩ := eq_of_append_cons_eq hcs hx.not_exponentMark (hmark hm)
            hy.not_exponentMark (hmark hm')
          rw [hx.unique hy, hn.unique hn']

/-- A text writes at most one number in scientific notation. -/
theorem ScientificNotation.unique {cs : List Char} {x y : ℚ} (hx : ScientificNotation cs x)
    (hy : ScientificNotation cs y) : x = y := by
  obtain ⟨negative, body, magnitude, hsign, hbody, rfl⟩ := hx
  obtain ⟨negative', body', magnitude', hsign', hbody', rfl⟩ := hy
  obtain ⟨rfl, rfl⟩ := Lexical.eq_dropSign_of_signPrefix hsign hbody.head_not_sign
  obtain ⟨rfl, rfl⟩ := Lexical.eq_dropSign_of_signPrefix hsign' hbody'.head_not_sign
  rw [hbody.unique hbody']

/-- A character other than a sign survives `dropSign`. -/
theorem Lexical.mem_dropSign {cs : List Char} {c : Char} (hc : c ∈ cs) (hplus : c ≠ '+')
    (hminus : c ≠ '-') : c ∈ Lexical.dropSign cs := by
  unfold Lexical.dropSign
  split <;> simp_all

/-- Text with an exponent mark is not decimal notation: no decimal is read from it. -/
theorem Lexical.readDecimal?_eq_none_of_exponentMark {s : String} {c : Char} (hc : c ∈ s.toList)
    (hmark : isExponentMark c = true) : readDecimal? s = none := by
  rw [readDecimal?_eq]
  split
  · rename_i hshape
    obtain ⟨x, hx⟩ := isDecimalShape_eq_true_iff.mp hshape
    have hsign : c ≠ '+' ∧ c ≠ '-' := by
      constructor <;> rintro rfl <;> simp [isExponentMark] at hmark
    have hmark' := hx.not_exponentMark c (mem_dropSign hc hsign.1 hsign.2)
    rw [hmark] at hmark'
    cases hmark'
  · rfl

/-- Scientific notation is made of digits, points, signs and exponent marks. -/
theorem ScientificNotation.mem {cs : List Char} {x : ℚ} (h : ScientificNotation cs x) {c : Char}
    (hc : c ∈ cs) :
    c.isDigit = true ∨ c = '.' ∨ c = '+' ∨ c = '-' ∨ isExponentMark c = true := by
  obtain ⟨negative, body, magnitude, hsign, hbody, -⟩ := h
  have hbody_mem : c ∈ body → c.isDigit = true ∨ c = '.' ∨ c = '+' ∨ c = '-' ∨
      isExponentMark c = true := by
    intro hc
    cases hbody with
    | plain hx => rcases hx.isDigit_or_point hc with h | h <;> simp [h]
    | exponent hx hmark hn =>
        simp only [List.mem_append, List.mem_cons] at hc
        rcases hc with hc | rfl | hc
        · rcases hx.isDigit_or_point hc with h | h <;> simp [h]
        · rcases hmark with rfl | rfl <;> simp [isExponentMark]
        · obtain ⟨negative', digits, hsign', -, hdigits, -⟩ := hn
          cases hsign' with
          | unsigned => simp [hdigits c hc]
          | plus =>
              rcases List.mem_cons.mp hc with rfl | hc
              · simp
              · simp [hdigits c hc]
          | minus =>
              rcases List.mem_cons.mp hc with rfl | hc
              · simp
              · simp [hdigits c hc]
  cases hsign with
  | unsigned => exact hbody_mem hc
  | plus =>
      rcases List.mem_cons.mp hc with rfl | hc
      · simp
      · exact hbody_mem hc
  | minus =>
      rcases List.mem_cons.mp hc with rfl | hc
      · simp
      · exact hbody_mem hc

end Uniqueness

end SparqlExpr
