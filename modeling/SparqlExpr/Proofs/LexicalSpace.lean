import Mathlib
import SparqlExpr.Proofs.Notation
import SparqlExpr.Proofs.Rounding
import SparqlExpr.Proofs.WellFormed

/-!
The lexical spaces of the literal datatypes, and reading a literal against them.

`LexicalValue datatype s c v` says that the lexical form `s` denotes the value `v` in a
datatype of category `c`: integer notation within the bounds of the datatype, decimal notation
for its exact value, the special words or scientific notation for a double nearest to its value
(narrowed for a float), the four boolean words, any text for strings and unknown datatypes, and
for the temporal datatypes whatever their own readers accept.

The number reader behind doubles is taken apart into its sign, mantissa and exponent steps
(`NumberText.read?_eq`); on scientific notation it reads the digits and power of ten of the
number written (`read?_of_unsignedScientific`), and the pre-checks of `readDouble?` let through
exactly the special words and scientific notation (`readDouble?_of_scientific`,
`doubleLexical_of_readDouble?`).
-/

namespace SparqlExpr

/-- Unsigned scientific notation starts with a digit or a point, both below `A`. -/
theorem UnsignedScientific.exists_head {cs : List Char} {x : ℚ} (h : UnsignedScientific cs x) :
    ∃ c rest, cs = c :: rest ∧ c.toNat < 65 := by
  have hdecimal : ∀ {ds : List Char} {y : ℚ}, UnsignedDecimal ds y →
      ∃ c rest, ds = c :: rest ∧ c.toNat < 65 := by
    intro ds y hy
    obtain ⟨c, rest, rfl⟩ := List.exists_cons_of_ne_nil hy.ne_nil
    refine ⟨c, rest, rfl, ?_⟩
    rcases hy.isDigit_or_point List.mem_cons_self with hc | rfl
    · have := Char.isDigit_iff_toNat.mp hc
      simp only [Char.reduceToNat] at this
      omega
    · decide
  cases h with
  | plain hx => exact hdecimal hx
  | exponent hx =>
      obtain ⟨c, rest, rfl, hc⟩ := hdecimal hx
      exact ⟨c, _, rfl, hc⟩

namespace NumberText

/-- The sign step of the reader. -/
def splitSign (cs : List Char) : Bool × List Char :=
  match cs with
  | '-' :: rest => (true, rest)
  | '+' :: rest => (false, rest)
  | _ => (false, cs)

/-- The mantissa step of the reader: whole digits, fraction digits after a point, and the rest. -/
def mantissaSplit (body : List Char) : List Char × List Char × List Char :=
  let (whole, rest) := digitRun body
  let (fraction, rest) := match rest with
    | '.' :: more => digitRun more
    | _ => ([], rest)
  (whole, fraction, rest)

/-- The exponent step of the reader: nothing left, or an exponent mark and a signed integer. -/
def readExponent? (rest : List Char) : Option Int :=
  match rest with
  | [] => some 0
  | c :: more =>
    if c == 'e' || c == 'E' then
      let (eNegative, eBody) := splitSign more
      if !eBody.isEmpty && eBody.all Char.isDigit then
        let n : Int := digitsValue eBody
        some (if eNegative then -n else n)
      else none
    else none

/-- The reader in its three steps. -/
theorem read?_eq (s : String) : read? s =
    let (negative, body) := splitSign s.toList
    let word := (String.ofList body).toLower
    if word == "inf" || word == "infinity" then some (.infinity negative)
    else if word == "nan" then some .nan
    else
      let (whole, fraction, rest) := mantissaSplit body
      if whole.isEmpty && fraction.isEmpty then none
      else (readExponent? rest).map fun e =>
        .finite negative (digitsValue (whole ++ fraction)) (e - fraction.length) := by
  rfl

theorem splitSign_eq (cs : List Char) :
    splitSign cs = (cs.head? == some '-', Lexical.dropSign cs) := by
  unfold splitSign Lexical.dropSign
  split
  · rfl
  · rfl
  · rename_i hminus hplus
    rcases cs with _ | ⟨c, rest⟩
    · rfl
    · have hc : c ≠ '-' := fun h => hminus rest (h ▸ rfl)
      simp [hc]

/-- A character below `A` is its own lower case. -/
theorem toLower_eq_self {c : Char} (h : c.toNat < 65) : c.toLower = c := by
  unfold Char.toLower
  rw [dif_neg]
  rintro ⟨hA, -⟩
  have : 65 ≤ c.toNat := by simpa [UInt32.le_iff_toNat_le] using hA
  omega

/-- Text that starts with a character below `A` is none of the words the reader knows. -/
theorem toLower_ne_word {c : Char} (rest : List Char) (hc : c.toNat < 65) (w : String)
    (hw : ∀ d ∈ w.toList.head?, 65 ≤ d.toNat) : (String.ofList (c :: rest)).toLower ≠ w := by
  intro h
  have hhead := congrArg (fun t => t.toList.head?) h
  simp only [String.toLower, String.toList_map, String.toList_ofList, List.map_cons,
    List.head?_cons, toLower_eq_self hc] at hhead
  have := hw c hhead.symm
  omega

theorem word_check {c : Char} (rest : List Char) (hc : c.toNat < 65) :
    ((String.ofList (c :: rest)).toLower == "inf" ||
        (String.ofList (c :: rest)).toLower == "infinity") = false ∧
      ((String.ofList (c :: rest)).toLower == "nan") = false := by
  have hinf := toLower_ne_word rest hc "inf" (by simp)
  have hinfinity := toLower_ne_word rest hc "infinity" (by simp)
  have hnan := toLower_ne_word rest hc "nan" (by simp)
  simp only [Bool.or_eq_false_iff, beq_eq_false_iff_ne, ne_eq]
  exact ⟨⟨hinf, hinfinity⟩, hnan⟩

/-- A digit run is read up to the first character that is not a digit. -/
theorem digitRun_append {ds rest : List Char} (hds : AllDigits ds)
    (hrest : ∀ c ∈ rest.head?, c.isDigit = false) : digitRun (ds ++ rest) = (ds, rest) := by
  have htake : rest.takeWhile Char.isDigit = [] := by
    rcases rest with _ | ⟨c, more⟩
    · rfl
    · simp [hrest c rfl]
  have hdrop : rest.dropWhile Char.isDigit = rest := by
    rcases rest with _ | ⟨c, more⟩
    · rfl
    · simp [hrest c rfl]
  simp [digitRun, List.takeWhile_append_of_pos hds, List.dropWhile_append_of_pos hds, htake, hdrop]

/-- The mantissa step reads unsigned decimal notation followed by anything that starts with
neither a digit nor a point: the digits on both sides of the point, which write the number. -/
theorem mantissaSplit_append {cs rest : List Char} {x : ℚ} (h : UnsignedDecimal cs x)
    (hrest : ∀ c ∈ rest.head?, c.isDigit = false ∧ c ≠ '.') :
    ∃ whole fraction, mantissaSplit (cs ++ rest) = (whole, fraction, rest) ∧
      (whole ≠ [] ∨ fraction ≠ []) ∧
      (Nat.ofDigitChars 10 (whole ++ fraction) 0 : ℚ) / 10 ^ fraction.length = x := by
  have hnotdigit : ∀ c ∈ rest.head?, c.isDigit = false := fun c hc => (hrest c hc).1
  cases h with
  | whole hne hall =>
      refine ⟨_, [], ?_, Or.inl hne, by simp⟩
      unfold mantissaSplit
      rw [digitRun_append hall hnotdigit]
      rcases rest with _ | ⟨c, more⟩
      · rfl
      · have hc := (hrest c rfl).2
        simp [hc]
  | pointed hne hws hfs =>
      refine ⟨_, _, ?_, hne, rfl⟩
      unfold mantissaSplit
      rw [List.append_assoc, List.cons_append, digitRun_append hws (by simp)]
      simp only
      rw [digitRun_append hfs hnotdigit]

@[simp] theorem digitsValue_eq (cs : List Char) : digitsValue cs = Nat.ofDigitChars 10 cs 0 :=
  foldl_digit_eq_ofDigitChars cs 0

/-- The exponent step reads an exponent mark and integer notation as that integer. -/
theorem readExponent?_mark {mark : Char} (hmark : mark = 'e' ∨ mark = 'E') {es : List Char}
    {n : Int} (hn : IntegerNotation es n) : readExponent? (mark :: es) = some n := by
  obtain ⟨hdigits, rfl⟩ := Lexical.integerNotation_iff.mp hn
  have hmark' : (mark == 'e' || mark == 'E') = true := by rcases hmark with rfl | rfl <;> rfl
  have hcheck : (!(Lexical.dropSign es).isEmpty && (Lexical.dropSign es).all Char.isDigit) = true :=
    hdigits
  simp only [readExponent?, hmark', if_true, splitSign_eq, hcheck, digitsValue_eq]

/-- The reader reads scientific notation as digits and a power of ten whose product is the
number written, with the sign written. -/
theorem read?_of_unsignedScientific {s : String} {negative : Bool} {body : List Char} {x : ℚ}
    (hsign : SignPrefix s.toList negative body) (hbody : UnsignedScientific body x) :
    ∃ digits exp10, read? s = some (.finite negative digits exp10) ∧
      (digits : ℚ) * 10 ^ exp10 = x := by
  obtain ⟨hdrop, hnegative⟩ := Lexical.eq_dropSign_of_signPrefix hsign hbody.head_not_sign
  have hsplit : splitSign s.toList = (negative, body) := by rw [splitSign_eq, hdrop, hnegative]
  obtain ⟨c, rest, hcs, hc⟩ := hbody.exists_head
  obtain ⟨hinf, hnan⟩ := word_check rest hc
  rw [read?_eq, hsplit]
  simp only [hcs, hinf, hnan, Bool.false_eq_true, if_false]
  rw [← hcs]
  -- the digits of the mantissa, over ten to the fraction length, times ten to the exponent
  have hvalue : ∀ (whole fraction : List Char) (e : Int) (y : ℚ),
      (Nat.ofDigitChars 10 (whole ++ fraction) 0 : ℚ) / 10 ^ fraction.length = y →
      ((Nat.ofDigitChars 10 (whole ++ fraction) 0 : Nat) : ℚ) * 10 ^ (e - fraction.length) =
        y * 10 ^ e := by
    rintro whole fraction e y rfl
    rw [zpow_sub₀ (by norm_num), zpow_natCast]
    ring
  have hempty : ∀ whole fraction : List Char, (whole ≠ [] ∨ fraction ≠ []) →
      (whole.isEmpty && fraction.isEmpty) = false := by
    intro whole fraction hne
    rcases hne with hne | hne <;> simp [List.isEmpty_iff, hne]
  cases hbody with
  | plain hx =>
      obtain ⟨whole, fraction, hmantissa, hne, hx'⟩ := mantissaSplit_append hx
        (show ∀ c ∈ ([] : List Char).head?, c.isDigit = false ∧ c ≠ '.' by simp)
      rw [List.append_nil] at hmantissa
      simp only [hmantissa, hempty whole fraction hne, Bool.false_eq_true, if_false]
      refine ⟨_, _, rfl, ?_⟩
      simpa using hvalue whole fraction 0 x hx'
  | @exponent cs es y mark n hx hmark hn =>
      have hrest : ∀ d ∈ (mark :: es).head?, d.isDigit = false ∧ d ≠ '.' := by
        rintro d hd
        cases hd
        rcases hmark with rfl | rfl <;> decide
      obtain ⟨whole, fraction, hmantissa, hne, hx'⟩ := mantissaSplit_append hx hrest
      simp only [hmantissa, hempty whole fraction hne, Bool.false_eq_true, if_false,
        readExponent?_mark hmark hn, Option.map_some]
      refine ⟨_, _, rfl, ?_⟩
      rw [digitsValue_eq]
      exact hvalue whole fraction n y hx'

/-- The reader refuses text whose body, after one sign, starts with a second sign. -/
theorem read?_eq_none_of_sign {s : String} {c : Char} {rest : List Char}
    (hbody : Lexical.dropSign s.toList = c :: rest) (hc : c = '+' ∨ c = '-') : read? s = none := by
  have hlow : c.toNat < 65 := by rcases hc with rfl | rfl <;> decide
  have hdigit : c.isDigit = false := by rcases hc with rfl | rfl <;> decide
  have hpoint : c ≠ '.' := by rcases hc with rfl | rfl <;> decide
  obtain ⟨hinf, hnan⟩ := word_check rest hlow
  have hrun : digitRun (c :: rest) = ([], c :: rest) :=
    digitRun_append (show AllDigits [] from fun _ h => nomatch h) (by simpa using hdigit)
  rw [read?_eq, splitSign_eq, hbody]
  simp only [hinf, hnan, Bool.false_eq_true, if_false]
  simp [mantissaSplit, hrun, hpoint]

end NumberText

namespace Lexical

open BinaryFormat

/-- The doubles a lexical form of xsd:double denotes: the four special words, or a double
nearest to the number written in scientific notation, with the sign written. -/
inductive DoubleLexical : String → Float → Prop
  | infinity : DoubleLexical "INF" (Numeric.doubleOfBits (binary64.infinityBits false))
  | plusInfinity : DoubleLexical "+INF" (Numeric.doubleOfBits (binary64.infinityBits false))
  | minusInfinity : DoubleLexical "-INF" (Numeric.doubleOfBits (binary64.infinityBits true))
  | nan : DoubleLexical "NaN" (Numeric.doubleOfBits binary64.nanBits)
  | finite {s : String} {negative : Bool} {body : List Char} {x : ℚ} {bits : Nat} :
      SignPrefix s.toList negative body → UnsignedScientific body x →
      binary64.RoundsToNearest negative x bits → DoubleLexical s (Numeric.doubleOfBits bits)

/-- Scientific notation is read as the digits and power of ten it writes, rounded to nearest
double. -/
theorem readText?_of_unsignedScientific {s : String} {negative : Bool} {body : List Char} {x : ℚ}
    (hsign : SignPrefix s.toList negative body) (hbody : UnsignedScientific body x) :
    ∃ bits, binary64.RoundsToNearest negative x bits ∧ binary64.readText? s = some bits := by
  obtain ⟨digits, exp10, hread, hvalue⟩ := NumberText.read?_of_unsignedScientific hsign hbody
  refine ⟨binary64.roundDecimal negative digits exp10, hvalue ▸ binary64_roundDecimal _ _ _, ?_⟩
  simp [readText?, hread, ofNumberText]

/-- After the pre-checks of `readDouble?`, text whose body is a mantissa in decimal notation and
a tail that makes scientific notation of an unsigned mantissa denotes what the number reader
reads from it: a second sign before the mantissa makes the reader refuse it. -/
theorem doubleLexical_of_checks {s : String} {mantissa tail : List Char} {x : ℚ}
    (hunsigned : dropSign s.toList = mantissa ++ tail) (hmantissa : DecimalNotation mantissa x)
    (htail : ∀ {y : ℚ}, UnsignedDecimal mantissa y → ∃ z, UnsignedScientific (mantissa ++ tail) z)
    {bits : Nat} (hread : binary64.readText? s = some bits) :
    DoubleLexical s (Numeric.doubleOfBits bits) := by
  obtain ⟨negative, body, magnitude, hsign, hbody, -⟩ := hmantissa
  cases hsign with
  | unsigned =>
      obtain ⟨z, hz⟩ := htail hbody
      have hsign := signPrefix_dropSign s.toList
      rw [hunsigned] at hsign
      obtain ⟨bits', hround, hread'⟩ := readText?_of_unsignedScientific hsign hz
      rw [hread] at hread'
      cases hread'
      exact .finite hsign hz hround
  | plus =>
      have hnone := NumberText.read?_eq_none_of_sign hunsigned (Or.inl rfl)
      simp [readText?, hnone] at hread
  | minus =>
      have hnone := NumberText.read?_eq_none_of_sign hunsigned (Or.inr rfl)
      simp [readText?, hnone] at hread

theorem length_dropSign_le (cs : List Char) : (dropSign cs).length ≤ cs.length := by
  unfold dropSign
  split <;> simp

/-- Unsigned decimal notation of fewer than `2^63` characters passes the decimal check. -/
theorem readDecimal?_isNone_ofList {cs : List Char} {y : ℚ} (hy : UnsignedDecimal cs y)
    (hlength : cs.length < 2 ^ 63) : (readDecimal? (String.ofList cs)).isNone = false := by
  have hwritten : DecimalNotation (String.ofList cs).toList y := by
    rw [String.toList_ofList]
    exact ⟨false, cs, y, .unsigned cs, hy, by simp [signed]⟩
  obtain ⟨d, hd, -⟩ := readDecimal?_of_decimalNotation hwritten (by simpa using hlength)
  simp [hd]

/-- Scientific notation has no letter `N`, and each special word has one. -/
theorem special_eq_false {s : String} {x : ℚ} (h : ScientificNotation s.toList x) :
    (s == "INF" || s == "+INF") = false ∧ (s == "-INF") = false ∧ (s == "NaN") = false := by
  have hN : 'N' ∉ s.toList := fun hmem => by
    rcases h.mem hmem with h | h | h | h | h <;> revert h <;> decide
  have hword : ∀ w : String, 'N' ∈ w.toList → s ≠ w := fun w hw hsw => hN (hsw ▸ hw)
  simp only [Bool.or_eq_false_iff, beq_eq_false_iff_ne, ne_eq]
  exact ⟨⟨hword "INF" (by decide), hword "+INF" (by decide)⟩, hword "-INF" (by decide),
    hword "NaN" (by decide)⟩

/-- Scientific notation of fewer than `2^63` characters is read as a double nearest to the number
it writes. -/
theorem readDouble?_of_scientific {s : String} {negative : Bool} {body : List Char} {x : ℚ}
    (hsign : SignPrefix s.toList negative body) (hbody : UnsignedScientific body x)
    (hs : s.length < 2 ^ 63) :
    ∃ bits, binary64.RoundsToNearest negative x bits ∧
      readDouble? s = some (Numeric.doubleOfBits bits) := by
  obtain ⟨h1, h2, h3⟩ := special_eq_false ⟨negative, body, x, hsign, hbody, rfl⟩
  obtain ⟨bits, hround, hread⟩ := readText?_of_unsignedScientific hsign hbody
  obtain ⟨hdrop, -⟩ := eq_dropSign_of_signPrefix hsign hbody.head_not_sign
  have hlength : body.length < 2 ^ 63 := by
    have := length_dropSign_le s.toList
    rw [← hdrop, String.length_toList] at this
    omega
  refine ⟨bits, hround, ?_⟩
  unfold readDouble?
  simp only [h1, h2, h3, Bool.false_eq_true, if_false, ← hdrop]
  cases hbody with
  | plain hx =>
      have hfind : body.findIdx? (fun c => c == 'e' || c == 'E') = none :=
        List.findIdx?_eq_none_iff.mpr hx.not_exponentMark
      simp [hfind, readDecimal?_isNone_ofList hx hlength, hread]
  | @exponent cs es y mark n hx hmark hn =>
      have hmark' : (mark == 'e' || mark == 'E') = true := by rcases hmark with rfl | rfl <;> rfl
      have hfind : (cs ++ mark :: es).findIdx? (fun c => c == 'e' || c == 'E') = some cs.length :=
        findIdx?_append_cons (p := fun c => c == 'e' || c == 'E') hx.not_exponentMark hmark'
      have hdigits := (integerNotation_iff.mp hn).1
      have hcs : cs.length < 2 ^ 63 := by simp at hlength; omega
      simp [hfind, readDecimal?_isNone_ofList hx hcs, hdigits, hread]

/-- A double read from text is one the text denotes. -/
theorem doubleLexical_of_readDouble? {s : String} {y : Float} (h : readDouble? s = some y) :
    DoubleLexical s y := by
  unfold readDouble? at h
  by_cases h1 : (s == "INF" || s == "+INF") = true
  · rw [if_pos h1, Option.some.injEq] at h
    subst h
    rcases (by simpa using h1 : s = "INF" ∨ s = "+INF") with rfl | rfl
    · exact .infinity
    · exact .plusInfinity
  rw [if_neg h1] at h
  by_cases h2 : (s == "-INF") = true
  · rw [if_pos h2, Option.some.injEq] at h
    subst h
    rw [(by simpa using h2 : s = "-INF")]
    exact .minusInfinity
  rw [if_neg h2] at h
  by_cases h3 : (s == "NaN") = true
  · rw [if_pos h3, Option.some.injEq] at h
    subst h
    rw [(by simpa using h3 : s = "NaN")]
    exact .nan
  rw [if_neg h3] at h
  -- the checks passed: a decimal mantissa, and integer notation after an exponent mark
  dsimp only at h
  rcases hfind : (dropSign s.toList).findIdx? (fun c => c == 'e' || c == 'E') with _ | i
  · simp only [hfind, Bool.not_true, Bool.or_false] at h
    split at h
    · cases h
    rename_i hchecks
    obtain ⟨d, hd⟩ := Option.ne_none_iff_exists'.mp (by simpa using hchecks)
    obtain ⟨bits, hbits, rfl⟩ := Option.map_eq_some_iff.mp h
    have hwritten : DecimalNotation (dropSign s.toList) d.toRat := by
      simpa using decimalNotation_of_readDecimal? hd
    exact doubleLexical_of_checks (List.append_nil _).symm hwritten
      (fun hy => ⟨_, .plain (by simpa using hy)⟩) hbits
  · obtain ⟨c, hc, hsplit, -⟩ := findIdx?_eq_some_split hfind
    simp only [hfind] at h
    split at h
    · cases h
    rename_i hchecks
    simp only [Bool.or_eq_true, not_or, Option.isNone_iff_eq_none, Bool.not_eq_true'] at hchecks
    obtain ⟨d, hd⟩ := Option.ne_none_iff_exists'.mp hchecks.1
    have hdigits : allDigits (dropSign ((dropSign s.toList).drop (i + 1))) = true := by
      simpa using hchecks.2
    obtain ⟨bits, hbits, rfl⟩ := Option.map_eq_some_iff.mp h
    have hmark : c = 'e' ∨ c = 'E' := by simpa using hc
    have hn : IntegerNotation ((dropSign s.toList).drop (i + 1)) _ :=
      integerNotation_iff.mpr ⟨hdigits, rfl⟩
    have hwritten : DecimalNotation ((dropSign s.toList).take i) d.toRat := by
      simpa using decimalNotation_of_readDecimal? hd
    exact doubleLexical_of_checks hsplit hwritten (fun hy => ⟨_, .exponent hy hmark hn⟩) hbits

/-- Every text that denotes a double is read, once shorter than `2^63` characters, as a double
it denotes. -/
theorem readDouble?_of_doubleLexical {s : String} {y : Float} (h : DoubleLexical s y)
    (hs : s.length < 2 ^ 63) : ∃ z, DoubleLexical s z ∧ readDouble? s = some z := by
  cases h with
  | infinity => exact ⟨_, .infinity, rfl⟩
  | plusInfinity => exact ⟨_, .plusInfinity, rfl⟩
  | minusInfinity => exact ⟨_, .minusInfinity, rfl⟩
  | nan => exact ⟨_, .nan, rfl⟩
  | finite hsign hbody _ =>
      obtain ⟨bits, hround, hread⟩ := readDouble?_of_scientific hsign hbody hs
      exact ⟨_, .finite hsign hbody hround, hread⟩

/-- The values a lexical form denotes in a datatype of the given category: integer notation
within the bounds of the datatype, decimal notation of the value, a double the text denotes
(narrowed to a float for xsd:float), the boolean words, the text itself for strings and unknown
datatypes, and what the temporal readers accept. No lexical form denotes a language-tagged
string without a tag. -/
inductive LexicalValue (datatype lexical : String) : Category → LiteralValue → Prop
  | integer {n : Int} : IntegerNotation lexical.toList n → WithinBounds datatype n →
      LexicalValue datatype lexical .integer (.numeric (.integer n))
  | decimal {d : Decimal} : DecimalNotation lexical.toList d.toRat →
      LexicalValue datatype lexical .decimal (.numeric (.decimal d))
  | float {x : Float} : DoubleLexical lexical x →
      LexicalValue datatype lexical .float (.numeric (.float (Numeric.narrow x)))
  | double {x : Float} : DoubleLexical lexical x →
      LexicalValue datatype lexical .double (.numeric (.double x))
  | booleanTrue : lexical = "true" ∨ lexical = "1" →
      LexicalValue datatype lexical .boolean (.boolean true)
  | booleanFalse : lexical = "false" ∨ lexical = "0" →
      LexicalValue datatype lexical .boolean (.boolean false)
  | string : LexicalValue datatype lexical .string (.string lexical)
  | other : LexicalValue datatype lexical .other (.other lexical)
  | dateTime {v : Temporal.DateTime} : Temporal.DateTime.parse? lexical = some v →
      LexicalValue datatype lexical .dateTime (.dateTime v)
  | date {v : Temporal.Date} : Temporal.Date.parse? lexical = some v →
      LexicalValue datatype lexical .date (.date v)
  | time {v : Temporal.Time} : Temporal.Time.parse? lexical = some v →
      LexicalValue datatype lexical .time (.time v)
  | duration {v : Temporal.Duration} : Temporal.Duration.parse? lexical = some v →
      LexicalValue datatype lexical .duration (.duration v)

theorem readBoolean?_eq_some {s : String} {b : Bool} (h : readBoolean? s = some b) :
    (s = "true" ∨ s = "1") ∧ b = true ∨ (s = "false" ∨ s = "0") ∧ b = false := by
  unfold readBoolean? at h
  split at h
  · rename_i hs
    cases h
    exact Or.inl ⟨by simpa using hs, rfl⟩
  split at h
  · rename_i hs
    cases h
    exact Or.inr ⟨by simpa using hs, rfl⟩
  · cases h

/-- A value read for a category is one the lexical form denotes. -/
theorem lexicalValue_of_readValue? {lexical datatype : String} {c : Category} {v : LiteralValue}
    (h : readValue? lexical datatype c = some v) : LexicalValue datatype lexical c v := by
  cases c <;> simp only [readValue?, Option.map_eq_some_iff, reduceCtorEq] at h
  case integer =>
    obtain ⟨n, hn, rfl⟩ := h
    obtain ⟨hwritten, hbounds⟩ := readInteger?_eq_some_iff.mp hn
    exact .integer hwritten hbounds
  case decimal =>
    obtain ⟨d, hd, rfl⟩ := h
    exact .decimal (decimalNotation_of_readDecimal? hd)
  case float =>
    obtain ⟨x, hx, rfl⟩ := h
    exact .float (doubleLexical_of_readDouble? hx)
  case double =>
    obtain ⟨x, hx, rfl⟩ := h
    exact .double (doubleLexical_of_readDouble? hx)
  case boolean =>
    obtain ⟨b, hb, rfl⟩ := h
    rcases readBoolean?_eq_some hb with ⟨hs, rfl⟩ | ⟨hs, rfl⟩
    · exact .booleanTrue hs
    · exact .booleanFalse hs
  case string =>
    cases h
    exact .string
  case other =>
    cases h
    exact .other
  case dateTime =>
    obtain ⟨t, ht, rfl⟩ := h
    exact .dateTime ht
  case date =>
    obtain ⟨t, ht, rfl⟩ := h
    exact .date ht
  case time =>
    obtain ⟨t, ht, rfl⟩ := h
    exact .time ht
  case duration =>
    obtain ⟨t, ht, rfl⟩ := h
    exact .duration ht

/-- A lexical form that denotes a value for a category, shorter than `2^63` characters, is read
as a value it denotes. -/
theorem readValue?_of_lexicalValue {lexical datatype : String} {c : Category} {v : LiteralValue}
    (hv : LexicalValue datatype lexical c v) (hlength : lexical.length < 2 ^ 63) :
    ∃ w, LexicalValue datatype lexical c w ∧ readValue? lexical datatype c = some w := by
  cases hv with
  | integer hn hbounds =>
      exact ⟨_, .integer hn hbounds, by simp [readValue?, readInteger?_eq_some_iff.mpr ⟨hn, hbounds⟩]⟩
  | decimal hd =>
      obtain ⟨d, hread, hvalue⟩ := readDecimal?_of_decimalNotation hd hlength
      exact ⟨_, .decimal (hvalue ▸ hd), by simp [readValue?, hread]⟩
  | float hx =>
      obtain ⟨z, hz, hread⟩ := readDouble?_of_doubleLexical hx hlength
      exact ⟨_, .float hz, by simp [readValue?, hread]⟩
  | double hx =>
      obtain ⟨z, hz, hread⟩ := readDouble?_of_doubleLexical hx hlength
      exact ⟨_, .double hz, by simp [readValue?, hread]⟩
  | booleanTrue hs =>
      refine ⟨_, .booleanTrue hs, ?_⟩
      rcases hs with rfl | rfl <;> rfl
  | booleanFalse hs =>
      refine ⟨_, .booleanFalse hs, ?_⟩
      rcases hs with rfl | rfl <;> rfl
  | string => exact ⟨_, .string, rfl⟩
  | other => exact ⟨_, .other, rfl⟩
  | dateTime ht => exact ⟨_, .dateTime ht, by simp [readValue?, ht]⟩
  | date ht => exact ⟨_, .date ht, by simp [readValue?, ht]⟩
  | time ht => exact ⟨_, .time ht, by simp [readValue?, ht]⟩
  | duration ht => exact ⟨_, .duration ht, by simp [readValue?, ht]⟩

end Lexical

namespace Term

open Lexical

/-- Reading a literal: with a language tag, a language-tagged string of the text; without one,
a literal of the datatype with a value the text denotes when the text is in the lexical space
of the datatype's category, and an ill-typed literal of the text and datatype when it is not. -/
theorem parseLiteral_lexicalSpace (lexical datatype : String) (hlength : lexical.length < 2 ^ 63) :
    (∀ language, parseLiteral lexical datatype (some language) =
        .literal ⟨.string lexical, some lexical, Vocabulary.langString, some language⟩) ∧
      ((∃ v, LexicalValue datatype lexical (Category.ofDatatype datatype) v) →
        ∃ v, LexicalValue datatype lexical (Category.ofDatatype datatype) v ∧
          parseLiteral lexical datatype none = .literal ⟨v, some lexical, datatype, none⟩) ∧
      ((¬∃ v, LexicalValue datatype lexical (Category.ofDatatype datatype) v) →
        parseLiteral lexical datatype none = .illTyped lexical datatype) := by
  refine ⟨fun language => rfl, fun ⟨v, hv⟩ => ?_, fun hnone => ?_⟩
  · obtain ⟨w, hw, hread⟩ := readValue?_of_lexicalValue hv hlength
    exact ⟨w, hw, by simp [parseLiteral, hread]⟩
  · unfold parseLiteral
    cases hread : readValue? lexical datatype (Category.ofDatatype datatype) with
    | none => rfl
    | some v => exact absurd ⟨v, lexicalValue_of_readValue? hread⟩ hnone

/-- The text `42` is read as an xsd:integer it denotes. -/
theorem answer_reads_as_integer :
    ∃ v, LexicalValue Vocabulary.xsdInteger "42" (Category.ofDatatype Vocabulary.xsdInteger) v ∧
      parseLiteral "42" Vocabulary.xsdInteger none =
        .literal ⟨v, some "42", Vocabulary.xsdInteger, none⟩ := by
  have hread : readInteger? "42" Vocabulary.xsdInteger = some 42 := by decide
  obtain ⟨hwritten, hbounds⟩ := readInteger?_eq_some_iff.mp hread
  have hvalue : LexicalValue Vocabulary.xsdInteger "42" (Category.ofDatatype Vocabulary.xsdInteger)
      (.numeric (.integer 42)) := by
    rw [Category.ofDatatype_xsdInteger]
    exact .integer hwritten hbounds
  exact (parseLiteral_lexicalSpace "42" Vocabulary.xsdInteger (by decide)).2.1 ⟨_, hvalue⟩

end Term

end SparqlExpr
