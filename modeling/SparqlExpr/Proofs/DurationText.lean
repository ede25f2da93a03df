import Mathlib
import SparqlExpr.Proofs.LexicalSpace

/-!
The lexical form of a duration, and what the duration reader makes of it.

A duration is written `-?P(nY)?(nM)?(nD)?(T(nH)?(nM)?(n(.n)?S)?)?`, each `n` a run of ASCII
digits, with at least one component, and at least one after a `T`. `DurationText` is that
grammar as data, each structure carrying its own conditions, and `DurationText.text` writes it.

The reader finds each component by splitting at the first occurrence of its designator, so a
designator that recurs in another role (`M` for months and for minutes, `T` between the parts)
is found where it belongs only because what stands before it must be digits. Its two loops make
one step per designator, `componentStep`, with an update of the value read so far:
`readDatePart_eq` and `readTimePart_eq` write the loops as those steps in a row, and the
grammar is then read one step at a time, forward (`componentStep_text`) and back
(`componentStep_eq_some`).

The main statement is `duration_reader_matches_grammar`.
-/

namespace SparqlExpr.Temporal.Duration

open BinaryFormat

section Grammar

/-- A non-empty run of ASCII digits, the count of one component. -/
structure DigitRun where
  chars : List Char
  ne_nil : chars ≠ []
  digits : AllDigits chars

/-- The count a run of digits writes. -/
def DigitRun.value (r : DigitRun) : Nat := Nat.ofDigitChars 10 r.chars 0

/-- The count of an optional component, zero when it is absent. -/
def count (c : Option DigitRun) : Nat := (c.map DigitRun.value).getD 0

/-- An optional component: nothing, or its digits followed by its designator. -/
def componentText (unit : Char) : Option DigitRun → List Char
  | none => []
  | some r => r.chars ++ [unit]

/-- The seconds component before its `S`: whole digits, then optionally a point and fraction
digits. -/
structure SecondsText where
  whole : DigitRun
  fraction : Option DigitRun

def SecondsText.chars (sec : SecondsText) : List Char :=
  match sec.fraction with
  | none => sec.whole.chars
  | some f => sec.whole.chars ++ '.' :: f.chars

/-- The number the seconds component writes. -/
def SecondsText.value (sec : SecondsText) : ℚ :=
  match sec.fraction with
  | none => sec.whole.value
  | some f => (Nat.ofDigitChars 10 (sec.whole.chars ++ f.chars) 0 : ℚ) / 10 ^ f.chars.length

/-- An optional seconds component with its designator. -/
def secondsText : Option SecondsText → List Char
  | none => []
  | some sec => sec.chars ++ ['S']

/-- The part after `T`: optional hours, minutes and seconds, at least one of them. -/
structure TimeText where
  hours : Option DigitRun
  minutes : Option DigitRun
  seconds : Option SecondsText
  nonempty : hours.isSome ∨ minutes.isSome ∨ seconds.isSome

def TimeText.text (t : TimeText) : List Char :=
  componentText 'H' t.hours ++ componentText 'M' t.minutes ++ secondsText t.seconds

/-- A duration text: its sign, the components before `T`, and the part after `T` when there is
one; at least one of them is present. -/
structure DurationText where
  negative : Bool
  years : Option DigitRun
  months : Option DigitRun
  days : Option DigitRun
  time : Option TimeText
  nonempty : years.isSome ∨ months.isSome ∨ days.isSome ∨ time.isSome

/-- The components before `T`. -/
def datePartText (years months days : Option DigitRun) : List Char :=
  componentText 'Y' years ++ componentText 'M' months ++ componentText 'D' days

/-- `T` and the part after it, when there is one. -/
def timePartText : Option TimeText → List Char
  | none => []
  | some t => 'T' :: t.text

def DurationText.text (f : DurationText) : List Char :=
  Decimal.signText f.negative ++ 'P' :: (datePartText f.years f.months f.days ++ timePartText f.time)

/-- The counts fit their words: years and months together as a signed 64-bit count of months,
and days, hours and minutes each as an unsigned 64-bit count. -/
def DurationText.InRange (f : DurationText) : Prop :=
  ((12 * count f.years + count f.months : Nat) : Int) ≤ wordMax ∧ count f.days ≤ unsignedMax ∧
    ∀ t ∈ f.time, count t.hours ≤ unsignedMax ∧ count t.minutes ≤ unsignedMax

/-- The months of a duration text: twelve for a year and one for a month, negated by a sign. -/
def DurationText.monthCount (f : DurationText) : Int :=
  Decimal.signedInt f.negative (12 * count f.years + count f.months)

/-- An optional count as seconds: the float nearest the count times the seconds it stands for. -/
def countTerm (factor : Float) (c : Option DigitRun) : List Float :=
  c.toList.map fun r => floatOfNat r.value * factor

/-- The floats the seconds of a duration text add up, in the order of the text: days, hours and
minutes, then the seconds component as `secondsFloat`. -/
def DurationText.secondTerms (f : DurationText) (secondsFloat : Float) : List Float :=
  countTerm 86400 f.days ++
    match f.time with
    | none => []
    | some t =>
      countTerm 3600 t.hours ++ countTerm 60 t.minutes ++ t.seconds.toList.map fun _ => secondsFloat

/-- The seconds of a duration text: its terms added to zero from left to right in floating point,
negated by a sign. -/
def DurationText.secondCount (f : DurationText) (secondsFloat : Float) : Float :=
  let total := (f.secondTerms secondsFloat).foldl (· + ·) 0
  if f.negative then -total else total

end Grammar

section Steps

variable {α : Type}

/-- One pass of the reader's loops: the digits before the first `unit`, read as a count and
handed to `update` with the value so far; nothing changes when `unit` does not occur. -/
def componentStep (unit : Char) (update : Nat → α → Option α) (acc : α × List Char) :
    Option (α × List Char) :=
  match splitAt? unit acc.2 with
  | some (num, tail) => (digitsValue? num).bind fun n => (update n acc.1).map (·, tail)
  | none => some acc

/-- The update of the month loop: a count times its factor added to the months, refused when
the count, the product or the sum leaves the signed word. -/
def monthUpdate (factor : Int) (n : Nat) (months : Int) : Option Int :=
  if wordMax < n ∨ wordMax < n * factor ∨ wordMax < months + n * factor then none
  else some (months + n * factor)

/-- The update of the day, hour and minute components: a count, refused beyond the unsigned
word, as its nearest float times the seconds it stands for, added to the seconds. -/
def secondsUpdate (factor : Float) (n : Nat) (seconds : Float) : Option Float :=
  if unsignedMax < n then none else some (seconds + floatOfNat n * factor)

/-- The value after an optional component: its update with the count, or the value unchanged. -/
def applyComponent (update : Nat → α → Option α) : Option DigitRun → α → Option α
  | none, acc => some acc
  | some r, acc => update r.value acc

/-- The seconds field that ends the time part, as `readTimePart` reads it after its loop. -/
def secondsField (seconds : Float) (rest : List Char) : Option Float :=
  if rest.getLast? == some 'S' then do
    let num := rest.dropLast
    let (whole, fraction) := match num.findIdx? (· == '.') with
      | some i => (num.take i, num.drop (i + 1))
      | none => (num, ['0'])
    let _ ← digitsValue? whole
    let _ ← digitsValue? fraction
    let bits ← binary64.readText? (String.ofList num)
    pure (seconds + Float.ofBits (UInt64.ofNat bits))
  else if rest.isEmpty then some seconds else none

/-- A loop whose every pass yields is the left fold of its step. -/
theorem forIn_of_yield {β : Type} {l : List α} {init : β} {body : α → β → Option (ForInStep β)}
    (step : α → β → Option β) (h : ∀ a b, body a b = ForInStep.yield <$> step a b) :
    forIn l init body = l.foldlM (fun b a => step a b) init := by
  rw [show body = fun a b => (fun c => ForInStep.yield c) <$> step a b from funext₂ h]
  simpa using List.forIn_yield_eq_foldlM step (fun _ _ c => c) init

/-- The date part is read by the month steps for `Y` and `M`, then the seconds step for `D`. -/
theorem readDatePart_eq (cs : List Char) :
    readDatePart cs =
      ((componentStep 'Y' (monthUpdate 12) (0, cs)).bind (componentStep 'M' (monthUpdate 1))).bind
        fun p => (componentStep 'D' (secondsUpdate 86400) (0, p.2)).map fun q => (p.1, q.1, q.2) := by
  unfold readDatePart
  dsimp only
  rw [forIn_of_yield (fun x acc => componentStep x.1 (monthUpdate x.2) acc)]
  · simp only [List.foldlM_cons, List.foldlM_nil, bind_pure, Option.bind_eq_bind]
    rcases (componentStep 'Y' (monthUpdate 12) (0, cs)).bind (componentStep 'M' (monthUpdate 1))
      with _ | ⟨months, rest⟩
    · rfl
    · simp only [componentStep, secondsUpdate, Option.bind_some]
      rcases splitAt? 'D' rest with _ | ⟨num, tail⟩
      · rfl
      · dsimp only
        rcases digitsValue? num with _ | n
        · rfl
        · by_cases hn : unsignedMax < n <;> simp [hn]
  · -- one pass of the month loop, for any designator and factor
    rintro ⟨unit, factor⟩ ⟨months, rest⟩
    simp only [componentStep, monthUpdate]
    rcases splitAt? unit rest with _ | ⟨num, tail⟩
    · rfl
    · dsimp only
      rcases digitsValue? num with _ | n
      · rfl
      · by_cases hn : wordMax < n
        · simp [hn]
        by_cases hm : wordMax < n * factor ∨ wordMax < months + n * factor
        · simp [hm]
        · rw [not_or] at hm
          simp [hn, hm.1, hm.2]

/-- The time part is read by the seconds steps for `H` and `M`, then the seconds field. -/
theorem readTimePart_eq (seconds : Float) (cs : List Char) :
    readTimePart seconds cs =
      ((componentStep 'H' (secondsUpdate 3600) (seconds, cs)).bind
        (componentStep 'M' (secondsUpdate 60))).bind fun p => secondsField p.1 p.2 := by
  unfold readTimePart
  dsimp only
  rw [forIn_of_yield (fun x acc => componentStep x.1 (secondsUpdate x.2) acc)]
  · simp only [List.foldlM_cons, List.foldlM_nil, bind_pure, Option.bind_eq_bind]
    rcases (componentStep 'H' (secondsUpdate 3600) (seconds, cs)).bind
      (componentStep 'M' (secondsUpdate 60)) with _ | ⟨total, rest⟩
    · rfl
    · rfl
  · rintro ⟨unit, factor⟩ ⟨total, rest⟩
    simp only [componentStep, secondsUpdate]
    rcases splitAt? unit rest with _ | ⟨num, tail⟩
    · rfl
    · dsimp only
      rcases digitsValue? num with _ | n
      · rfl
      · by_cases hn : unsignedMax < n <;> simp [hn]

end Steps

section Reading

/-! Splitting at a designator, and reading a run of digits. -/

theorem splitAt?_eq_some_iff {unit : Char} {cs num tail : List Char} :
    splitAt? unit cs = some (num, tail) ↔ cs = num ++ unit :: tail ∧ unit ∉ num := by
  constructor
  · intro h
    obtain ⟨i, hi, hpair⟩ := Option.map_eq_some_iff.mp h
    cases hpair
    obtain ⟨c, hc, hsplit, hbefore⟩ := findIdx?_eq_some_split hi
    have hcu : c = unit := beq_iff_eq.mp hc
    subst hcu
    exact ⟨hsplit, fun hmem => by simpa using hbefore c hmem⟩
  · rintro ⟨rfl, hnum⟩
    have hfind : (num ++ unit :: tail).findIdx? (· == unit) = some num.length :=
      findIdx?_append_cons (fun x hx => by simpa using ne_of_mem_of_not_mem hx hnum) (by simp)
    simp [splitAt?, hfind]

theorem splitAt?_eq_none_iff {unit : Char} {cs : List Char} :
    splitAt? unit cs = none ↔ unit ∉ cs := by
  simp [splitAt?, List.findIdx?_eq_none_iff, List.forall_mem_ne']

theorem digitsValue?_chars (r : DigitRun) : digitsValue? r.chars = some r.value := by
  have hdigits : r.chars.all Char.isDigit = true := List.all_eq_true.mpr r.digits
  simp only [digitsValue?, List.isEmpty_iff, r.ne_nil, hdigits, Bool.not_true, Bool.or_false,
    if_false]
  exact congrArg some (foldl_digit_eq_ofDigitChars r.chars 0)

theorem exists_digitRun_of_digitsValue? {cs : List Char} {n : Nat} (h : digitsValue? cs = some n) :
    ∃ r : DigitRun, r.chars = cs ∧ r.value = n := by
  unfold digitsValue? at h
  split at h
  · cases h
  · rename_i hcheck
    simp only [Bool.or_eq_true, List.isEmpty_iff, Bool.not_eq_eq_eq_not, Bool.not_true,
      List.all_eq_false, not_or, not_exists, not_and, not_not] at hcheck
    refine ⟨⟨cs, hcheck.1, hcheck.2⟩, rfl, ?_⟩
    cases h
    exact (foldl_digit_eq_ofDigitChars cs 0).symm

/-- A letter other than a designator does not occur in its component. -/
theorem not_mem_componentText {c unit : Char} (hc : c.isDigit = false) (hne : c ≠ unit)
    (r : Option DigitRun) : c ∉ componentText unit r := by
  cases r with
  | none => simp [componentText]
  | some r => simp [componentText, r.digits.not_mem hc, hne]

/-- A letter other than `S` does not occur in the seconds component. -/
theorem not_mem_secondsText {c : Char} (hc : c.isDigit = false) (hpoint : c ≠ '.') (hs : c ≠ 'S')
    (sec : Option SecondsText) : c ∉ secondsText sec := by
  rcases sec with _ | ⟨whole, _ | fraction⟩
  · simp [secondsText]
  · simp [secondsText, SecondsText.chars, whole.digits.not_mem hc, hs]
  · simp [secondsText, SecondsText.chars, whole.digits.not_mem hc, fraction.digits.not_mem hc,
      hpoint, hs]

end Reading

section Components

variable {α : Type} {unit : Char}

/-- A step reads an optional component in front of a text where its designator does not occur
again: it updates the value with the component's count, and leaves the rest of the text. -/
theorem componentStep_text (hunit : unit.isDigit = false) (update : Nat → α → Option α)
    (c : Option DigitRun) (acc : α) {rest : List Char} (hrest : unit ∉ rest) :
    componentStep unit update (acc, componentText unit c ++ rest) =
      (applyComponent update c acc).map (·, rest) := by
  cases c with
  | none =>
    have hnone : splitAt? unit rest = none := splitAt?_eq_none_iff.mpr hrest
    simp [componentStep, componentText, applyComponent, hnone]
  | some r =>
    have hsplit : splitAt? unit (r.chars ++ unit :: rest) = some (r.chars, rest) :=
      splitAt?_eq_some_iff.mpr ⟨rfl, r.digits.not_mem hunit⟩
    simp [componentStep, componentText, applyComponent, hsplit, digitsValue?_chars]

/-- A step that succeeds has read an optional component in front of the text, and updated the
value with its count. -/
theorem componentStep_eq_some {update : Nat → α → Option α} {acc acc' : α} {cs rest : List Char}
    (h : componentStep unit update (acc, cs) = some (acc', rest)) :
    ∃ c, cs = componentText unit c ++ rest ∧ applyComponent update c acc = some acc' := by
  unfold componentStep at h
  split at h
  · rename_i num tail hsplit
    obtain ⟨hcs, -⟩ := splitAt?_eq_some_iff.mp hsplit
    obtain ⟨n, hn, hupdate⟩ := Option.bind_eq_some_iff.mp h
    obtain ⟨r, rfl, rfl⟩ := exists_digitRun_of_digitsValue? hn
    obtain ⟨a, ha, hpair⟩ := Option.map_eq_some_iff.mp hupdate
    cases hpair
    exact ⟨some r, by simpa [componentText] using hcs, ha⟩
  · cases h
    exact ⟨none, rfl, rfl⟩

theorem wordMax_eq : wordMax = 9223372036854775807 := rfl

/-- From a month count within the word, a month step is refused exactly when the sum leaves the
word: with a factor of at least one, the count and the product are no larger than the sum. -/
theorem applyComponent_monthUpdate {factor months : Int} (hfactor : 1 ≤ factor)
    (hmonths : 0 ≤ months) (hmax : months ≤ wordMax) (c : Option DigitRun) :
    applyComponent (monthUpdate factor) c months =
      if wordMax < months + count c * factor then none else some (months + count c * factor) := by
  cases c with
  | none => simp [applyComponent, count, not_lt.mpr hmax]
  | some r =>
    have hprod : (r.value : Int) ≤ r.value * factor :=
      le_mul_of_one_le_right (Int.natCast_nonneg _) hfactor
    have hsum : wordMax < months + r.value * factor ↔
        wordMax < r.value ∨ wordMax < r.value * factor ∨ wordMax < months + r.value * factor := by
      constructor
      · exact fun h => Or.inr (Or.inr h)
      · rintro (h | h | h) <;> linarith
    show monthUpdate factor r.value months =
      if wordMax < months + r.value * factor then none else some (months + r.value * factor)
    unfold monthUpdate
    by_cases h : wordMax < months + r.value * factor
    · rw [if_pos (hsum.mp h), if_pos h]
    · rw [if_neg (mt hsum.mpr h), if_neg h]

/-- The two month steps give twelve months a year and one a month, when that fits the word. -/
theorem applyComponent_months (years months : Option DigitRun) :
    (applyComponent (monthUpdate 12) years 0).bind (applyComponent (monthUpdate 1) months) =
      if wordMax < ((12 * count years + count months : Nat) : Int) then none
      else some ((12 * count years + count months : Nat) : Int) := by
  have hmax : (0 : Int) ≤ wordMax := by rw [wordMax_eq]; norm_num
  have htotal : ((12 * count years + count months : Nat) : Int) =
      0 + count years * 12 + count months * 1 := by
    push_cast
    ring
  rw [applyComponent_monthUpdate (by norm_num) le_rfl hmax years, htotal]
  by_cases hyears : wordMax < 0 + count years * 12
  · rw [if_pos hyears, Option.bind_none, if_pos (by omega)]
  · rw [if_neg hyears, Option.bind_some,
      applyComponent_monthUpdate (by norm_num) (by positivity) (not_lt.mp hyears) months]

/-- A seconds step adds the float of its count, when the count fits the unsigned word. -/
theorem applyComponent_seconds (factor : Float) (c : Option DigitRun) (seconds : Float) :
    applyComponent (secondsUpdate factor) c seconds =
      if unsignedMax < count c then none
      else some ((countTerm factor c).foldl (· + ·) seconds) := by
  cases c with
  | none => simp [applyComponent, count, countTerm]
  | some r => simp [applyComponent, secondsUpdate, count, countTerm]

end Components

section Parts

/-- The date part of a duration text is read one component at a time. -/
theorem readDatePart_datePartText (years months days : Option DigitRun) :
    readDatePart (datePartText years months days) =
      ((applyComponent (monthUpdate 12) years 0).bind (applyComponent (monthUpdate 1) months)).bind
        fun total => (applyComponent (secondsUpdate 86400) days 0).map fun s => (total, s, []) := by
  have hY : 'Y' ∉ componentText 'M' months ++ componentText 'D' days := by
    simp [not_mem_componentText]
  have hM : 'M' ∉ componentText 'D' days := not_mem_componentText (by decide) (by decide) days
  have hD : componentStep 'D' (secondsUpdate 86400) (0, componentText 'D' days) =
      (applyComponent (secondsUpdate 86400) days 0).map (·, []) := by
    simpa using componentStep_text (by decide) (secondsUpdate 86400) days 0 List.not_mem_nil
  rw [readDatePart_eq, datePartText, List.append_assoc, componentStep_text (by decide) _ years 0 hY]
  simp only [Option.bind_map, Function.comp_def, componentStep_text (by decide) _ months _ hM,
    Option.bind_assoc, hD, Option.map_map]

/-- A date part whose counts fit their words reads as its month count and the seconds of its
days. -/
theorem readDatePart_text {years months days : Option DigitRun}
    (hmonths : ((12 * count years + count months : Nat) : Int) ≤ wordMax)
    (hdays : count days ≤ unsignedMax) :
    readDatePart (datePartText years months days) =
      some (((12 * count years + count months : Nat) : Int), (countTerm 86400 days).foldl (· + ·) 0,
        []) := by
  rw [readDatePart_datePartText, applyComponent_months, if_neg (not_lt.mpr hmonths),
    Option.bind_some, applyComponent_seconds, if_neg (not_lt.mpr hdays), Option.map_some]

/-- A date part read to its end is the text of its components, and their counts fit. -/
theorem readDatePart_eq_some {cs : List Char} {total : Int} {seconds : Float}
    (h : readDatePart cs = some (total, seconds, [])) :
    ∃ years months days, cs = datePartText years months days ∧
      ((12 * count years + count months : Nat) : Int) ≤ wordMax ∧ count days ≤ unsignedMax := by
  rw [readDatePart_eq] at h
  obtain ⟨⟨total', rest⟩, hyearsMonths, hdays⟩ := Option.bind_eq_some_iff.mp h
  obtain ⟨⟨total0, rest0⟩, hyears, hmonths⟩ := Option.bind_eq_some_iff.mp hyearsMonths
  obtain ⟨⟨s, rest'⟩, hdays, hpair⟩ := Option.map_eq_some_iff.mp hdays
  obtain ⟨years, rfl, hy⟩ := componentStep_eq_some hyears
  obtain ⟨months, rfl, hm⟩ := componentStep_eq_some hmonths
  obtain ⟨days, rfl, hd⟩ := componentStep_eq_some hdays
  have hrest : rest' = [] := by simp_all
  have hboth : (applyComponent (monthUpdate 12) years 0).bind (applyComponent (monthUpdate 1) months) =
      some total' := by
    rw [hy, Option.bind_some, hm]
  rw [applyComponent_months, Option.ite_none_left_eq_some] at hboth
  rw [applyComponent_seconds, Option.ite_none_left_eq_some] at hd
  refine ⟨years, months, days, by simp [datePartText, hrest], not_lt.mp hboth.1, not_lt.mp hd.1⟩

/-- The digits of the seconds component are unsigned decimal notation of its value. -/
theorem SecondsText.unsignedDecimal (sec : SecondsText) : UnsignedDecimal sec.chars sec.value := by
  rcases sec with ⟨whole, _ | fraction⟩
  · exact UnsignedDecimal.whole whole.ne_nil whole.digits
  · exact UnsignedDecimal.pointed (Or.inl whole.ne_nil) whole.digits fraction.digits

/-- The seconds component reads as a float nearest its value. -/
theorem SecondsText.readText?_chars (sec : SecondsText) :
    ∃ bits, binary64.RoundsToNearest false sec.value bits ∧
      binary64.readText? (String.ofList sec.chars) = some bits :=
  Lexical.readText?_of_unsignedScientific (String.toList_ofList ▸ SignPrefix.unsigned _)
    (UnsignedScientific.plain sec.unsignedDecimal)

/-- An optional seconds component reads as a float nearest its value. -/
theorem SecondsText.exists_bits (sec : Option SecondsText) :
    ∃ bits, (∀ s ∈ sec, binary64.RoundsToNearest false s.value bits) ∧
      ∀ s ∈ sec, binary64.readText? (String.ofList s.chars) = some bits := by
  cases sec with
  | none => exact ⟨0, by simp, by simp⟩
  | some sec =>
    obtain ⟨bits, hround, hread⟩ := sec.readText?_chars
    exact ⟨bits, by simpa using hround, by simpa using hread⟩

/-- The seconds field adds the float its component reads as, and nothing when there is none. -/
theorem secondsField_secondsText {bits : Nat} (sec : Option SecondsText)
    (hbits : ∀ s ∈ sec, binary64.readText? (String.ofList s.chars) = some bits) (seconds : Float) :
    secondsField seconds (secondsText sec) =
      some ((sec.toList.map fun _ => Float.ofBits (UInt64.ofNat bits)).foldl (· + ·) seconds) := by
  have hzero : digitsValue? ['0'] = some 0 := rfl
  rcases sec with _ | ⟨whole, _ | fraction⟩
  · simp [secondsField, secondsText]
  · -- whole seconds: no point, and the fraction defaults to `0`
    have hread := hbits _ rfl
    have hpoint : whole.chars.findIdx? (· == '.') = none :=
      List.findIdx?_eq_none_iff.mpr fun c hc => by
        simpa using ne_of_mem_of_not_mem hc (whole.digits.not_mem (by decide))
    simp only [SecondsText.chars] at hread
    simp only [secondsField, secondsText, List.getLast?_concat, List.dropLast_concat]
    simp [SecondsText.chars, hpoint, digitsValue?_chars, hread, hzero]
  · -- the first point splits the whole digits from the fraction digits
    have hread := hbits _ rfl
    have hpoint : (whole.chars ++ '.' :: fraction.chars).findIdx? (· == '.') =
        some whole.chars.length :=
      findIdx?_append_cons (fun c hc => by
        simpa using ne_of_mem_of_not_mem hc (whole.digits.not_mem (by decide))) (by decide)
    simp [SecondsText.chars] at hread
    simp only [secondsField, secondsText, List.getLast?_concat, List.dropLast_concat]
    simp [SecondsText.chars, hpoint, digitsValue?_chars, hread]

/-- A seconds field that is read is the text of an optional seconds component. -/
theorem secondsField_eq_some {seconds x : Float} {rest : List Char}
    (h : secondsField seconds rest = some x) : ∃ sec, rest = secondsText sec := by
  unfold secondsField at h
  split at h
  · rename_i hlast
    obtain ⟨num, rfl⟩ := List.getLast?_eq_some_iff.mp (beq_iff_eq.mp hlast)
    simp only [List.dropLast_concat] at h
    rcases hpoint : num.findIdx? (· == '.') with _ | i
    · -- no point: the digits are the whole seconds
      simp only [hpoint] at h
      obtain ⟨n, hn, -⟩ := Option.bind_eq_some_iff.mp h
      obtain ⟨whole, hwhole, -⟩ := exists_digitRun_of_digitsValue? hn
      exact ⟨some ⟨whole, none⟩, by simp [secondsText, SecondsText.chars, hwhole]⟩
    · -- the first point parts the whole digits from the fraction digits
      simp only [hpoint] at h
      obtain ⟨n, hn, h⟩ := Option.bind_eq_some_iff.mp h
      obtain ⟨m, hm, -⟩ := Option.bind_eq_some_iff.mp h
      obtain ⟨whole, hwhole, -⟩ := exists_digitRun_of_digitsValue? hn
      obtain ⟨fraction, hfraction, -⟩ := exists_digitRun_of_digitsValue? hm
      obtain ⟨c, hc, hsplit, -⟩ := findIdx?_eq_some_split hpoint
      have hdot : c = '.' := beq_iff_eq.mp hc
      refine ⟨some ⟨whole, some fraction⟩, ?_⟩
      rw [hsplit]
      simp [secondsText, SecondsText.chars, hwhole, hfraction, hdot]
  · rename_i hnotS
    split at h
    · rename_i hempty
      exact ⟨none, List.isEmpty_iff.mp hempty⟩
    · cases h

/-- A time part whose hour and minute counts fit adds its terms to the seconds so far. -/
theorem readTimePart_text {bits : Nat} (t : TimeText)
    (hbits : ∀ s ∈ t.seconds, binary64.readText? (String.ofList s.chars) = some bits)
    (hhours : count t.hours ≤ unsignedMax) (hminutes : count t.minutes ≤ unsignedMax)
    (seconds : Float) :
    readTimePart seconds t.text =
      some ((countTerm 3600 t.hours ++ countTerm 60 t.minutes ++
        t.seconds.toList.map fun _ => Float.ofBits (UInt64.ofNat bits)).foldl (· + ·) seconds) := by
  have hH : 'H' ∉ componentText 'M' t.minutes ++ secondsText t.seconds := by
    simp [not_mem_componentText, not_mem_secondsText]
  have hM : 'M' ∉ secondsText t.seconds :=
    not_mem_secondsText (by decide) (by decide) (by decide) t.seconds
  rw [readTimePart_eq, TimeText.text, List.append_assoc,
    componentStep_text (by decide) _ t.hours seconds hH]
  simp only [componentStep_text (by decide) _ t.minutes _ hM, applyComponent_seconds,
    if_neg (not_lt.mpr hhours),
    if_neg (not_lt.mpr hminutes), Option.bind_some, Option.map_some,
    secondsField_secondsText _ hbits, List.foldl_append]

/-- A time part that is read is the text of its optional components, and their counts fit. -/
theorem readTimePart_eq_some {seconds x : Float} {cs : List Char}
    (h : readTimePart seconds cs = some x) :
    ∃ hours minutes sec,
      cs = componentText 'H' hours ++ componentText 'M' minutes ++ secondsText sec ∧
        count hours ≤ unsignedMax ∧ count minutes ≤ unsignedMax := by
  rw [readTimePart_eq] at h
  obtain ⟨⟨total, rest⟩, hhoursMinutes, hfield⟩ := Option.bind_eq_some_iff.mp h
  obtain ⟨⟨total0, rest0⟩, hhours, hminutes⟩ := Option.bind_eq_some_iff.mp hhoursMinutes
  obtain ⟨hours, rfl, hh⟩ := componentStep_eq_some hhours
  obtain ⟨minutes, rfl, hm⟩ := componentStep_eq_some hminutes
  obtain ⟨sec, rfl⟩ := secondsField_eq_some hfield
  rw [applyComponent_seconds, Option.ite_none_left_eq_some] at hh hm
  exact ⟨hours, minutes, sec, by simp, not_lt.mp hh.1, not_lt.mp hm.1⟩

/-- `T` splits a duration body after its date part, when there is a time part. -/
theorem splitAt?_dateTimeText (years months days : Option DigitRun) (time : Option TimeText) :
    splitAt? 'T' (datePartText years months days ++ timePartText time) =
      time.map fun t => (datePartText years months days, t.text) := by
  have hdate : 'T' ∉ datePartText years months days := by
    simp [datePartText, not_mem_componentText]
  cases time with
  | none => simpa [timePartText] using splitAt?_eq_none_iff.mpr hdate
  | some t => exact splitAt?_eq_some_iff.mpr ⟨rfl, hdate⟩

theorem datePartText_ne_nil_iff {years months days : Option DigitRun} :
    datePartText years months days ≠ [] ↔ years.isSome ∨ months.isSome ∨ days.isSome := by
  rcases years with _ | y <;> rcases months with _ | m <;> rcases days with _ | d <;>
    simp [datePartText, componentText]

theorem timeText_ne_nil_iff {hours minutes : Option DigitRun} {sec : Option SecondsText} :
    componentText 'H' hours ++ componentText 'M' minutes ++ secondsText sec ≠ [] ↔
      hours.isSome ∨ minutes.isSome ∨ sec.isSome := by
  rcases hours with _ | h <;> rcases minutes with _ | m <;> rcases sec with _ | sec <;>
    simp [componentText, secondsText]

/-- A duration text whose counts fit reads as its months and its seconds, the seconds component
read as a float nearest its value. -/
theorem parse?_text (f : DurationText) (hf : f.InRange) :
    ∃ bits, (∀ t ∈ f.time, ∀ sec ∈ t.seconds, binary64.RoundsToNearest false sec.value bits) ∧
      parse? (String.ofList f.text) =
        some ⟨f.monthCount, f.secondCount (Float.ofBits (UInt64.ofNat bits))⟩ := by
  obtain ⟨negative, years, months, days, time, hnonempty⟩ := f
  simp only [DurationText.InRange] at hf
  obtain ⟨hmonths, hdays, htime⟩ := hf
  have hsplit := splitAt?_dateTimeText years months days time
  unfold parse?
  simp only [String.toList_ofList, DurationText.text]
  cases time with
  | none =>
    have hdate : datePartText years months days ≠ [] :=
      datePartText_ne_nil_iff.mpr (by simpa using hnonempty)
    simp only [timePartText, List.append_nil, Option.map_none] at hsplit
    refine ⟨0, by simp, ?_⟩
    cases negative <;>
      simp [Decimal.signText, timePartText, hsplit, hdate, readDatePart_text hmonths hdays,
        DurationText.monthCount, Decimal.signedInt, DurationText.secondCount,
        DurationText.secondTerms]
  | some t =>
    obtain ⟨bits, hround, hread⟩ := SecondsText.exists_bits t.seconds
    obtain ⟨hhours, hminutes⟩ := htime t rfl
    simp only [timePartText, Option.map_some] at hsplit
    refine ⟨bits, by simpa using hround, ?_⟩
    have htext : t.text ≠ [] := timeText_ne_nil_iff.mpr t.nonempty
    cases negative <;>
      simp [Decimal.signText, timePartText, hsplit, htext, readDatePart_text hmonths hdays,
        readTimePart_text t hread hhours hminutes, DurationText.monthCount, Decimal.signedInt,
        DurationText.secondCount, DurationText.secondTerms]

/-- A date part read to its end and a time part that is read, with at least one component
between them, make a duration text whose counts fit. -/
theorem exists_durationText_of_parts (negative : Bool) (timePart : Option (List Char))
    {datePart : List Char} {total : Int} {seconds : Float}
    (hdate : readDatePart datePart = some (total, seconds, []))
    (htime : ∀ t ∈ timePart, t ≠ [] ∧ ∃ x, readTimePart seconds t = some x)
    (hnonempty : datePart ≠ [] ∨ timePart.isSome) :
    ∃ f : DurationText, Decimal.signText negative ++ 'P' ::
      (datePart ++ (timePart.map ('T' :: ·)).getD []) = f.text ∧ f.InRange := by
  obtain ⟨years, months, days, rfl, hmonths, hdays⟩ := readDatePart_eq_some hdate
  cases timePart with
  | none =>
    have hsome := datePartText_ne_nil_iff.mp (by simpa using hnonempty)
    exact ⟨⟨negative, years, months, days, none, by simpa using hsome⟩,
      by simp [DurationText.text, timePartText], hmonths, hdays, by simp⟩
  | some t =>
    obtain ⟨hne, x, hread⟩ := htime t rfl
    obtain ⟨hours, minutes, sec, rfl, hhours, hminutes⟩ := readTimePart_eq_some hread
    have hsome := timeText_ne_nil_iff.mp hne
    exact ⟨⟨negative, years, months, days, some ⟨hours, minutes, sec, hsome⟩, by simp⟩,
      by simp [DurationText.text, timePartText, TimeText.text], hmonths, hdays,
      by simpa using ⟨hhours, hminutes⟩⟩

/-- A text the reader accepts is a duration text whose counts fit. -/
theorem exists_durationText_of_parse? {s : String} {d : Duration} (h : parse? s = some d) :
    ∃ f : DurationText, s.toList = f.text ∧ f.InRange := by
  unfold parse? at h
  generalize s.toList = cs at h ⊢
  dsimp only at h
  split at h
  · rename_i body hbody
    obtain ⟨negative, rfl⟩ : ∃ negative, cs = Decimal.signText negative ++ 'P' :: body := by
      split at hbody
      · simp only at hbody
        exact ⟨true, by rw [hbody]; rfl⟩
      · exact ⟨false, hbody⟩
    simp only [Option.bind_eq_bind, Option.bind_some, Option.bind_none] at h
    split at h
    · -- a time part after `T`
      rename_i datePart timePart hsplit
      obtain ⟨rfl, -⟩ := splitAt?_eq_some_iff.mp hsplit
      obtain ⟨htime, -, h⟩ := (Option.ite_none_left_eq_some.mp h).imp_right
        Option.ite_none_left_eq_some.mp
      obtain ⟨⟨total, seconds, rest⟩, hdate, h⟩ := Option.bind_eq_some_iff.mp h
      obtain ⟨hrest, h⟩ := Option.ite_none_left_eq_some.mp h
      obtain ⟨x, htimePart, -⟩ := Option.bind_eq_some_iff.mp h
      obtain rfl : rest = [] := by simpa using hrest
      have hne : timePart ≠ [] := by simpa using htime
      exact exists_durationText_of_parts negative (some timePart) hdate
        (by simpa using ⟨hne, x, htimePart⟩) (Or.inr rfl)
    · -- no `T`: the body is the date part
      obtain ⟨hbody, h⟩ := Option.ite_none_left_eq_some.mp h
      obtain ⟨⟨total, seconds, rest⟩, hdate, h⟩ := Option.bind_eq_some_iff.mp h
      obtain ⟨hrest, -⟩ := Option.ite_none_left_eq_some.mp h
      obtain rfl : rest = [] := by simpa using hrest
      simpa using exists_durationText_of_parts negative none hdate (by simp)
        (Or.inl (by simpa using hbody))
  · simp at h

end Parts

/-- The float of a count is the float nearest it. -/
theorem floatOfNat_nearest (n : Nat) :
    ∃ bits, binary64.RoundsToNearest false n bits ∧ floatOfNat n = Float.ofBits (UInt64.ofNat bits) :=
  ⟨binary64.ofInt n, by
    simpa [BinaryFormat.ofInt, not_lt.mpr (Int.natCast_nonneg n)] using
      binary64_roundDecimal false n 0, rfl⟩

/-- The duration reader accepts exactly the duration texts whose counts fit their words:
`-?P(nY)?(nM)?(nD)?(T(nH)?(nM)?(n(.n)?S)?)?` with digits for every `n`, at least one component
and at least one after `T`, twelve times the years plus the months within a signed 64-bit word,
and the days, hours and minutes each within an unsigned one. It reads such a text as twelve
months a year plus its months, and as the floating-point sum from zero of the days, hours and
minutes, each the float nearest its count times its seconds, and of the float nearest the value
of the seconds component; a leading `-` negates both. -/
theorem duration_reader_matches_grammar (s : String) :
    ((parse? s).isSome ↔ ∃ f : DurationText, s.toList = f.text ∧ f.InRange) ∧
    (∀ f : DurationText, s.toList = f.text → f.InRange →
      ∃ bits, (∀ t ∈ f.time, ∀ sec ∈ t.seconds, binary64.RoundsToNearest false sec.value bits) ∧
        parse? s = some ⟨f.monthCount, f.secondCount (Float.ofBits (UInt64.ofNat bits))⟩) ∧
    ∀ n : Nat, ∃ bits, binary64.RoundsToNearest false n bits ∧
      floatOfNat n = Float.ofBits (UInt64.ofNat bits) := by
  have hvalue : ∀ f : DurationText, s.toList = f.text → f.InRange →
      ∃ bits, (∀ t ∈ f.time, ∀ sec ∈ t.seconds, binary64.RoundsToNearest false sec.value bits) ∧
        parse? s = some ⟨f.monthCount, f.secondCount (Float.ofBits (UInt64.ofNat bits))⟩ := by
    intro f htext hf
    obtain ⟨bits, hround, hparse⟩ := parse?_text f hf
    rw [← htext, String.ofList_toList] at hparse
    exact ⟨bits, hround, hparse⟩
  refine ⟨⟨fun h => ?_, fun ⟨f, htext, hf⟩ => ?_⟩, hvalue, floatOfNat_nearest⟩
  · obtain ⟨d, hd⟩ := Option.isSome_iff_exists.mp h
    exact exists_durationText_of_parse? hd
  · obtain ⟨bits, -, hparse⟩ := hvalue f htext hf
    simp [hparse]

example : ((parse? "P1M").map Duration.months, (parse? "PT1M").map Duration.months,
    (parse? "P1MT1M").map Duration.months, (parse? "PT").isSome) = (some 1, some 0, some 1, false) := by
  decide

end SparqlExpr.Temporal.Duration
