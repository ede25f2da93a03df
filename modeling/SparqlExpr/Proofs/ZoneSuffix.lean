import Mathlib
import SparqlExpr.Proofs.Notation
import SparqlExpr.Temporal.Zone

/-!
Zone suffixes of temporal texts.

`splitZone` looks for a final `Z` among the characters of a text and for a `±hh:mm` suffix among
its UTF-8 bytes. The bytes of a text are the encodings of its characters (`toUTF8_toList`): on
ASCII text one byte each, and the last `k` bytes are ASCII only when they are the last `k`
characters (`utf8_tail`). So the suffix `splitZone` reads is made of the last six characters.

The main statements: every offset split off a text is a whole number of minutes under fifteen
hours (`inRange_of_splitZone`); any text followed by the text of such an offset splits into
the two (`splitZone_append_text`); and an ASCII text that does not end like a zone is left whole
(`splitZone_eq_unzoned`).
-/

namespace SparqlExpr.Temporal

section Bytes

theorem ByteArray.toList_loop (bs : ByteArray) (i : Nat) (r : List UInt8) :
    ByteArray.toList.loop bs i r = r.reverse ++ bs.data.toList.drop i := by
  fun_induction ByteArray.toList.loop bs i r with
  | case1 i r hi ih =>
      have hlen : i < bs.data.toList.length := by simpa using hi
      rw [ih, List.drop_eq_getElem_cons hlen]
      simp [ByteArray.get!, hi]
  | case2 i r hi =>
      have hlen : bs.data.toList.length ≤ i := by simp; omega
      simp [List.drop_eq_nil_of_le hlen]

theorem ByteArray.toList_eq (bs : ByteArray) : bs.toList = bs.data.toList := by
  simp [ByteArray.toList, ByteArray.toList_loop]

/-- The bytes of a text are the UTF-8 encodings of its characters, in order. -/
theorem toUTF8_toList (s : String) :
    s.toUTF8.toList = s.toList.flatMap String.utf8EncodeChar := by
  rw [ByteArray.toList_eq, String.toUTF8_eq_toByteArray, ← String.ofList_toList (s := s),
    String.toByteArray_ofList]
  simp [List.utf8Encode]

theorem utf8EncodeChar_ascii {c : Char} (h : c.toNat < 128) :
    String.utf8EncodeChar c = [c.toUInt8] := by
  rw [String.utf8EncodeChar_eq_singleton (Char.utf8Size_eq_one_iff.mpr ?_)]
  · rfl
  · rw [UInt32.le_iff_toNat_le]
    exact Nat.le_of_lt_succ h

/-- Every byte of the encoding of a character beyond ASCII is at least `128`. -/
theorem utf8EncodeChar_high {c : Char} (h : 128 ≤ c.toNat) :
    ∀ b ∈ String.utf8EncodeChar c, 128 ≤ b.toNat := by
  have hlt := c.val.toNat_lt
  have hc : 127 < c.val.toNat := h
  unfold String.utf8EncodeChar
  simp only
  split_ifs <;> simp <;> omega

theorem toUInt8_inj {c d : Char} (hc : c.toNat < 128) (hd : d.toNat < 128) :
    c.toUInt8 = d.toUInt8 ↔ c = d := by
  constructor
  · intro h
    have hbyte := congrArg UInt8.toNat h
    simp only [Char.toUInt8, UInt32.toNat_toUInt8] at hbyte
    apply Char.ext
    apply UInt32.toNat_inj.mp
    have hc' : c.val.toNat < 128 := hc
    have hd' : d.val.toNat < 128 := hd
    omega
  · rintro rfl
    rfl

theorem flatMap_utf8EncodeChar_of_ascii {cs : List Char} (h : ∀ c ∈ cs, c.toNat < 128) :
    cs.flatMap String.utf8EncodeChar = cs.map Char.toUInt8 := by
  induction cs with
  | nil => rfl
  | cons c rest ih =>
      rw [List.flatMap_cons, utf8EncodeChar_ascii (h c List.mem_cons_self),
        ih fun d hd => h d (List.mem_cons_of_mem c hd)]
      rfl

theorem toUTF8_toList_of_ascii {s : String} (h : ∀ c ∈ s.toList, c.toNat < 128) :
    s.toUTF8.toList = s.toList.map Char.toUInt8 := by
  rw [toUTF8_toList, flatMap_utf8EncodeChar_of_ascii h]

/-- When the last `k` bytes of an encoding are ASCII, they are the last `k` characters, each
ASCII. -/
theorem utf8_tail (cs : List Char) (k : Nat)
    (hk : k ≤ (cs.flatMap String.utf8EncodeChar).length)
    (hascii : ∀ b ∈ (cs.flatMap String.utf8EncodeChar).drop
      ((cs.flatMap String.utf8EncodeChar).length - k), b.toNat < 128) :
    k ≤ cs.length ∧ (∀ c ∈ cs.drop (cs.length - k), c.toNat < 128) ∧
      (cs.flatMap String.utf8EncodeChar).drop ((cs.flatMap String.utf8EncodeChar).length - k) =
        (cs.drop (cs.length - k)).map Char.toUInt8 := by
  -- induction from the end: the last character is ASCII, since its last byte is
  induction cs using List.reverseRecOn generalizing k with
  | nil =>
      simp only [List.flatMap_nil, List.length_nil, Nat.le_zero] at hk
      subst hk
      simp
  | append_singleton cs c ih =>
      rcases Nat.eq_zero_or_pos k with rfl | hk0
      · simp
      have hlast : c.toNat < 128 := by
        by_contra hc
        have hne : String.utf8EncodeChar c ≠ [] := String.utf8EncodeChar_ne_nil
        have hdrop : ((cs ++ [c]).flatMap String.utf8EncodeChar).drop
            (((cs ++ [c]).flatMap String.utf8EncodeChar).length - k) ≠ [] := by
          simp only [ne_eq, List.drop_eq_nil_iff]
          omega
        have hmem := List.getLast_mem hdrop
        rw [List.getLast_drop] at hmem
        simp only [List.flatMap_append, List.flatMap_singleton] at hmem
        rw [List.getLast_append_of_ne_nil _ hne] at hmem
        have hhigh := utf8EncodeChar_high (by omega) _ (List.getLast_mem hne)
        have hlow := hascii _ (by
          simpa only [List.flatMap_append, List.flatMap_singleton] using hmem)
        omega
      simp only [List.flatMap_append, List.flatMap_singleton, utf8EncodeChar_ascii hlast,
        List.length_append, List.length_singleton] at hk hascii ⊢
      set B := cs.flatMap String.utf8EncodeChar
      have hbytes : B.length + 1 - k = B.length - (k - 1) := by omega
      have hchars : cs.length + 1 - k = cs.length - (k - 1) := by omega
      rw [hbytes, List.drop_append_of_le_length (by omega)] at hascii ⊢
      obtain ⟨hlen, hprefix, heq⟩ :=
        ih (k - 1) (by omega) (fun b hb => hascii b (List.mem_append_left _ hb))
      rw [hchars, List.drop_append_of_le_length (by omega)]
      refine ⟨by omega, ?_, ?_⟩
      · intro d hd
        rcases List.mem_append.mp hd with hd | hd
        · exact hprefix d hd
        · rw [List.mem_singleton.mp hd]
          exact hlast
      · rw [heq]
        simp

theorem map_toUInt8_beq {o : Option Char} (ho : ∀ c ∈ o, c.toNat < 128) {d : Char}
    (hd : d.toNat < 128) {b : UInt8} (hb : d.toUInt8 = b) :
    (o.map Char.toUInt8 == some b) = (o == some d) := by
  subst hb
  rcases o with _ | c
  · rfl
  · simp [toUInt8_inj (ho c rfl) hd]

theorem toUInt8_lt_of_ascii {c : Char} (h : c.toNat < 128) : c.toUInt8 < 128 := by
  have hval : c.val.toNat < 128 := h
  rw [UInt8.lt_iff_toNat_lt]
  simp only [Char.toUInt8, UInt32.toNat_toUInt8]
  simp
  omega

theorem toNat_lt_of_isDigit {c : Char} (h : c.isDigit = true) : c.toNat < 128 := by
  have := Char.isDigit_iff_toNat.mp h
  have hnine : '9'.toNat = 57 := rfl
  omega

end Bytes

section Padded

@[simp] theorem toList_padded (w n : Nat) :
    (padded w n).toList = List.replicate (w - (Nat.toDigits 10 n).length) '0' ++ Nat.toDigits 10 n := by
  simp [padded, ← decimalLength_eq, Nat.decimalLength]

theorem allDigits_padded (w n : Nat) : AllDigits (padded w n).toList := by
  intro c hc
  rw [toList_padded] at hc
  rcases List.mem_append.mp hc with hc | hc
  · rw [List.eq_of_mem_replicate hc]
    rfl
  · exact isDigit_of_mem_toDigits_ten hc

theorem padded_ne_nil (w n : Nat) : (padded w n).toList ≠ [] := by
  simp [Nat.toDigits_ne_nil]

/-- A number below `10 ^ w` is written with exactly `w` digits. -/
theorem length_padded {w n : Nat} (hw : 0 < w) (hn : n < 10 ^ w) : (padded w n).toList.length = w := by
  have hdigits := (Nat.length_toDigits_le_iff (by norm_num) hw).mpr hn
  simp only [toList_padded, List.length_append, List.length_replicate]
  omega

@[simp] theorem ofDigitChars_padded (w n : Nat) : Nat.ofDigitChars 10 (padded w n).toList 0 = n := by
  rw [toList_padded, ofDigitChars_replicate_zero_append, Nat.ofDigitChars_ten_toDigits]

/-- The value of `k` digits is below `10 ^ k`. -/
theorem ofDigitChars_lt_pow {cs : List Char} (hcs : AllDigits cs) :
    Nat.ofDigitChars 10 cs 0 < 10 ^ cs.length := by
  induction cs using List.reverseRecOn with
  | nil => simp [Nat.ofDigitChars_nil]
  | append_singleton cs c ih =>
      have hc := Char.isDigit_iff_toNat.mp (hcs c (List.mem_append_right _ List.mem_cons_self))
      have hprefix := ih fun d hd => hcs d (List.mem_append_left _ hd)
      rw [ofDigitChars_append_digit, List.length_append, List.length_singleton, Nat.pow_succ]
      have hzero : '0'.toNat = 48 := rfl
      have hnine : '9'.toNat = 57 := rfl
      omega

end Padded

namespace ZoneOffset

/-- The signed fold of `readWord?` over digits is their value. -/
theorem foldl_digit_int {cs : List Char} (hcs : AllDigits cs) (a : Nat) :
    cs.foldl (fun (n : Int) c => n * 10 + ((c.toNat : Int) - ('0'.toNat : Int))) (a : Int) =
      (Nat.ofDigitChars 10 cs a : Int) := by
  induction cs generalizing a with
  | nil => simp [Nat.ofDigitChars_nil]
  | cons c rest ih =>
      have hc := Char.isDigit_iff_toNat.mp (hcs c List.mem_cons_self)
      have hzero : '0'.toNat = 48 := rfl
      rw [List.foldl_cons, Nat.ofDigitChars_cons, ← ih (fun d hd => hcs d (List.mem_cons_of_mem c hd))]
      congr 1
      push_cast
      omega

/-- `readWord?` reads exactly integer notation of a 32-bit integer. -/
theorem readWord?_eq_some_iff {cs : List Char} {n : Int} :
    readWord? cs = some n ↔ IntegerNotation cs n ∧ -2 ^ 31 ≤ n ∧ n < 2 ^ 31 := by
  rw [Lexical.integerNotation_iff]
  unfold readWord?
  split
  rename_i negative digits hsplit
  -- the reader's sign split is `dropSign` and the sign it takes off
  have hsign : negative = (cs.head? == some '-') ∧ digits = Lexical.dropSign cs := by
    split at hsplit
    · cases hsplit
      simp [Lexical.dropSign]
    · cases hsplit
      simp [Lexical.dropSign]
    · rename_i hnotminus hnotplus
      cases hsplit
      rcases cs with _ | ⟨c, rest⟩
      · simp [Lexical.dropSign]
      · have hminus : c ≠ '-' := by
          rintro rfl
          exact hnotminus rest rfl
        have hplus : c ≠ '+' := by
          rintro rfl
          exact hnotplus rest rfl
        simp [Lexical.dropSign_of_not_sign hplus hminus, hminus]
  obtain ⟨rfl, rfl⟩ := hsign
  have hcheck : ((Lexical.dropSign cs).isEmpty || !(Lexical.dropSign cs).all Char.isDigit) =
      !Lexical.allDigits (Lexical.dropSign cs) := by
    unfold Lexical.allDigits
    cases (Lexical.dropSign cs).isEmpty <;> rfl
  have hpow : Int.pow 2 31 = 2 ^ 31 := rfl
  by_cases hd : Lexical.allDigits (Lexical.dropSign cs) = true
  · obtain ⟨-, hall⟩ := Lexical.allDigits_eq_true_iff.mp hd
    have hfold := foldl_digit_int hall 0
    rw [Nat.cast_zero] at hfold
    simp only [hcheck, hd, hfold, hpow, Bool.not_true, Bool.false_eq_true, if_false, true_and]
    generalize (if (cs.head? == some '-') = true then -(Nat.ofDigitChars 10 (Lexical.dropSign cs) 0 : Int)
      else Nat.ofDigitChars 10 (Lexical.dropSign cs) 0) = v
    by_cases hv : -2 ^ 31 ≤ v ∧ v < 2 ^ 31
    · simp only [hv, decide_true, Bool.and_self, if_true, Option.some.injEq]
      constructor
      · rintro rfl
        exact ⟨rfl, hv⟩
      · rintro ⟨rfl, -⟩
        rfl
    · have hfalse : (decide (-2 ^ 31 ≤ v) && decide (v < 2 ^ 31)) = false := by simpa using hv
      simp only [hfalse, Bool.false_eq_true, if_false, reduceCtorEq, false_iff]
      rintro ⟨rfl, hbounds⟩
      exact hv hbounds
  · simp [hcheck, hd]

theorem readWord?_colon (rest : List Char) : readWord? (':' :: rest) = none := by
  rw [Option.eq_none_iff_forall_ne_some]
  intro n h
  obtain ⟨⟨negative, body, hsign, -, hdigits, -⟩, -⟩ := readWord?_eq_some_iff.mp h
  cases hsign with
  | unsigned body => exact absurd (hdigits ':' List.mem_cons_self) (by decide)

/-- Digits with no sign read as their value, when it fits in 31 bits. -/
theorem readWord?_of_allDigits {ds : List Char} (hne : ds ≠ []) (hds : AllDigits ds)
    (hlt : Nat.ofDigitChars 10 ds 0 < 2 ^ 31) :
    readWord? ds = some (Nat.ofDigitChars 10 ds 0 : Int) := by
  apply readWord?_eq_some_iff.mpr
  refine ⟨⟨false, ds, SignPrefix.unsigned ds, hne, hds, rfl⟩, ?_, ?_⟩ <;> omega

theorem ofParts?_eq_some_iff {negative : Bool} {parts : List Char} {o : ZoneOffset} :
    ofParts? negative parts = some o ↔
      ∃ i hours minutes, parts.findIdx? (· == ':') = some i ∧ readWord? (parts.take i) = some hours ∧
        readWord? (parts.drop (i + 1)) = some minutes ∧ hours ≤ 14 ∧ minutes ≤ 59 ∧
        o.seconds = (hours * 3600 + minutes * 60) * (if negative then -1 else 1) ∧
        ((hours * 3600 + minutes * 60) * (if negative then -1 else 1)).natAbs < 86400 := by
  simp only [ofParts?, Option.bind_eq_bind, Option.bind_eq_some_iff]
  constructor
  · rintro ⟨i, hi, hours, hh, minutes, hm, h⟩
    refine ⟨i, hours, minutes, hi, hh, hm, ?_⟩
    generalize ((hours * 3600 + minutes * 60) * if negative = true then -1 else 1) = total at h ⊢
    by_cases hbound : hours ≤ 14 ∧ minutes ≤ 59
    · have hcheck : (decide (hours > 14) || decide (minutes > 59)) = false := by simp; omega
      by_cases htotal : total.natAbs < 86400
      · simp only [hcheck, htotal, Bool.false_eq_true, if_false, if_true, Option.some.injEq] at h
        exact ⟨hbound.1, hbound.2, by rw [← h], htotal⟩
      · simp [hcheck, htotal] at h
    · have hcheck : (decide (hours > 14) || decide (minutes > 59)) = true := by simp; omega
      simp [hcheck] at h
  · rintro ⟨i, hours, minutes, hi, hh, hm, h14, h59, hseconds, htotal⟩
    refine ⟨i, hi, hours, hh, minutes, hm, ?_⟩
    have hbound : (decide (hours > 14) || decide (minutes > 59)) = false := by simp; omega
    rw [if_neg (by simp [hbound]), if_pos htotal, ← hseconds]

/-- Two characters of integer notation are two digits, or a sign and a digit: a value above
`-10` and below `100`. -/
theorem integerNotation_pair {a b : Char} {n : Int} (h : IntegerNotation [a, b] n) :
    (a.isDigit = true ∨ a = '+' ∨ a = '-') ∧ b.isDigit = true ∧ -10 < n ∧ n < 100 := by
  obtain ⟨negative, body, hsign, -, hdigits, rfl⟩ := h
  have hlt := ofDigitChars_lt_pow hdigits
  cases hsign with
  | unsigned =>
      simp only [List.length_cons, List.length_nil] at hlt
      refine ⟨Or.inl (hdigits a (by simp)), hdigits b (by simp), ?_, ?_⟩ <;> simp <;> omega
  | plus =>
      simp only [List.length_cons, List.length_nil] at hlt
      refine ⟨Or.inr (Or.inl rfl), hdigits b (by simp), ?_, ?_⟩ <;> simp <;> omega
  | minus =>
      simp only [List.length_cons, List.length_nil] at hlt
      refine ⟨Or.inr (Or.inr rfl), hdigits b (by simp), ?_, ?_⟩ <;> simp <;> omega

/-- The five characters after the sign of a zone suffix, a colon in the middle, read as an offset
exactly when the hour and minute fields are integer notation, within 14 hours and 59 minutes. -/
theorem ofParts?_suffix {negative : Bool} {a b c d : Char} {o : ZoneOffset} :
    ofParts? negative [a, b, ':', c, d] = some o ↔
      ∃ hours minutes : Int, IntegerNotation [a, b] hours ∧ IntegerNotation [c, d] minutes ∧
        hours ≤ 14 ∧ minutes ≤ 59 ∧
        o.seconds = (hours * 3600 + minutes * 60) * (if negative then -1 else 1) := by
  rw [ofParts?_eq_some_iff]
  constructor
  · rintro ⟨i, hours, minutes, hi, hh, hm, h14, h59, hseconds, -⟩
    -- the first colon is no later than the one in the middle
    have hi2 : i ≤ 2 := by
      by_contra hlt
      obtain ⟨hbound, -, hbefore⟩ := List.findIdx?_eq_some_iff_getElem.mp hi
      simpa using hbefore 2 (by omega)
    interval_cases i
    · rw [List.take_zero, show readWord? [] = none from rfl] at hh
      cases hh
    · rw [show [a, b, ':', c, d].drop 2 = ':' :: [c, d] from rfl, readWord?_colon] at hm
      cases hm
    · exact ⟨hours, minutes, (readWord?_eq_some_iff.mp hh).1, (readWord?_eq_some_iff.mp hm).1, h14,
        h59, hseconds⟩
  · rintro ⟨hours, minutes, hh, hm, h14, h59, hseconds⟩
    obtain ⟨ha, hb, hhours, -⟩ := integerNotation_pair hh
    obtain ⟨-, -, hminutes, -⟩ := integerNotation_pair hm
    -- neither character of the hour field is a colon
    have hcolon : ∀ x ∈ [a, b], (x == ':') = false := by
      intro x hx
      simp only [List.mem_cons, List.not_mem_nil, or_false] at hx
      rcases hx with rfl | rfl
      · rcases ha with ha | rfl | rfl
        · exact beq_eq_false_iff_ne.mpr (ne_of_isDigit ha ':' rfl)
        · rfl
        · rfl
      · exact beq_eq_false_iff_ne.mpr (ne_of_isDigit hb ':' rfl)
    refine ⟨2, hours, minutes, findIdx?_append_cons hcolon rfl,
      readWord?_eq_some_iff.mpr ⟨hh, by omega, by omega⟩,
      readWord?_eq_some_iff.mpr ⟨hm, by omega, by omega⟩, h14, h59, hseconds, ?_⟩
    split_ifs <;> omega

/-- Whether a suffix reads as an offset does not depend on its sign. -/
theorem ofParts?_suffix_eq_none {negative : Bool} {a b c d : Char}
    (h : ofParts? negative [a, b, ':', c, d] = none) (negative' : Bool) :
    ofParts? negative' [a, b, ':', c, d] = none := by
  rw [Option.eq_none_iff_forall_ne_some]
  intro o ho
  obtain ⟨hours, minutes, hh, hm, h14, h59, -⟩ := ofParts?_suffix.mp ho
  have hsome : ofParts? negative [a, b, ':', c, d] =
      some ⟨(hours * 3600 + minutes * 60) * (if negative then -1 else 1)⟩ :=
    ofParts?_suffix.mpr ⟨hours, minutes, hh, hm, h14, h59, rfl⟩
  rw [h] at hsome
  cases hsome

/-- The offsets a zone suffix writes and reads back: whole minutes, under fifteen hours either
way. -/
structure InRange (o : ZoneOffset) : Prop where
  whole_minutes : o.seconds % 60 = 0
  natAbs_lt : o.seconds.natAbs < 54000

/-- Five characters with a colon in the middle give an offset in range, if any: the hours and
minutes are read from two characters each, so neither is below `-9`. -/
theorem inRange_of_ofParts? {negative : Bool} {parts : List Char} {o : ZoneOffset}
    (hlength : parts.length = 5) (hcolon : parts[2]? = some ':')
    (h : ofParts? negative parts = some o) : o.InRange := by
  rcases parts with _ | ⟨a, _ | ⟨b, _ | ⟨x, _ | ⟨c, _ | ⟨d, _ | ⟨e, rest⟩⟩⟩⟩⟩⟩ <;>
    simp only [List.length_cons, List.length_nil] at hlength <;> try omega
  obtain rfl : x = ':' := by simpa using hcolon
  obtain ⟨hours, minutes, hh, hm, h14, h59, hseconds⟩ := ofParts?_suffix.mp h
  have hhours := (integerNotation_pair hh).2.2.1
  have hminutes := (integerNotation_pair hm).2.2.1
  constructor <;> rw [hseconds] <;> split <;> omega

theorem toList_text {o : ZoneOffset} (h : o.seconds ≠ 0) :
    o.text.toList = (if o.seconds < 0 then '-' else '+') ::
      ((padded 2 (o.seconds.natAbs / 3600)).toList ++ ':' ::
        (padded 2 (o.seconds.natAbs % 3600 / 60)).toList) := by
  unfold text
  split_ifs with hzero hneg <;> simp_all

/-- The hours and minutes an offset in range is written with read back as the offset. -/
theorem ofParts?_text {o : ZoneOffset} (h : o.InRange) :
    ofParts? (decide (o.seconds < 0))
      ((padded 2 (o.seconds.natAbs / 3600)).toList ++ ':' ::
        (padded 2 (o.seconds.natAbs % 3600 / 60)).toList) = some o := by
  obtain ⟨hwhole, hlt⟩ := h
  set hours := o.seconds.natAbs / 3600 with hhours
  set minutes := o.seconds.natAbs % 3600 / 60 with hminutes
  have hlength := length_padded (by norm_num) (show hours < 10 ^ 2 by omega)
  have hread : ∀ n < 100, readWord? (padded 2 n).toList = some (n : Int) := fun n hn => by
    rw [readWord?_of_allDigits (padded_ne_nil 2 n) (allDigits_padded 2 n)
      (by rw [ofDigitChars_padded]; omega), ofDigitChars_padded]
  have h14 : hours ≤ 14 := by omega
  have h59 : minutes ≤ 59 := by omega
  have hsum : hours * 3600 + minutes * 60 = o.seconds.natAbs := by omega
  have hsigned : ((hours : Int) * 3600 + (minutes : Int) * 60) *
      (if decide (o.seconds < 0) = true then -1 else 1) = o.seconds := by
    rw [show (hours : Int) * 3600 + (minutes : Int) * 60 = (o.seconds.natAbs : Int) by
      exact_mod_cast hsum]
    split_ifs with hneg <;> simp at hneg <;> omega
  apply ofParts?_eq_some_iff.mpr
  refine ⟨2, hours, minutes, ?_, ?_, ?_, by exact_mod_cast h14, by exact_mod_cast h59, ?_, ?_⟩
  · have hfind : ((padded 2 hours).toList ++ ':' :: (padded 2 minutes).toList).findIdx? (· == ':') =
        some (padded 2 hours).toList.length :=
      findIdx?_append_cons
        (fun c hc => beq_eq_false_iff_ne.mpr (ne_of_isDigit (allDigits_padded 2 _ c hc) ':' rfl)) rfl
    rwa [hlength] at hfind
  · rw [List.take_append_of_le_length hlength.ge, List.take_of_length_le hlength.le,
      hread hours (by omega)]
  · rw [List.drop_append, hlength, List.drop_eq_nil_of_le (by omega), List.nil_append]
    exact hread minutes (by omega)
  · exact hsigned.symm
  · rw [hsigned]
    omega

end ZoneOffset

section Split

theorem splitZone_eq_unzoned {s : String} (hascii : ∀ c ∈ s.toList, c.toNat < 128)
    (hlast : s.toList.getLast? ≠ some 'Z')
    (hshape : ¬(6 ≤ s.toList.length ∧ (s.toList[s.toList.length - 6]? = some '+' ∨
      s.toList[s.toList.length - 6]? = some '-') ∧ s.toList[s.toList.length - 3]? = some ':')) :
    splitZone s = .unzoned s := by
  have hmem : ∀ (i : Nat) (c : Char), c ∈ s.toList[i]? → c.toNat < 128 := fun i c hc =>
    hascii c (List.mem_of_getElem? hc)
  unfold splitZone
  simp only [toUTF8_toList_of_ascii hascii, List.length_map, List.getElem?_map,
    map_toUInt8_beq (hmem _) (d := '+') (b := 43) (by decide) rfl,
    map_toUInt8_beq (hmem _) (d := '-') (b := 45) (by decide) rfl,
    map_toUInt8_beq (hmem _) (d := ':') (b := 58) (by decide) rfl]
  rw [if_neg (by simpa using hlast), if_neg (by simpa using hshape)]

/-- An ASCII text whose third character from the end is not a colon, and whose last is a digit,
is left whole. -/
theorem splitZone_eq_unzoned_of_tail3 {s : String} (hascii : ∀ c ∈ s.toList, c.toNat < 128)
    {pre : List Char} {x y z : Char} (hs : s.toList = pre ++ [x, y, z]) (hx : x ≠ ':')
    (hz : z.isDigit = true) : splitZone s = .unzoned s := by
  apply splitZone_eq_unzoned hascii
  · rw [hs]
    simpa using ne_of_isDigit hz 'Z' rfl
  · rw [hs]
    simp [hx]

/-- An ASCII text whose sixth character from the end is no sign, and whose last is a digit, is
left whole. -/
theorem splitZone_eq_unzoned_of_tail6 {s : String} (hascii : ∀ c ∈ s.toList, c.toNat < 128)
    {pre : List Char} {u v w x y z : Char} (hs : s.toList = pre ++ [u, v, w, x, y, z])
    (hu : u ≠ '+' ∧ u ≠ '-') (hz : z.isDigit = true) : splitZone s = .unzoned s := by
  apply splitZone_eq_unzoned hascii
  · rw [hs]
    simpa using ne_of_isDigit hz 'Z' rfl
  · rw [hs]
    simp [hu.1, hu.2]

/-- A text followed by a sign, two characters, a colon and two characters, all ASCII, that read
as an offset splits into the text and that offset: the last six bytes are then the last six
characters, whatever the text before them. -/
theorem splitZone_append_suffix {t : String} {sign a b c d : Char} {o : ZoneOffset}
    (hascii : ∀ x ∈ [sign, a, b, ':', c, d], x.toNat < 128)
    (hsign : sign = '+' ∨ sign = '-') (hlast : d ≠ 'Z')
    (hparts : ZoneOffset.ofParts? (sign == '-') [a, b, ':', c, d] = some o) :
    splitZone (t ++ String.ofList [sign, a, b, ':', c, d]) = .zoned t o := by
  set L := [sign, a, b, ':', c, d] with hL
  set B := t.toList.flatMap String.utf8EncodeChar
  have hlist : (t ++ String.ofList L).toList = t.toList ++ L := by simp
  have hbytes : (t ++ String.ofList L).toUTF8.toList = B ++ L.map Char.toUInt8 := by
    rw [toUTF8_toList, hlist, List.flatMap_append, flatMap_utf8EncodeChar_of_ascii hascii]
  have hsignAscii : sign.toNat < 128 := hascii sign (by simp [hL])
  -- the positions `splitZone` inspects, in the suffix
  have hend : (t.toList ++ L).getLast? = some d := by simp [hL]
  have hfive : (t.toList ++ L).drop (t.toList.length + L.length - 5) = [a, b, ':', c, d] := by
    simp [hL]
  have htake : (t.toList ++ L).take (t.toList.length + L.length - 6) = t.toList := by simp [hL]
  have hsix : (B ++ L.map Char.toUInt8)[B.length + 6 - 6]? = some sign.toUInt8 := by simp [hL]
  have hthree : (B ++ L.map Char.toUInt8)[B.length + 6 - 3]? = some (58 : UInt8) := by
    simp [hL]
    rfl
  have hdrop : (B ++ L.map Char.toUInt8).drop (B.length + 6 - 6) = L.map Char.toUInt8 := by simp
  have hZ : (some d == some 'Z') = false := by simp [hlast]
  have hsignByte : (some sign.toUInt8 == some 45) = (sign == '-') :=
    map_toUInt8_beq (o := some sign) (by simpa using hsignAscii) (d := '-') (b := 45) (by decide) rfl
  have hshape : (decide (6 ≤ B.length + 6) &&
      (some sign.toUInt8 == some 43 || some sign.toUInt8 == some 45) &&
      some (58 : UInt8) == some 58) = true := by
    rcases hsign with rfl | rfl <;> simp <;> decide
  have hall : ((L.map Char.toUInt8).all fun x => decide (x < 128)) = true := by
    simp only [List.all_map, List.all_eq_true, Function.comp_apply, decide_eq_true_eq]
    exact fun x hx => toUInt8_lt_of_ascii (hascii x hx)
  unfold splitZone
  simp only [hbytes, hlist, List.length_append, List.length_map, hend, hfive, htake]
  rw [show L.length = 6 from rfl, hsix, hthree, hdrop]
  rw [if_neg (by simp [hZ]), if_pos hshape, if_pos hall, hsignByte, hparts, String.ofList_toList]

/-- A text followed by the text of an offset in range splits into the two. -/
theorem splitZone_append_text (t : String) {o : ZoneOffset} (ho : o.InRange) :
    splitZone (t ++ o.text) = .zoned t o := by
  by_cases hzero : o.seconds = 0
  · -- offset zero is written `Z`
    have hutc : o = ZoneOffset.utc := by
      cases o
      simp_all [ZoneOffset.utc]
    subst hutc
    have htext : ZoneOffset.utc.text.toList = ['Z'] := rfl
    unfold splitZone
    rw [if_pos (by simp [htext])]
    simp [htext]
  · obtain ⟨h1, h2, hhours⟩ := List.length_eq_two.mp
      (length_padded (by norm_num) (show o.seconds.natAbs / 3600 < 10 ^ 2 by have := ho.2; omega))
    obtain ⟨m1, m2, hminutes⟩ := List.length_eq_two.mp
      (length_padded (by norm_num) (show o.seconds.natAbs % 3600 / 60 < 10 ^ 2 by omega))
    have hH : AllDigits [h1, h2] := hhours ▸ allDigits_padded 2 _
    have hM : AllDigits [m1, m2] := hminutes ▸ allDigits_padded 2 _
    have htext : o.text = String.ofList [if o.seconds < 0 then '-' else '+', h1, h2, ':', m1, m2] := by
      rw [← String.ofList_toList (s := o.text), ZoneOffset.toList_text hzero, hhours, hminutes]
      rfl
    rw [htext]
    apply splitZone_append_suffix
    · intro x hx
      simp only [List.mem_cons, List.not_mem_nil, or_false] at hx
      rcases hx with rfl | rfl | rfl | rfl | rfl | rfl
      · split_ifs <;> decide
      · exact toNat_lt_of_isDigit (hH _ (by simp))
      · exact toNat_lt_of_isDigit (hH _ (by simp))
      · decide
      · exact toNat_lt_of_isDigit (hM _ (by simp))
      · exact toNat_lt_of_isDigit (hM _ (by simp))
    · split_ifs <;> simp
    · exact ne_of_isDigit (hM m2 (by simp)) 'Z' rfl
    · have hnegative : ((if o.seconds < 0 then '-' else '+') == '-') = decide (o.seconds < 0) := by
        split_ifs with hneg <;> simp [hneg]
      rw [hnegative, show [h1, h2, ':', m1, m2] = (padded 2 (o.seconds.natAbs / 3600)).toList ++
        ':' :: (padded 2 (o.seconds.natAbs % 3600 / 60)).toList by rw [hhours, hminutes]; rfl]
      exact ZoneOffset.ofParts?_text ho

/-- A text ending in `Z` is split there, whatever comes before. -/
theorem splitZone_append_Z (t : String) (cs : List Char) :
    splitZone (t ++ String.ofList (cs ++ ['Z'])) = .zoned (t ++ String.ofList cs) ZoneOffset.utc := by
  unfold splitZone
  rw [if_pos (by simp)]
  simp

/-- A text followed by a sign, two characters, a colon and two characters that do not read as an
offset is refused, or left whole when its bytes do not end like a zone. -/
theorem splitZone_append_suffix_none {t : String} {sign a b c d : Char} (hlast : d ≠ 'Z')
    (hparts : ∀ negative, ZoneOffset.ofParts? negative [a, b, ':', c, d] = none) :
    splitZone (t ++ String.ofList [sign, a, b, ':', c, d]) = .invalid ∨
      splitZone (t ++ String.ofList [sign, a, b, ':', c, d]) =
        .unzoned (t ++ String.ofList [sign, a, b, ':', c, d]) := by
  set L := [sign, a, b, ':', c, d] with hL
  have hlist : (t ++ String.ofList L).toList = t.toList ++ L := by simp
  have hend : (t.toList ++ L).getLast? = some d := by simp [hL]
  have hfive : (t.toList ++ L).drop ((t.toList ++ L).length - 5) = [a, b, ':', c, d] := by
    simp [hL]
  unfold splitZone
  simp only [hlist, hend, hfive, hparts]
  rw [if_neg (by simpa using hlast)]
  split_ifs
  · exact Or.inl rfl
  · exact Or.inl rfl
  · exact Or.inr rfl

/-- Every offset split off a text is in range: a final `Z` is offset zero, and a `±hh:mm` suffix
is read from its last five characters, the colon in the middle. -/
theorem inRange_of_splitZone {s t : String} {o : ZoneOffset} (h : splitZone s = .zoned t o) :
    o.InRange := by
  unfold splitZone at h
  dsimp only at h
  rw [toUTF8_toList] at h
  split_ifs at h with hZ hshape hall
  · cases h
    exact ⟨rfl, by decide⟩
  · split at h
    · rename_i offset hparts
      cases h
      simp only [Bool.and_eq_true, decide_eq_true_eq, beq_iff_eq] at hshape
      obtain ⟨⟨hsix, -⟩, hcolonByte⟩ := hshape
      have hascii : ∀ b ∈ (s.toList.flatMap String.utf8EncodeChar).drop
          ((s.toList.flatMap String.utf8EncodeChar).length - 6), b.toNat < 128 := by
        intro b hb
        have := List.all_eq_true.mp hall b hb
        simpa [UInt8.lt_iff_toNat_lt] using this
      obtain ⟨hlen, hchars, htail⟩ := utf8_tail s.toList 6 hsix hascii
      -- the byte three from the end is the character three from the end
      have hcolonChar : s.toList[s.toList.length - 3]?.map Char.toUInt8 = some 58 := by
        rw [← hcolonByte, ← List.getElem?_map, show s.toList.length - 3 = s.toList.length - 6 + 3 by omega,
          ← List.getElem?_drop, ← List.map_drop, ← htail, List.getElem?_drop]
        congr 1
        omega
      have hindex : s.toList.length - 3 = s.toList.length - 6 + 3 := by omega
      have hascii3 : ∀ c ∈ s.toList[s.toList.length - 3]?, c.toNat < 128 := fun c hc =>
        hchars c (List.mem_of_getElem? (by rwa [List.getElem?_drop, ← hindex]))
      have hcolon : s.toList[s.toList.length - 3]? = some ':' := by
        have hbeq := map_toUInt8_beq hascii3 (d := ':') (b := 58) (by decide) rfl
        rw [hcolonChar] at hbeq
        simpa using hbeq.symm
      apply ZoneOffset.inRange_of_ofParts? _ _ hparts
      · simp only [List.length_drop]
        omega
      · rw [List.getElem?_drop, ← hcolon]
        congr 1
        omega
    · cases h

end Split

end SparqlExpr.Temporal
