import Mathlib
import SparqlExpr.Proofs.ZoneSuffix
import SparqlExpr.Proofs.Calendar
import SparqlExpr.Proofs.DecimalText

/-!
Reading dates and times by pattern, against the texts they are printed as.

Each pattern item reads a prefix of what is left, so text after the part a pattern reads does
not change what it reads, as long as no item can go on into it (`Stops`): no digit, white space
or point comes first (`readPrefix_append`). In particular a text that a pattern reads whole is no
longer read whole with more after it (`readPattern_append`).

The pieces a date or time is printed with read back as what they print: a year in any range
(`takeYear_yearText`), numbers padded to a width (`takeNumber_padded`), and fractions of a second
with three, six or nine digits (`takeFraction_fractionText`). So valid dates, times of day and
local date-times are read back from their texts (`readPattern_dateText`, `readPattern_timeText`,
`readPattern_localText`), a leap second included: it is printed as second 60 and read back as
second 59 with the extra second in the nanoseconds (`ReadFields.time?_withTime`). Conversely
every time a pattern reads is valid (`ReadFields.time?_valid`), the nanoseconds read staying below
a second (`readPrefix_nano_lt`).
-/

namespace SparqlExpr.Temporal

section Reading

/-- Nothing a pattern item reads goes on into `rest`: it does not start with a digit, white
space or a point. -/
def Stops (rest : List Char) : Prop :=
  ∀ c ∈ rest.head?, c.isDigit = false ∧ Unicode.isWhiteSpace c = false ∧ c ≠ '.'

theorem takeWhile_append_of_head {p : Char → Bool} {rest : List Char}
    (h : ∀ c ∈ rest.head?, p c = false) (cs : List Char) :
    (cs ++ rest).takeWhile p = cs.takeWhile p := by
  induction cs with
  | nil =>
      rcases rest with _ | ⟨c, rest⟩
      · rfl
      · simp [h c rfl]
  | cons c cs ih => by_cases hc : p c <;> simp [hc, ih]

theorem dropWhile_append_of_head {p : Char → Bool} {rest : List Char}
    (h : ∀ c ∈ rest.head?, p c = false) (cs : List Char) :
    (cs ++ rest).dropWhile p = cs.dropWhile p ++ rest := by
  induction cs with
  | nil =>
      rcases rest with _ | ⟨c, rest⟩
      · rfl
      · simp [h c rfl]
  | cons c cs ih => by_cases hc : p c <;> simp [hc, ih]

theorem digitsValue_eq (cs : List Char) : digitsValue cs = Nat.ofDigitChars 10 cs 0 :=
  foldl_digit_eq_ofDigitChars cs 0

theorem takeNumber_append {w : Option Nat} {cs rest r : List Char} {n : Nat}
    (hrest : ∀ c ∈ rest.head?, c.isDigit = false) (h : takeNumber w cs = some (n, r)) :
    takeNumber w (cs ++ rest) = some (n, r ++ rest) := by
  have hprefix := takeWhile_append_of_head hrest cs
  -- the run of digits ends inside `cs`, so the rest after it is followed by `rest`
  have hle : (cs.takeWhile Char.isDigit).length ≤ cs.length := (List.takeWhile_prefix _).length_le
  cases w with
  | none =>
      simp only [takeNumber, hprefix] at h ⊢
      split at h
      · cases h
      · rename_i hne
        cases h
        rw [if_neg hne, List.drop_append_of_le_length hle]
  | some k =>
      simp only [takeNumber, hprefix] at h ⊢
      split at h
      · cases h
      · rename_i hne
        cases h
        rw [if_neg hne, List.drop_append_of_le_length ((List.take_prefix _ _).length_le.trans hle)]

theorem takeYear_append {cs rest r : List Char} {y : Int}
    (hrest : ∀ c ∈ rest.head?, c.isDigit = false) (h : takeYear cs = some (y, r)) :
    takeYear (cs ++ rest) = some (y, r ++ rest) := by
  rcases cs with _ | ⟨c, t⟩
  · simp [takeYear, takeNumber] at h
  by_cases hminus : c = '-'
  · subst hminus
    simp only [takeYear, Option.map_eq_some_iff, List.cons_append] at h ⊢
    obtain ⟨⟨n, r'⟩, hn, heq⟩ := h
    exact ⟨(n, r' ++ rest), takeNumber_append hrest hn, by simp_all⟩
  by_cases hplus : c = '+'
  · subst hplus
    simp only [takeYear, Option.map_eq_some_iff, List.cons_append] at h ⊢
    obtain ⟨⟨n, r'⟩, hn, heq⟩ := h
    exact ⟨(n, r' ++ rest), takeNumber_append hrest hn, by simp_all⟩
  · have hdefault : ∀ u : List Char, takeYear (c :: u) =
        (takeNumber (some 4) (c :: u)).map fun p => ((p.1 : Int), p.2) := by
      intro u
      unfold takeYear
      split <;> simp_all
    rw [hdefault] at h
    rw [List.cons_append, hdefault, ← List.cons_append]
    obtain ⟨⟨n, r'⟩, hn, heq⟩ := Option.map_eq_some_iff.mp h
    rw [takeNumber_append hrest hn]
    simp_all

theorem takeFraction_append {cs rest r : List Char} {n : Option Nat}
    (hrest : Stops rest) (h : takeFraction cs = some (n, r)) :
    takeFraction (cs ++ rest) = some (n, r ++ rest) := by
  have hdigit : ∀ c ∈ rest.head?, c.isDigit = false := fun c hc => (hrest c hc).1
  rcases cs with _ | ⟨c, t⟩
  · -- nothing before `rest`, which does not start with a point
    simp only [takeFraction, Option.some.injEq, Prod.mk.injEq] at h
    obtain ⟨rfl, rfl⟩ := h
    rcases rest with _ | ⟨d, rest⟩
    · rfl
    · have hd : d ≠ '.' := (hrest d rfl).2.2
      simp [takeFraction, hd]
  by_cases hpoint : c = '.'
  · subst hpoint
    simp only [takeFraction, Option.map_eq_some_iff, List.cons_append] at h ⊢
    obtain ⟨⟨v, r'⟩, hv, heq⟩ := h
    refine ⟨(v, r' ++ rest), takeNumber_append hdigit hv, ?_⟩
    simp only [Prod.mk.injEq] at heq ⊢
    obtain ⟨rfl, rfl⟩ := heq
    have hkept : (t ++ rest).length - (r' ++ rest).length = t.length - r'.length := by
      simp only [List.length_append]
      omega
    rw [hkept, dropWhile_append_of_head hdigit]
    exact ⟨rfl, rfl⟩
  · have hother : ∀ u : List Char, takeFraction (c :: u) = some (none, c :: u) := by
      intro u
      unfold takeFraction
      split <;> simp_all
    rw [hother] at h
    simp only [Option.some.injEq, Prod.mk.injEq] at h
    obtain ⟨rfl, rfl⟩ := h
    rw [List.cons_append, hother]

/-- A pattern that reads a prefix of `cs` reads the same prefix of `cs ++ rest`, leaving `rest`
after what it left, when nothing it reads can go on into `rest`. -/
theorem readPrefix_append {rest : List Char} (hrest : Stops rest) (items : List PatternItem) :
    ∀ (fields : ReadFields) (cs : List Char) {f : ReadFields} {r : List Char},
      readPrefix fields items cs = some (f, r) →
        readPrefix fields items (cs ++ rest) = some (f, r ++ rest) := by
  have hdigit : ∀ c ∈ rest.head?, c.isDigit = false := fun c hc => (hrest c hc).1
  have hspace : ∀ c ∈ rest.head?, Unicode.isWhiteSpace c = false := fun c hc => (hrest c hc).2.1
  -- every numeric item first skips white space, which stops before `rest` too
  have hnumeric : ∀ cs : List Char, (cs ++ rest).dropWhile Unicode.isWhiteSpace =
      cs.dropWhile Unicode.isWhiteSpace ++ rest := dropWhile_append_of_head hspace
  induction items with
  | nil =>
      intro fields cs f r h
      simp only [readPrefix, Option.some.injEq, Prod.mk.injEq] at h ⊢
      obtain ⟨rfl, rfl⟩ := h
      exact ⟨rfl, rfl⟩
  | cons item items ih =>
      intro fields cs f r h
      cases item with
      | literal c =>
          rcases cs with _ | ⟨d, cs⟩
          · simp [readPrefix] at h
          · simp only [readPrefix, List.cons_append] at h ⊢
            split at h
            · rw [if_pos ‹_›]
              exact ih fields cs h
            · cases h
      | space =>
          simp only [readPrefix] at h ⊢
          rw [hnumeric]
          exact ih fields _ h
      | year =>
          rw [readPrefix] at h ⊢
          simp only [Option.bind_eq_bind, Option.bind_eq_some_iff] at h ⊢
          obtain ⟨⟨y, r'⟩, hy, hread⟩ := h
          exact ⟨(y, r' ++ rest), by rw [hnumeric]; exact takeYear_append hdigit hy, ih _ _ hread⟩
      | month | day | hour | minute | second =>
          rw [readPrefix] at h ⊢
          simp only [Option.bind_eq_bind, Option.bind_eq_some_iff] at h ⊢
          obtain ⟨⟨n, r'⟩, hn, hread⟩ := h
          exact ⟨(n, r' ++ rest), by rw [hnumeric]; exact takeNumber_append hdigit hn, ih _ _ hread⟩
      | fraction =>
          rw [readPrefix] at h ⊢
          simp only [Option.bind_eq_bind, Option.bind_eq_some_iff] at h ⊢
          obtain ⟨⟨n, r'⟩, hn, hread⟩ := h
          exact ⟨(n, r' ++ rest), takeFraction_append hrest hn, ih _ _ hread⟩

theorem readPattern_of_readPrefix {pattern : List PatternItem} {s : String} {f : ReadFields}
    (h : readPattern pattern s = some f) : readPrefix {} pattern s.toList = some (f, []) := by
  unfold readPattern at h
  split at h
  · cases h
    assumption
  · cases h

/-- A text read whole by a pattern is no longer read whole once more follows it. -/
theorem readPattern_append {pattern : List PatternItem} {t : String} {f : ReadFields}
    {rest : List Char} (h : readPattern pattern t = some f) (hne : rest ≠ []) (hrest : Stops rest) :
    readPattern pattern (t ++ String.ofList rest) = none := by
  have hread := readPrefix_append hrest pattern {} _ (readPattern_of_readPrefix h)
  rw [List.nil_append] at hread
  unfold readPattern
  rw [String.toList_append, String.toList_ofList, hread]
  split
  · rename_i heq
    cases heq
    exact absurd rfl hne
  · rfl

end Reading

section Bounds

/-- What `takeNumber` reads: a non-empty run of digits, as many as the width allows, and their
value. -/
theorem takeNumber_spec {w : Option Nat} {cs r : List Char} {n : Nat}
    (h : takeNumber w cs = some (n, r)) :
    ∃ run, run ≠ [] ∧ AllDigits run ∧ (∀ k ∈ w, run.length ≤ k) ∧ cs = run ++ r ∧
      n = Nat.ofDigitChars 10 run 0 := by
  have hdigits : AllDigits (cs.takeWhile Char.isDigit) := fun c hc => List.mem_takeWhile_imp hc
  have hprefix := List.takeWhile_prefix Char.isDigit (l := cs)
  cases w with
  | none =>
      simp only [takeNumber] at h
      split at h
      · cases h
      · rename_i hne
        obtain ⟨rfl, rfl⟩ := Prod.mk.inj (Option.some.inj h)
        refine ⟨_, fun he => hne (by simp [he]), hdigits, by simp, ?_, digitsValue_eq _⟩
        have hsplit := List.take_append_drop (cs.takeWhile Char.isDigit).length cs
        rw [← List.prefix_iff_eq_take.mp hprefix] at hsplit
        exact hsplit.symm
  | some k =>
      simp only [takeNumber] at h
      split at h
      · cases h
      · rename_i hne
        obtain ⟨rfl, rfl⟩ := Prod.mk.inj (Option.some.inj h)
        refine ⟨_, fun he => hne (by simp [he]), fun c hc => hdigits c (List.mem_of_mem_take hc),
          fun _ hk => by cases hk; exact List.length_take_le _ _, ?_, digitsValue_eq _⟩
        have hsplit := List.take_append_drop ((cs.takeWhile Char.isDigit).take k).length cs
        rw [← List.prefix_iff_eq_take.mp ((List.take_prefix k _).trans hprefix)] at hsplit
        exact hsplit.symm

/-- The nanoseconds a fraction reads are below a second: at most nine digits, scaled to nine. -/
theorem takeFraction_lt {cs r : List Char} {v : Nat} (h : takeFraction cs = some (some v, r)) :
    v < 10 ^ 9 := by
  unfold takeFraction at h
  split at h
  · rename_i rest
    obtain ⟨⟨n, r'⟩, hn, heq⟩ := Option.map_eq_some_iff.mp h
    obtain ⟨run, -, hrun, hwidth, rfl, rfl⟩ := takeNumber_spec hn
    simp only [Option.some.injEq, Prod.mk.injEq] at heq
    obtain ⟨rfl, -⟩ := heq
    have hle : run.length ≤ 9 := hwidth 9 rfl
    have hkept : (run ++ r').length - r'.length = run.length := by simp
    rw [hkept]
    calc Nat.ofDigitChars 10 run 0 * 10 ^ (9 - run.length)
        < 10 ^ run.length * 10 ^ (9 - run.length) :=
          Nat.mul_lt_mul_of_pos_right (ofDigitChars_lt_pow hrun) (by positivity)
      _ = 10 ^ 9 := by rw [← Nat.pow_add, Nat.add_sub_cancel' hle]
  · cases h

/-- Reading by a pattern keeps the nanoseconds below a second. -/
theorem readPrefix_nano_lt {items : List PatternItem} :
    ∀ {fields : ReadFields} {cs : List Char} {f : ReadFields} {r : List Char},
      readPrefix fields items cs = some (f, r) → (∀ v ∈ fields.nano, v < 10 ^ 9) →
        ∀ v ∈ f.nano, v < 10 ^ 9 := by
  induction items with
  | nil =>
      intro fields cs f r h hfields
      simp only [readPrefix, Option.some.injEq, Prod.mk.injEq] at h
      rw [← h.1]
      exact hfields
  | cons item items ih =>
      intro fields cs f r h hfields
      -- only the fraction item sets the nanoseconds
      cases item with
      | literal c =>
          rcases cs with _ | ⟨d, cs⟩
          · simp [readPrefix] at h
          · simp only [readPrefix] at h
            split at h
            · exact ih h hfields
            · cases h
      | space => exact ih h hfields
      | fraction =>
          rw [readPrefix] at h
          simp only [Option.bind_eq_bind, Option.bind_eq_some_iff] at h
          obtain ⟨⟨n, r'⟩, hn, hread⟩ := h
          cases n with
          | none => exact ih hread hfields
          | some v =>
              refine ih hread ?_
              intro w hw
              cases Option.some.inj hw
              exact takeFraction_lt hn
      | year | month | day | hour | minute | second =>
          rw [readPrefix] at h
          simp only [Option.bind_eq_bind, Option.bind_eq_some_iff] at h
          obtain ⟨⟨n, r'⟩, -, hread⟩ := h
          exact ih hread hfields

namespace ClockTime

/-- A time of day as a clock shows it: within the day, and a second or more of nanoseconds only
in a leap second, which is second 59. -/
structure Valid (t : ClockTime) : Prop where
  inDay : t.InDay
  nano_lt : t.nano < 2000000000
  leap : 1000000000 ≤ t.nano → t.second = 59

end ClockTime

namespace ReadFields

/-- A time read from fields is valid when the nanoseconds read are below a second. -/
theorem time?_valid {f : ReadFields} {t : ClockTime} (h : f.time? = some t)
    (hnano : ∀ v ∈ f.nano, v < 10 ^ 9) : t.Valid := by
  have hn : f.nano.getD 0 < 10 ^ 9 := by
    cases hf : f.nano with
    | none => simp
    | some v => exact hnano v hf
  simp only [time?, Option.bind_eq_bind, Option.bind_eq_some_iff] at h
  obtain ⟨hour, -, minute, -, second, -, h⟩ := h
  split_ifs at h with hrange hleap
  -- out of range: nothing is read
  · simp only [Option.bind_none, reduceCtorEq] at h
  · simp only [Option.bind_none, reduceCtorEq] at h
  all_goals
    simp only [Bool.or_eq_true, decide_eq_true_eq, not_or, not_lt] at hrange
    cases Option.some.inj h
  · refine ⟨⟨?_, ?_, ?_⟩, ?_, ?_⟩ <;> dsimp only <;> omega
  · rename_i hleap
    simp only [beq_iff_eq] at hleap
    refine ⟨⟨?_, ?_, ?_⟩, ?_, ?_⟩ <;> dsimp only <;> omega

end ReadFields

end Bounds

section Printed

/-- Digits followed by anything but a digit are read whole, at any width they fit in. -/
theorem takeNumber_digits {w : Option Nat} {ds r : List Char} (hne : ds ≠ []) (hds : AllDigits ds)
    (hw : ∀ k ∈ w, ds.length ≤ k) (hr : ∀ c ∈ r.head?, c.isDigit = false) :
    takeNumber w (ds ++ r) = some (Nat.ofDigitChars 10 ds 0, r) := by
  have hrun : (ds ++ r).takeWhile Char.isDigit = ds := by
    rw [takeWhile_append_of_head hr, List.takeWhile_eq_self_iff]
    exact hds
  have hnonempty : ds.isEmpty = false := List.isEmpty_eq_false_iff.mpr hne
  cases w with
  | none =>
      simp only [takeNumber, hrun, hnonempty, Bool.false_eq_true, if_false, digitsValue_eq,
        List.drop_left]
  | some k =>
      simp only [takeNumber, hrun, List.take_of_length_le (hw k rfl), hnonempty, Bool.false_eq_true,
        if_false, digitsValue_eq, List.drop_left]

theorem takeNumber_padded {w n : Nat} {r : List Char} (hw : 0 < w) (hn : n < 10 ^ w)
    (hr : ∀ c ∈ r.head?, c.isDigit = false) :
    takeNumber (some w) ((padded w n).toList ++ r) = some (n, r) := by
  rw [takeNumber_digits (padded_ne_nil w n) (allDigits_padded w n)
    (fun k hk => by cases hk; exact (length_padded hw hn).le) hr, ofDigitChars_padded]

/-- A year is read back from its text, whatever follows that is not a digit. -/
theorem takeYear_yearText (y : Int) {r : List Char} (hr : ∀ c ∈ r.head?, c.isDigit = false) :
    takeYear ((yearText y).toList ++ r) = some (y, r) := by
  unfold yearText
  split_ifs with hsmall hneg
  · -- four digits, the first of them no sign
    have hbound : y.toNat < 10 ^ 4 := by simp at hsmall; omega
    obtain ⟨c, cs, hcs⟩ := List.exists_cons_of_ne_nil (padded_ne_nil 4 y.toNat)
    have hc : c.isDigit = true := allDigits_padded 4 y.toNat c (by rw [hcs]; exact List.mem_cons_self)
    obtain ⟨hplus, hminus⟩ := Lexical.not_sign_of_isDigit hc
    rw [takeYear.eq_3 _ (by rw [hcs]; simp [hminus]) (by rw [hcs]; simp [hplus]),
      takeNumber_padded (by norm_num) hbound hr]
    simp only [Option.map_some, Option.some.injEq, Prod.mk.injEq, and_true]
    simp at hsmall
    omega
  · simp only [String.toList_append, List.append_assoc]
    rw [show "-".toList = ['-'] from rfl, List.singleton_append, takeYear,
      takeNumber_digits (padded_ne_nil 4 _) (allDigits_padded 4 _) (fun _ h => by cases h) hr,
      ofDigitChars_padded]
    simp only [Option.map_some, Option.some.injEq, Prod.mk.injEq, and_true]
    omega
  · simp only [String.toList_append, List.append_assoc]
    rw [show "+".toList = ['+'] from rfl, List.singleton_append, takeYear,
      takeNumber_digits (padded_ne_nil 4 _) (allDigits_padded 4 _) (fun _ h => by cases h) hr,
      ofDigitChars_padded]
    simp only [Option.map_some, Option.some.injEq, Prod.mk.injEq, and_true]
    simp at hsmall
    omega

/-- A point and `w` digits, `w` at most nine, are read as that many leading digits of the
nanoseconds. -/
theorem takeFraction_padded {w n : Nat} {r : List Char} (hw : 0 < w) (hw9 : w ≤ 9) (hn : n < 10 ^ w)
    (hr : ∀ c ∈ r.head?, c.isDigit = false) :
    takeFraction ('.' :: ((padded w n).toList ++ r)) = some (some (n * 10 ^ (9 - w)), r) := by
  have hread : takeNumber (some 9) ((padded w n).toList ++ r) = some (n, r) := by
    rw [takeNumber_digits (padded_ne_nil w n) (allDigits_padded w n)
      (fun k hk => by cases hk; rw [length_padded hw hn]; exact hw9) hr, ofDigitChars_padded]
  have hkept : ((padded w n).toList ++ r).length - r.length = w := by
    rw [List.length_append, length_padded hw hn]
    omega
  have hskip : r.dropWhile Char.isDigit = r := by
    rcases r with _ | ⟨c, r⟩
    · rfl
    · simp [hr c rfl]
  simp only [takeFraction, hread, hkept, hskip, Option.map_some, Nat.pow_eq]

/-- The fraction of a second is read back as the nanoseconds below the second, none when there
are none. -/
theorem takeFraction_fractionText (nano : Nat) {r : List Char} (hr : Stops r) :
    takeFraction ((fractionText nano).toList ++ r) =
      some (if nano % 1000000000 = 0 then none else some (nano % 1000000000), r) := by
  have hdigit : ∀ c ∈ r.head?, c.isDigit = false := fun c hc => (hr c hc).1
  have hlt : nano % 1000000000 < 1000000000 := Nat.mod_lt _ (by norm_num)
  simp only [fractionText, beq_iff_eq]
  generalize nano % 1000000000 = n at hlt ⊢
  by_cases hzero : n = 0
  · rw [if_pos hzero, if_pos hzero]
    refine takeFraction.eq_2 _ ?_
    rintro rest rfl
    exact (hr '.' rfl).2.2 rfl
  rw [if_neg hzero, if_neg hzero]
  -- three, six or nine digits: the fewest that hold the nanoseconds exactly
  split_ifs with hmilli hmicro <;>
    rw [String.toList_append, List.append_assoc, show ".".toList = ['.'] from rfl,
      List.singleton_append, takeFraction_padded (by norm_num) (by norm_num) (by omega) hdigit]
  · congr 3
    omega
  · congr 3
    omega
  · simp


theorem dropWhile_of_head {p : Char → Bool} {cs : List Char} (h : ∀ c ∈ cs.head?, p c = false) :
    cs.dropWhile p = cs := by
  rcases cs with _ | ⟨c, cs⟩
  · rfl
  · simp [h c rfl]

theorem digitStop_cons {c : Char} (rest : List Char) (h : c.isDigit = false) :
    ∀ x ∈ (c :: rest).head?, x.isDigit = false := by
  simpa using h

theorem head_padded_append (w n : Nat) (r : List Char) :
    ∀ c ∈ ((padded w n).toList ++ r).head?, c.isDigit = true := by
  obtain ⟨c, cs, hcs⟩ := List.exists_cons_of_ne_nil (padded_ne_nil w n)
  have hc : c.isDigit = true := allDigits_padded w n c (by rw [hcs]; exact List.mem_cons_self)
  rw [hcs]
  simpa using hc

theorem readPrefix_literal (fields : ReadFields) (c : Char) (items : List PatternItem)
    (cs : List Char) : readPrefix fields (.literal c :: items) (c :: cs) = readPrefix fields items cs := by
  simp [readPrefix]

/-- A two-digit item reads a number printed with two digits, whichever field it fills. -/
theorem readPrefix_padded {item : PatternItem} (set : ReadFields → Nat → ReadFields)
    (hitem : ∀ fields items cs, readPrefix fields (item :: items) cs =
      takeNumber (some 2) (cs.dropWhile Unicode.isWhiteSpace) >>= fun (n, r) =>
        readPrefix (set fields n) items r)
    {n : Nat} (hn : n < 100) {r : List Char} (hr : ∀ c ∈ r.head?, c.isDigit = false)
    (fields : ReadFields) (items : List PatternItem) :
    readPrefix fields (item :: items) ((padded 2 n).toList ++ r) = readPrefix (set fields n) items r := by
  rw [hitem, dropWhile_of_head fun c hc => isWhiteSpace_of_isDigit (head_padded_append 2 n r c hc),
    takeNumber_padded (by norm_num) hn hr]
  rfl

theorem readPrefix_yearText (y : Int) {r : List Char} (hr : ∀ c ∈ r.head?, c.isDigit = false)
    (fields : ReadFields) (items : List PatternItem) :
    readPrefix fields (.year :: items) ((yearText y).toList ++ r) =
      readPrefix { fields with year := some y } items r := by
  have hhead : ∀ c ∈ ((yearText y).toList ++ r).head?, Unicode.isWhiteSpace c = false := by
    unfold yearText
    split_ifs
    · exact fun c hc => isWhiteSpace_of_isDigit (head_padded_append 4 _ r c hc)
    all_goals
      intro c hc
      simp only [String.toList_append, List.append_assoc] at hc
      cases Option.some.inj hc
      decide
  rw [readPrefix, dropWhile_of_head hhead, takeYear_yearText y hr]
  rfl

theorem readPrefix_fractionText (nano : Nat) {r : List Char} (hr : Stops r)
    (fields : ReadFields) (items : List PatternItem) :
    readPrefix fields (.fraction :: items) ((fractionText nano).toList ++ r) =
      readPrefix (if nano % 1000000000 = 0 then fields else { fields with nano := some (nano % 1000000000) })
        items r := by
  rw [readPrefix, takeFraction_fractionText nano hr]
  split_ifs <;> rfl


end Printed

section Texts

namespace ReadFields

/-- The fields a date is printed with, over `fields`. -/
def withDate (fields : ReadFields) (d : CivilDate) : ReadFields :=
  { fields with year := some d.year, month := some d.month, day := some d.day }

/-- The fields a time of day is printed with, over `fields`: a leap second shows second 60, and
the nanoseconds below the second are written only when there are some. -/
def withTime (fields : ReadFields) (t : ClockTime) : ReadFields :=
  { fields with
    hour := some t.hour
    minute := some t.minute
    second := some (t.second + t.nano / 1000000000)
    nano := if t.nano % 1000000000 = 0 then fields.nano else some (t.nano % 1000000000) }

theorem date?_withDate (fields : ReadFields) {d : CivilDate} (hd : d.isValid = true) :
    (fields.withDate d).date? = some d := by
  simp [date?, withDate, hd]

@[simp] theorem date?_withTime (fields : ReadFields) (t : ClockTime) :
    (fields.withTime t).date? = fields.date? := rfl

/-- A valid time of day is read back from the fields it is printed with. -/
theorem time?_withTime {fields : ReadFields} (hnano : fields.nano = none) {t : ClockTime}
    (ht : t.Valid) : (fields.withTime t).time? = some t := by
  obtain ⟨⟨hhour, hminute, hsecond⟩, hlt, hleap⟩ := ht
  have hfraction : (fields.withTime t).nano.getD 0 = t.nano % 1000000000 := by
    simp only [withTime]
    split_ifs with hzero
    · rw [hnano, hzero]
      rfl
    · rfl
  have hrange : (decide (23 < t.hour) || decide (59 < t.minute) ||
      decide (60 < t.second + t.nano / 1000000000)) = false := by
    simp only [Bool.or_eq_false_iff, decide_eq_false_iff_not, not_lt]
    omega
  have hhour' : (fields.withTime t).hour = some t.hour := rfl
  have hminute' : (fields.withTime t).minute = some t.minute := rfl
  have hsecond' : (fields.withTime t).second = some (t.second + t.nano / 1000000000) := rfl
  simp only [time?, hhour', hminute', hsecond', hfraction, Option.bind_eq_bind, Option.bind_some,
    hrange, Bool.false_eq_true, if_false]
  by_cases hsub : t.nano < 1000000000
  · -- no leap second: the second is printed as it is
    have hdiv : t.nano / 1000000000 = 0 := Nat.div_eq_of_lt hsub
    have hne : (t.second + t.nano / 1000000000 == 60) = false := by
      rw [hdiv, beq_eq_false_iff_ne]
      omega
    rw [if_neg (by rw [hne]; decide), hdiv, Nat.add_zero, Nat.mod_eq_of_lt hsub]
  · -- a leap second is printed as second 60 and read back as second 59
    have h59 : t.second = 59 := hleap (by omega)
    have hdiv : t.nano / 1000000000 = 1 := by omega
    have hnano' : 1000000000 + t.nano % 1000000000 = t.nano := by omega
    rw [if_pos (by rw [hdiv, h59]; rfl), hnano', ← h59]
end ReadFields


theorem toList_dateText (d : CivilDate) :
    d.text.toList = (yearText d.year).toList ++ '-' ::
      ((padded 2 d.month).toList ++ '-' :: (padded 2 d.day).toList) := by
  simp [CivilDate.text]

theorem toList_timeText (t : ClockTime) :
    t.text.toList = (padded 2 t.hour).toList ++ ':' :: ((padded 2 t.minute).toList ++ ':' ::
      ((padded 2 (t.second + t.nano / 1000000000)).toList ++ (fractionText t.nano).toList)) := by
  simp [ClockTime.text]

theorem toList_localText (l : LocalDateTime) :
    l.text.toList = l.date.text.toList ++ 'T' :: l.time.text.toList := by
  simp [LocalDateTime.text]

/-- The text of a fraction starts with a point, if with anything. -/
theorem fractionText_digitStop (nano : Nat) {r : List Char} (hr : Stops r) :
    ∀ c ∈ ((fractionText nano).toList ++ r).head?, c.isDigit = false := by
  simp only [fractionText]
  split_ifs
  · exact fun c hc => (hr c hc).1
  all_goals
    simp only [String.toList_append, show ".".toList = ['.'] from rfl, List.singleton_append]
    exact digitStop_cons _ (by decide)

theorem daysInMonth_le_31 (y : Int) (m : Nat) : daysInMonth y m ≤ 31 := by
  unfold daysInMonth
  split_ifs <;> omega

/-- A valid date is read back from its text by the date pattern. -/
theorem readPrefix_dateText {d : CivilDate} (hd : d.isValid = true) {r : List Char}
    (hr : ∀ c ∈ r.head?, c.isDigit = false) (fields : ReadFields) (items : List PatternItem) :
    readPrefix fields (datePattern ++ items) (d.text.toList ++ r) =
      readPrefix (fields.withDate d) items r := by
  obtain ⟨-, -, -, hmonth, -, hday⟩ := CivilDate.isValid_iff.mp hd
  have hdays := daysInMonth_le_31 d.year d.month
  rw [toList_dateText]
  simp only [List.append_assoc, List.cons_append]
  rw [show datePattern ++ items =
      .year :: .literal '-' :: .month :: .literal '-' :: .day :: items from rfl,
    readPrefix_yearText _ (digitStop_cons _ (by decide)), readPrefix_literal,
    readPrefix_padded (fun f n => { f with month := some n }) (fun _ _ _ => rfl)
      (by omega) (digitStop_cons _ (by decide)),
    readPrefix_literal,
    readPrefix_padded (fun f n => { f with day := some n }) (fun _ _ _ => rfl) (by omega) hr]
  rfl

/-- A valid time of day is read back from its text by the time pattern. -/
theorem readPrefix_timeText {t : ClockTime} (ht : t.Valid) {r : List Char} (hr : Stops r)
    (fields : ReadFields) (items : List PatternItem) :
    readPrefix fields (timePattern ++ items) (t.text.toList ++ r) =
      readPrefix (fields.withTime t) items r := by
  obtain ⟨⟨hhour, hminute, hsecond⟩, hlt, -⟩ := ht
  rw [toList_timeText]
  simp only [List.append_assoc, List.cons_append]
  rw [show timePattern ++ items = .hour :: .literal ':' :: .minute :: .literal ':' :: .second ::
      .fraction :: items from rfl,
    readPrefix_padded (fun f n => { f with hour := some n }) (fun _ _ _ => rfl)
      (by omega) (digitStop_cons _ (by decide)),
    readPrefix_literal,
    readPrefix_padded (fun f n => { f with minute := some n }) (fun _ _ _ => rfl)
      (by omega) (digitStop_cons _ (by decide)),
    readPrefix_literal,
    readPrefix_padded (fun f n => { f with second := some n }) (fun _ _ _ => rfl)
      (by omega) (fractionText_digitStop t.nano hr),
    readPrefix_fractionText t.nano hr]
  unfold ReadFields.withTime
  split_ifs <;> rfl

theorem readPattern_dateText {d : CivilDate} (hd : d.isValid = true) :
    readPattern datePattern d.text = some (({} : ReadFields).withDate d) := by
  have h := readPrefix_dateText hd (r := []) (fun _ h => by cases h) {} []
  rw [List.append_nil, List.append_nil] at h
  simp only [readPattern, h, readPrefix]

theorem readPattern_timeText {t : ClockTime} (ht : t.Valid) :
    readPattern timePattern t.text = some (({} : ReadFields).withTime t) := by
  have h := readPrefix_timeText ht (r := []) (fun _ h => by cases h) {} []
  rw [List.append_nil, List.append_nil] at h
  simp only [readPattern, h, readPrefix]

theorem readPattern_localText {l : LocalDateTime} (hd : l.date.isValid = true) (ht : l.time.Valid) :
    readPattern dateTimePattern l.text = some ((({} : ReadFields).withDate l.date).withTime l.time) := by
  have htime := readPrefix_timeText ht (r := []) (fun _ h => by cases h) (({} : ReadFields).withDate l.date) []
  have h := readPrefix_dateText hd (r := 'T' :: l.time.text.toList) (digitStop_cons _ (by decide)) {}
    (.literal 'T' :: timePattern)
  rw [List.append_nil, List.append_nil] at htime
  rw [readPrefix_literal, htime] at h
  simp only [readPattern, toList_localText, show dateTimePattern = datePattern ++ .literal 'T' :: timePattern
    from rfl, h, readPrefix]

end Texts

end SparqlExpr.Temporal
