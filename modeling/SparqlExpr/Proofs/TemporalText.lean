import Mathlib
import SparqlExpr.Proofs.PatternReading
import SparqlExpr.Builtin.DateParts
import SparqlExpr.Config

/-!
Zones of temporal texts, and reading back what is printed.

The three parsers share one shape (`zonedParse`): split a zone off the text (`splitZone`), read
the local part, and build the value from what is read and the zone; `DateTime.parse?_eq`,
`Date.parse?_eq` and `Time.parse?_eq` put each parser in that shape. Everything below is said
once of the shape and then of each parser.

Zone suffixes (`zoneSuffix_after_unzoned`): after a text a parser accepts without a zone, a
suffix `±ab:cd` is accepted exactly when `ab` and `cd` read as integers within 14 hours and 59
minutes (`SuffixOffset`). The fields are read as signed integers, so a sign may stand inside a
field: `+-9:00` is nine hours west (`plus_minus_nine_reads_as_zone`).

Round trips (`temporal_texts_read_back`): a parsed value shows the date and time its text writes,
which are what the date parts (`ShowsDate`, `ShowsClock`) return, and keeps its zone, and its own
text reads back as the value. The zones a parser accepts are
under fifteen hours, and the printed date and time end in digits that cannot be taken for a zone.
The current time fixed from a timestamp may have a zone up to a day, and reads back exactly when
its zone is under fifteen hours (`now_twenty_hours_east_does_not_read_back`).
-/

namespace SparqlExpr.Temporal

section Scheme

/-- The split of a text with local part `t` and zone `o`. -/
def ZoneSplit.ofOffset (t : String) : Option ZoneOffset → ZoneSplit
  | none => .unzoned t
  | some o => .zoned t o

variable {α β : Type}

/-- The shape the three temporal parsers share: split off the zone, read the local part, and
build the value from what is read and the zone. -/
def zonedParse (read : String → Option α) (build : α → Option ZoneOffset → Option β) (s : String) :
    Option β :=
  match splitZone s with
  | .invalid => none
  | .unzoned t => (read t).bind (build · none)
  | .zoned t o => (read t).bind (build · (some o))

theorem splitZone_eq_unzoned_self {s t : String} (h : splitZone s = .unzoned t) : t = s := by
  unfold splitZone at h
  dsimp only at h
  split at h
  · cases h
  · split at h
    · split at h
      · split at h <;> cases h
      · cases h
    · cases h
      rfl

/-- A parser of this shape accepts a text exactly when the text splits into a local part it reads
and a zone it builds a value with. -/
theorem zonedParse_eq_some {read : String → Option α} {build : α → Option ZoneOffset → Option β}
    {s : String} {v : β} :
    zonedParse read build s = some v ↔
      ∃ t o x, splitZone s = ZoneSplit.ofOffset t o ∧ read t = some x ∧ build x o = some v := by
  unfold zonedParse
  split
  · rename_i hsplit
    simp only [reduceCtorEq, false_iff, not_exists, not_and]
    intro t o x h
    rw [hsplit] at h
    cases o <;> cases h
  · rename_i t hsplit
    simp only [Option.bind_eq_some_iff]
    constructor
    · rintro ⟨x, hx, hv⟩
      exact ⟨t, none, x, hsplit, hx, hv⟩
    · rintro ⟨t', o, x, h, hx, hv⟩
      rw [hsplit] at h
      cases o with
      | none =>
          cases h
          exact ⟨x, hx, hv⟩
      | some o => cases h
  · rename_i t o hsplit
    simp only [Option.bind_eq_some_iff]
    constructor
    · rintro ⟨x, hx, hv⟩
      exact ⟨t, some o, x, hsplit, hx, hv⟩
    · rintro ⟨t', o', x, h, hx, hv⟩
      rw [hsplit] at h
      cases o' with
      | none => cases h
      | some o' =>
          cases h
          exact ⟨x, hx, hv⟩

/-- A local text left whole by `splitZone` and read as `x`, followed by the text of a zone that
reads back, is parsed as `x` with that zone. -/
theorem zonedParse_append_offsetText {read : String → Option α}
    {build : α → Option ZoneOffset → Option β} {t : String} {x : α}
    (hsplit : splitZone t = .unzoned t) (hread : read t = some x) {o : Option ZoneOffset}
    (ho : ∀ o' ∈ o, o'.InRange) : zonedParse read build (t ++ offsetText o) = build x o := by
  cases o with
  | none =>
      rw [show offsetText none = "" from rfl, String.append_empty]
      simp [zonedParse, hsplit, hread]
  | some o =>
      rw [show offsetText (some o) = o.text from rfl]
      simp [zonedParse, splitZone_append_text t (ho o rfl), hread]

theorem stops_sign {sign : Char} (hsign : sign = '+' ∨ sign = '-') (rest : List Char) :
    Stops (sign :: rest) := by
  intro c hc
  cases Option.some.inj hc
  rcases hsign with rfl | rfl <;> decide

/-- After a local text read as `x` by a reader that reads nothing more after it, a suffix of a
sign, two characters, a colon and two characters is accepted exactly when it reads as an offset,
and the value is built with that offset. -/
theorem zonedParse_append_suffix {read : String → Option α}
    {build : α → Option ZoneOffset → Option β} {t : String} {x : α} (hread : read t = some x)
    (hclosed : ∀ rest, rest ≠ [] → Stops rest → read (t ++ String.ofList rest) = none)
    {sign a b c d : Char} (hsign : sign = '+' ∨ sign = '-') :
    zonedParse read build (t ++ String.ofList [sign, a, b, ':', c, d]) =
      (ZoneOffset.ofParts? (sign == '-') [a, b, ':', c, d]).bind fun o => build x (some o) := by
  by_cases hZ : d = 'Z'
  · -- a final `Z` is split off first, and the text before it is not read whole
    subst hZ
    have hparts : ZoneOffset.ofParts? (sign == '-') [a, b, ':', c, 'Z'] = none := by
      rw [Option.eq_none_iff_forall_ne_some]
      intro o ho
      obtain ⟨hours, minutes, -, hm, -⟩ := ZoneOffset.ofParts?_suffix.mp ho
      exact absurd (ZoneOffset.integerNotation_pair hm).2.1 (by decide)
    unfold zonedParse
    rw [show [sign, a, b, ':', c, 'Z'] = [sign, a, b, ':', c] ++ ['Z'] from rfl, splitZone_append_Z,
      hparts]
    dsimp only
    rw [hclosed _ (by simp) (stops_sign hsign _)]
    rfl
  cases hparts : ZoneOffset.ofParts? (sign == '-') [a, b, ':', c, d] with
  | some o =>
      obtain ⟨hours, minutes, hh, hm, -⟩ := ZoneOffset.ofParts?_suffix.mp hparts
      obtain ⟨ha, hb, -⟩ := ZoneOffset.integerNotation_pair hh
      obtain ⟨hc, hd, -⟩ := ZoneOffset.integerNotation_pair hm
      -- the suffix is ASCII: digits, signs and a colon
      have hascii : ∀ y ∈ [sign, a, b, ':', c, d], y.toNat < 128 := by
        intro y hy
        simp only [List.mem_cons, List.not_mem_nil, or_false] at hy
        rcases hy with rfl | rfl | rfl | rfl | rfl | rfl
        · rcases hsign with rfl | rfl <;> decide
        · rcases ha with ha | rfl | rfl
          · exact toNat_lt_of_isDigit ha
          all_goals decide
        · exact toNat_lt_of_isDigit hb
        · decide
        · rcases hc with hc | rfl | rfl
          · exact toNat_lt_of_isDigit hc
          all_goals decide
        · exact toNat_lt_of_isDigit hd
      unfold zonedParse
      rw [splitZone_append_suffix hascii hsign hZ hparts]
      dsimp only
      rw [hread]
      rfl
  | none =>
      unfold zonedParse
      rcases (splitZone_append_suffix_none hZ (ZoneOffset.ofParts?_suffix_eq_none hparts) :
          splitZone (t ++ String.ofList [sign, a, b, ':', c, d]) = _ ∨ _) with h | h
      · rw [h]
        rfl
      · rw [h]
        dsimp only
        rw [hclosed _ (by simp) (stops_sign hsign _)]
        rfl

/-- What a parser of this shape accepts splits into a local part it reads and a zone in range. -/
theorem zonedParse_eq_some_inRange {read : String → Option α}
    {build : α → Option ZoneOffset → Option β} {s : String} {v : β}
    (h : zonedParse read build s = some v) :
    ∃ t o x, splitZone s = ZoneSplit.ofOffset t o ∧ read t = some x ∧ build x o = some v ∧
      ∀ o' ∈ o, o'.InRange := by
  obtain ⟨t, o, x, hsplit, hx, hv⟩ := zonedParse_eq_some.mp h
  refine ⟨t, o, x, hsplit, hx, hv, ?_⟩
  rintro o' rfl
  exact inRange_of_splitZone hsplit

/-- A value built without a zone was read from the whole text. -/
theorem zonedParse_unzoned {read : String → Option α} {build : α → Option ZoneOffset → Option β}
    (offsetOf : β → Option ZoneOffset) (hbuild : ∀ x o w, build x o = some w → offsetOf w = o)
    {s : String} {v : β} (h : zonedParse read build s = some v) (hv : offsetOf v = none) :
    ∃ x, read s = some x ∧ build x none = some v := by
  obtain ⟨t, o, x, hsplit, hx, hb⟩ := zonedParse_eq_some.mp h
  obtain rfl : o = none := (hbuild _ _ _ hb).symm.trans hv
  obtain rfl := splitZone_eq_unzoned_self hsplit
  exact ⟨x, hx, hb⟩

end Scheme

section Printed

theorem ascii_padded (w n : Nat) : ∀ c ∈ (padded w n).toList, c.toNat < 128 :=
  fun c hc => toNat_lt_of_isDigit (allDigits_padded w n c hc)

theorem ascii_yearText (y : Int) : ∀ c ∈ (yearText y).toList, c.toNat < 128 := by
  unfold yearText
  split_ifs
  · exact ascii_padded 4 _
  all_goals
    intro c hc
    simp only [String.toList_append, List.mem_append] at hc
    rcases hc with hc | hc
    · simp only [show "-".toList = ['-'] from rfl, show "+".toList = ['+'] from rfl,
        List.mem_singleton] at hc
      subst hc
      decide
    · exact ascii_padded 4 _ c hc

/-- A fraction of a second is written with nothing, or a point and three digits or more. -/
theorem fractionText_cases (nano : Nat) :
    fractionText nano = "" ∨ ∃ k n, 3 ≤ k ∧ n < 10 ^ k ∧ fractionText nano = "." ++ padded k n := by
  simp only [fractionText, beq_iff_eq]
  have hlt : nano % 1000000000 < 1000000000 := Nat.mod_lt _ (by norm_num)
  split_ifs
  · exact Or.inl rfl
  · exact Or.inr ⟨3, _, le_rfl, by norm_num; omega, rfl⟩
  · exact Or.inr ⟨6, _, by norm_num, by norm_num; omega, rfl⟩
  · exact Or.inr ⟨9, _, by norm_num, by norm_num; omega, rfl⟩

theorem ascii_fractionText (nano : Nat) : ∀ c ∈ (fractionText nano).toList, c.toNat < 128 := by
  rcases fractionText_cases nano with h | ⟨k, n, -, -, h⟩ <;> rw [h]
  · simp
  · intro c hc
    simp only [String.toList_append, List.mem_append, show ".".toList = ['.'] from rfl,
      List.mem_singleton] at hc
    rcases hc with rfl | hc
    · decide
    · exact ascii_padded k n c hc

theorem ascii_dateText (d : CivilDate) : ∀ c ∈ d.text.toList, c.toNat < 128 := by
  intro c hc
  simp only [toList_dateText, List.mem_append, List.mem_cons] at hc
  rcases hc with hc | rfl | hc | rfl | hc
  · exact ascii_yearText _ c hc
  · decide
  · exact ascii_padded 2 _ c hc
  · decide
  · exact ascii_padded 2 _ c hc

theorem ascii_timeText (t : ClockTime) : ∀ c ∈ t.text.toList, c.toNat < 128 := by
  intro c hc
  simp only [toList_timeText, List.mem_append, List.mem_cons] at hc
  rcases hc with hc | rfl | hc | rfl | hc | hc
  · exact ascii_padded 2 _ c hc
  · decide
  · exact ascii_padded 2 _ c hc
  · decide
  · exact ascii_padded 2 _ c hc
  · exact ascii_fractionText _ c hc

/-- The last three of at least three digits. -/
theorem exists_tail3 {cs : List Char} (hcs : AllDigits cs) (hlen : 3 ≤ cs.length) :
    ∃ pre x y z, cs = pre ++ [x, y, z] ∧ x.isDigit = true ∧ z.isDigit = true := by
  obtain ⟨x, y, z, hxyz⟩ := List.length_eq_three.mp
    (show (cs.drop (cs.length - 3)).length = 3 by simp; omega)
  have hsplit : cs = cs.take (cs.length - 3) ++ [x, y, z] := by
    rw [← hxyz, List.take_append_drop]
  refine ⟨_, x, y, z, hsplit, hcs x ?_, hcs z ?_⟩ <;> rw [hsplit] <;> simp

/-- A valid time of day, after any ASCII text, is not taken for a zone: it ends in the seconds,
after a colon, or in three digits of a fraction. -/
theorem splitZone_append_timeText {p : String} (hp : ∀ c ∈ p.toList, c.toNat < 128)
    {t : ClockTime} (ht : t.Valid) : splitZone (p ++ t.text) = .unzoned (p ++ t.text) := by
  obtain ⟨⟨-, hminute, hsecond⟩, hlt, -⟩ := ht
  have hascii : ∀ c ∈ (p ++ t.text).toList, c.toNat < 128 := by
    intro c hc
    rw [String.toList_append, List.mem_append] at hc
    rcases hc with hc | hc
    · exact hp c hc
    · exact ascii_timeText t c hc
  obtain ⟨m1, m2, hm⟩ := List.length_eq_two.mp
    (length_padded (by norm_num) (show t.minute < 10 ^ 2 by omega))
  obtain ⟨s1, s2, hs⟩ := List.length_eq_two.mp
    (length_padded (by norm_num) (show t.second + t.nano / 1000000000 < 10 ^ 2 by omega))
  have hs2 : s2.isDigit = true := allDigits_padded 2 _ s2 (by rw [hs]; simp)
  rcases fractionText_cases t.nano with hf | ⟨k, n, hk, hn, hf⟩
  · -- whole seconds: the text ends `:MM:SS`
    have htail : (p ++ t.text).toList =
        (p.toList ++ (padded 2 t.hour).toList) ++ [':', m1, m2, ':', s1, s2] := by
      rw [String.toList_append, toList_timeText, hm, hs, hf]
      simp
    exact splitZone_eq_unzoned_of_tail6 hascii htail (by decide) hs2
  · -- a fraction: the text ends in three digits
    obtain ⟨pre, x, y, z, hdigits, hx, hz⟩ := exists_tail3 (allDigits_padded k n)
      (by rw [length_padded (by omega) hn]; exact hk)
    have htail : (p ++ t.text).toList = (p.toList ++ (padded 2 t.hour).toList ++
        ':' :: (padded 2 t.minute).toList ++ ':' ::
          (padded 2 (t.second + t.nano / 1000000000)).toList ++ '.' :: pre) ++ [x, y, z] := by
      rw [String.toList_append, toList_timeText, hf, String.toList_append, hdigits]
      simp
    exact splitZone_eq_unzoned_of_tail3 hascii htail (ne_of_isDigit hx ':' rfl) hz

theorem splitZone_timeText {t : ClockTime} (ht : t.Valid) : splitZone t.text = .unzoned t.text := by
  simpa using splitZone_append_timeText (p := "") (by simp) ht

theorem splitZone_localText {l : LocalDateTime} (ht : l.time.Valid) :
    splitZone l.text = .unzoned l.text := by
  have hp : ∀ c ∈ (l.date.text ++ "T").toList, c.toNat < 128 := by
    intro c hc
    rw [String.toList_append, List.mem_append] at hc
    rcases hc with hc | hc
    · exact ascii_dateText _ c hc
    · simp only [show "T".toList = ['T'] from rfl, List.mem_singleton] at hc
      subst hc
      decide
  exact splitZone_append_timeText hp ht

/-- A valid date is not taken for a zone: its text ends `-DD`. -/
theorem splitZone_dateText {d : CivilDate} (hd : d.isValid = true) :
    splitZone d.text = .unzoned d.text := by
  obtain ⟨-, -, -, -, -, hday⟩ := CivilDate.isValid_iff.mp hd
  have hdays := daysInMonth_le_31 d.year d.month
  obtain ⟨d1, d2, hdd⟩ := List.length_eq_two.mp
    (length_padded (by norm_num) (show d.day < 10 ^ 2 by omega))
  have hd2 : d2.isDigit = true := allDigits_padded 2 _ d2 (by rw [hdd]; simp)
  have htail : d.text.toList =
      ((yearText d.year).toList ++ '-' :: (padded 2 d.month).toList) ++ ['-', d1, d2] := by
    rw [toList_dateText, hdd]
    simp
  exact splitZone_eq_unzoned_of_tail3 (ascii_dateText d) htail (by decide) hd2

end Printed

section Parsers

theorem readPattern_nano_lt {pattern : List PatternItem} {t : String} {f : ReadFields}
    (h : readPattern pattern t = some f) : ∀ v ∈ f.nano, v < 10 ^ 9 :=
  readPrefix_nano_lt (readPattern_of_readPrefix h) (fun _ hv => by cases hv)

theorem ReadFields.isValid_of_date? {f : ReadFields} {d : CivilDate} (h : f.date? = some d) :
    d.isValid = true := by
  simp only [ReadFields.date?, Option.bind_eq_bind, Option.bind_eq_some_iff] at h
  obtain ⟨y, -, m, -, day, -, h⟩ := h
  split_ifs at h with hvalid
  cases h
  exact hvalid

namespace DateTime

/-- The local date and time of a dateTime text, which must contain `T`. -/
def readLocal? (t : String) : Option LocalDateTime := do
  if !t.contains 'T' then none
  let fields ← readPattern dateTimePattern t
  some ⟨← fields.date?, ← fields.time?⟩

theorem parse?_eq : parse? = zonedParse readLocal? ofLocal? := by
  funext s
  simp only [parse?, zonedParse, readLocal?]
  cases splitZone s with
  | invalid => rfl
  | unzoned t => by_cases hT : t.contains 'T' <;> simp [hT, Option.bind_assoc]
  | zoned t o => by_cases hT : t.contains 'T' <;> simp [hT, Option.bind_assoc]

theorem readLocal?_eq_some {t : String} {l : LocalDateTime} :
    readLocal? t = some l ↔ 'T' ∈ t.toList ∧
      ∃ f, readPattern dateTimePattern t = some f ∧ f.date? = some l.date ∧ f.time? = some l.time := by
  by_cases hT : 'T' ∈ t.toList
  · simp only [readLocal?, String.contains_char_eq, hT, decide_true, Bool.not_true,
      Bool.false_eq_true, if_false, true_and, Option.bind_eq_bind, Option.bind_eq_some_iff,
      Option.some.injEq]
    constructor
    · rintro ⟨f, hf, d, hd, c, hc, rfl⟩
      exact ⟨f, hf, hd, hc⟩
    · rintro ⟨f, hf, hd, hc⟩
      exact ⟨f, hf, _, hd, _, hc, rfl⟩
  · simp [readLocal?, String.contains_char_eq, hT]

theorem ofLocal?_eq_some {l : LocalDateTime} {o : Option ZoneOffset} {v : DateTime} :
    ofLocal? l o = some v ↔
      (l.toInstant (offsetSeconds o)).inRange = true ∧ v = ⟨l.toInstant (offsetSeconds o), o⟩ := by
  simp only [ofLocal?]
  split_ifs with h
  · simp [h, eq_comm]
  · simp [h]

/-- A value built from a valid local date and time and a zone shows that date and time. -/
theorem wallClock_of_ofLocal? {l : LocalDateTime} (hd : l.date.isValid = true) (ht : l.time.InDay)
    {o : Option ZoneOffset} {v : DateTime} (h : ofLocal? l o = some v) :
    v.wallClock = l ∧ v.offset = o := by
  obtain ⟨-, rfl⟩ := ofLocal?_eq_some.mp h
  exact ⟨LocalDateTime.toLocal_toInstant hd ht _, rfl⟩

theorem readLocal?_valid {t : String} {l : LocalDateTime} (h : readLocal? t = some l) :
    l.date.isValid = true ∧ l.time.Valid := by
  obtain ⟨-, f, hf, hd, ht⟩ := readLocal?_eq_some.mp h
  exact ⟨ReadFields.isValid_of_date? hd, ReadFields.time?_valid ht (readPattern_nano_lt hf)⟩

theorem readLocal?_append {t : String} {l : LocalDateTime} (h : readLocal? t = some l)
    {rest : List Char} (hne : rest ≠ []) (hrest : Stops rest) :
    readLocal? (t ++ String.ofList rest) = none := by
  obtain ⟨-, f, hf, -⟩ := readLocal?_eq_some.mp h
  rw [Option.eq_none_iff_forall_ne_some]
  intro l' h'
  obtain ⟨-, f', hf', -⟩ := readLocal?_eq_some.mp h'
  rw [readPattern_append hf hne hrest] at hf'
  cases hf'

theorem readLocal?_text {l : LocalDateTime} (hd : l.date.isValid = true) (ht : l.time.Valid) :
    readLocal? l.text = some l := by
  refine readLocal?_eq_some.mpr ⟨by simp [toList_localText], _, readPattern_localText hd ht, ?_, ?_⟩
  · rw [ReadFields.date?_withTime, ReadFields.date?_withDate _ hd]
  · exact ReadFields.time?_withTime rfl ht

end DateTime

/-- A reader that binds what a pattern reads reads nothing more after a text it reads. -/
theorem bind_readPattern_append {γ : Type} {pattern : List PatternItem} {g : ReadFields → Option γ}
    {t : String} {x : γ} (h : (readPattern pattern t).bind g = some x) {rest : List Char}
    (hne : rest ≠ []) (hrest : Stops rest) : (readPattern pattern (t ++ String.ofList rest)).bind g = none := by
  obtain ⟨f, hf, -⟩ := Option.bind_eq_some_iff.mp h
  rw [readPattern_append hf hne hrest]
  rfl

namespace Date

/-- The date of a date text. -/
def readDate? (t : String) : Option CivilDate := (readPattern datePattern t).bind ReadFields.date?

theorem parse?_eq : parse? = zonedParse readDate? fun d o => some ⟨d, o⟩ := by
  funext s
  simp only [parse?, zonedParse, readDate?]
  cases splitZone s <;> simp [Option.bind_assoc]

theorem readDate?_text {d : CivilDate} (hd : d.isValid = true) : readDate? d.text = some d := by
  simp [readDate?, readPattern_dateText hd, ReadFields.date?_withDate _ hd]

end Date

namespace Time

/-- The time of day of a time text. -/
def readTime? (t : String) : Option ClockTime := (readPattern timePattern t).bind ReadFields.time?

theorem parse?_eq : parse? = zonedParse readTime? fun c o => some ⟨c, o⟩ := by
  funext s
  simp only [parse?, zonedParse, readTime?]
  cases splitZone s <;> simp [Option.bind_assoc]

theorem readTime?_valid {t : String} {c : ClockTime} (h : readTime? t = some c) : c.Valid := by
  obtain ⟨f, hf, hc⟩ := Option.bind_eq_some_iff.mp h
  exact ReadFields.time?_valid hc (readPattern_nano_lt hf)

theorem readTime?_text {c : ClockTime} (hc : c.Valid) : readTime? c.text = some c := by
  simp [readTime?, readPattern_timeText hc, ReadFields.time?_withTime (show ({} : ReadFields).nano = none from rfl) hc]

end Time

end Parsers

section Timestamp

theorem readTimestampZone_whole {cs rest : List Char} {offset : Int}
    (h : readTimestampZone cs = some (offset, rest)) : offset % 60 = 0 := by
  unfold readTimestampZone at h
  split_ifs at h
  · cases h
    rfl
  · split at h
    · cases h
      rfl
    · cases h
      rfl
    · -- a sign, hours and minutes: a whole number of minutes either way
      simp only [Option.bind_eq_bind] at h
      split at h
      · simp only [Option.bind_none, reduceCtorEq] at h
      simp only [Option.bind_eq_some_iff] at h
      obtain ⟨⟨hours, r1⟩, -, ⟨minutes, r2⟩, -, h⟩ := h
      split at h
      · simp only [Option.bind_none, reduceCtorEq] at h
      cases h
      split <;> omega
    · cases h

/-- A timestamp reads as a valid local date and time and a zone of whole minutes under a day. -/
theorem parseTimestamp?_spec {s : String} {v : DateTime} (h : DateTime.parseTimestamp? s = some v) :
    ∃ l offset, l.date.isValid = true ∧ l.time.Valid ∧ offset % 60 = 0 ∧ offset.natAbs < 86400 ∧
      DateTime.ofLocal? l (some ⟨offset⟩) = some v := by
  unfold DateTime.parseTimestamp? at h
  simp only [Option.bind_eq_bind, Option.bind_eq_some_iff] at h
  obtain ⟨⟨f1, r1⟩, h1, h⟩ := h
  rcases r1 with _ | ⟨c, r1⟩
  · simp only [Option.bind_none, reduceCtorEq] at h
  simp only at h
  split at h
  swap
  · simp only [Option.bind_none, reduceCtorEq] at h
  simp only [Option.bind_some, Option.bind_eq_some_iff] at h
  obtain ⟨⟨f2, r2⟩, h2, ⟨offset, r3⟩, h3, h⟩ := h
  split at h
  · simp only [Option.bind_none, reduceCtorEq] at h
  split at h
  · simp only [Option.bind_none, reduceCtorEq] at h
  rename_i hday
  simp only [Option.bind_eq_some_iff] at h
  obtain ⟨d, hd, t, ht, h⟩ := h
  -- the nanoseconds stay below a second through both patterns
  have hnano := readPrefix_nano_lt h2 (readPrefix_nano_lt h1 (fun _ hv => by cases hv))
  exact ⟨⟨d, t⟩, offset, ReadFields.isValid_of_date? hd, ReadFields.time?_valid ht hnano,
    readTimestampZone_whole h3, by omega, h⟩

end Timestamp

section Suffix

/-- The offset a zone suffix `sign a b : c d` names when its hour field `a b` and its minute field
`c d` are each read as an integer that may carry a sign of its own: at most 14 hours and 59
minutes, the total signed by the first character. -/
def SuffixOffset (sign a b c d : Char) (o : ZoneOffset) : Prop :=
  ∃ hours minutes : Int, IntegerNotation [a, b] hours ∧ IntegerNotation [c, d] minutes ∧
    hours ≤ 14 ∧ minutes ≤ 59 ∧
    o.seconds = if sign = '-' then -(hours * 3600 + minutes * 60) else hours * 3600 + minutes * 60

theorem ofParts?_eq_some_iff_suffixOffset {sign a b c d : Char} (hsign : sign = '+' ∨ sign = '-')
    {o : ZoneOffset} :
    ZoneOffset.ofParts? (sign == '-') [a, b, ':', c, d] = some o ↔ SuffixOffset sign a b c d o := by
  have hsigned : ∀ x : Int, x * (if (sign == '-') = true then -1 else 1) =
      if sign = '-' then -x else x := by
    intro x
    rcases hsign with rfl | rfl <;> simp
  rw [ZoneOffset.ofParts?_suffix]
  simp only [SuffixOffset, hsigned]

variable {α β : Type}

theorem zonedParse_append_suffix_eq_some {read : String → Option α}
    {build : α → Option ZoneOffset → Option β} {t : String} {x : α} (hread : read t = some x)
    (hclosed : ∀ rest, rest ≠ [] → Stops rest → read (t ++ String.ofList rest) = none)
    {sign a b c d : Char} (hsign : sign = '+' ∨ sign = '-') {w : β} :
    zonedParse read build (t ++ String.ofList [sign, a, b, ':', c, d]) = some w ↔
      ∃ o, SuffixOffset sign a b c d o ∧ build x (some o) = some w := by
  rw [zonedParse_append_suffix hread hclosed hsign, Option.bind_eq_some_iff]
  simp only [ofParts?_eq_some_iff_suffixOffset hsign]

/-- After a text each parser accepts without a zone, a suffix of a sign, two characters, a colon
and two characters is accepted exactly when its hour and minute fields read as integers, signs
inside them allowed, within 14 hours and 59 minutes; the value is then the one read before, at
that offset (a dateTime only when the shifted instant is in range). -/
theorem zoneSuffix_after_unzoned {L : String} {sign a b c d : Char}
    (hsign : sign = '+' ∨ sign = '-') :
    (∀ v, DateTime.parse? L = some v → v.offset = none → ∀ w,
      DateTime.parse? (L ++ String.ofList [sign, a, b, ':', c, d]) = some w ↔
        ∃ o, SuffixOffset sign a b c d o ∧ DateTime.ofLocal? v.wallClock (some o) = some w) ∧
    (∀ v, Date.parse? L = some v → v.offset = none → ∀ w,
      Date.parse? (L ++ String.ofList [sign, a, b, ':', c, d]) = some w ↔
        ∃ o, SuffixOffset sign a b c d o ∧ w = ⟨v.date, some o⟩) ∧
    (∀ v, Time.parse? L = some v → v.offset = none → ∀ w,
      Time.parse? (L ++ String.ofList [sign, a, b, ':', c, d]) = some w ↔
        ∃ o, SuffixOffset sign a b c d o ∧ w = ⟨v.time, some o⟩) := by
  refine ⟨?_, ?_, ?_⟩
  · intro v hv hnone w
    rw [DateTime.parse?_eq] at hv ⊢
    obtain ⟨l, hl, hb⟩ := zonedParse_unzoned DateTime.offset
      (fun _ _ _ h => by rw [(DateTime.ofLocal?_eq_some.mp h).2]) hv hnone
    obtain ⟨hdate, htime⟩ := DateTime.readLocal?_valid hl
    rw [(DateTime.wallClock_of_ofLocal? hdate htime.inDay hb).1]
    exact zonedParse_append_suffix_eq_some hl (fun _ hne hrest => DateTime.readLocal?_append hl hne hrest)
      hsign
  · intro v hv hnone w
    rw [Date.parse?_eq] at hv ⊢
    obtain ⟨x, hx, hb⟩ := zonedParse_unzoned Date.offset
      (fun _ _ _ h => by cases h; rfl) hv hnone
    cases hb
    rw [zonedParse_append_suffix_eq_some hx (fun _ hne hrest => bind_readPattern_append hx hne hrest)
      hsign]
    simp only [Option.some.injEq, eq_comm]
  · intro v hv hnone w
    rw [Time.parse?_eq] at hv ⊢
    obtain ⟨x, hx, hb⟩ := zonedParse_unzoned Time.offset
      (fun _ _ _ h => by cases h; rfl) hv hnone
    cases hb
    rw [zonedParse_append_suffix_eq_some hx (fun _ hne hrest => bind_readPattern_append hx hne hrest)
      hsign]
    simp only [Option.some.injEq, eq_comm]

/-- A sign inside the hour field is read as part of it: `+-9:00` is nine hours west. -/
theorem plus_minus_nine_reads_as_zone :
    (Date.parse? "2024-01-15+-9:00").map (fun v => (v.date, v.offset)) =
      some (⟨2024, 1, 15⟩, some ⟨-32400⟩) := by
  decide +kernel

/-- The date `2024-01-15`, read without a zone, takes the suffix `+-9:00` at the offset its
fields name. -/
theorem zoneSuffix_after_date :
    let v : Date := ⟨⟨2024, 1, 15⟩, none⟩
    ('+' = '+' ∨ '+' = '-') ∧ Date.parse? "2024-01-15" = some v ∧ v.offset = none ∧
      ∀ w, Date.parse? ("2024-01-15" ++ String.ofList ['+', '-', '9', ':', '0', '0']) = some w ↔
        ∃ o, SuffixOffset '+' '-' '9' '0' '0' o ∧ w = ⟨v.date, some o⟩ := by
  intro v
  have hv : Date.parse? "2024-01-15" = some v := by with_unfolding_all rfl
  exact ⟨Or.inl rfl, hv, rfl, (zoneSuffix_after_unzoned (Or.inl rfl)).2.1 v hv rfl⟩

end Suffix

section RoundTrip

/-- Reading back the text of a parsed dateTime: the value shows the date and time it was read
with, and its text reads back as the value itself, since its zone, split off a text, is in range. -/
theorem DateTime.parse?_text {s : String} {v : DateTime} (h : DateTime.parse? s = some v) :
    (∃ t f, splitZone s = ZoneSplit.ofOffset t v.offset ∧ readPattern dateTimePattern t = some f ∧
      f.date? = some v.wallClock.date ∧ f.time? = some v.wallClock.time) ∧
    DateTime.parse? v.text = some v := by
  rw [DateTime.parse?_eq] at h
  obtain ⟨t, o, l, hsplit, hl, hb, hin⟩ := zonedParse_eq_some_inRange h
  obtain ⟨hdate, htime⟩ := DateTime.readLocal?_valid hl
  obtain ⟨hwall, hoffset⟩ := DateTime.wallClock_of_ofLocal? hdate htime.inDay hb
  obtain ⟨-, f, hf, hd, ht⟩ := DateTime.readLocal?_eq_some.mp hl
  refine ⟨⟨t, f, hoffset ▸ hsplit, hf, hwall ▸ hd, hwall ▸ ht⟩, ?_⟩
  rw [DateTime.parse?_eq, DateTime.text, hwall, hoffset,
    zonedParse_append_offsetText (splitZone_localText htime) (DateTime.readLocal?_text hdate htime) hin]
  exact hb

theorem Date.parse?_text {s : String} {v : Date} (h : Date.parse? s = some v) :
    (∃ t f, splitZone s = ZoneSplit.ofOffset t v.offset ∧ readPattern datePattern t = some f ∧
      f.date? = some v.date) ∧
    Date.parse? v.text = some v := by
  rw [Date.parse?_eq] at h
  obtain ⟨t, o, x, hsplit, hx, hb, hin⟩ := zonedParse_eq_some_inRange h
  cases hb
  obtain ⟨f, hf, hd⟩ := Option.bind_eq_some_iff.mp hx
  have hvalid := ReadFields.isValid_of_date? hd
  refine ⟨⟨t, f, hsplit, hf, hd⟩, ?_⟩
  rw [Date.parse?_eq, Date.text,
    zonedParse_append_offsetText (splitZone_dateText hvalid) (Date.readDate?_text hvalid) hin]

theorem Time.parse?_text {s : String} {v : Time} (h : Time.parse? s = some v) :
    (∃ t f, splitZone s = ZoneSplit.ofOffset t v.offset ∧ readPattern timePattern t = some f ∧
      f.time? = some v.time) ∧
    Time.parse? v.text = some v := by
  rw [Time.parse?_eq] at h
  obtain ⟨t, o, x, hsplit, hx, hb, hin⟩ := zonedParse_eq_some_inRange h
  cases hb
  obtain ⟨f, hf, hc⟩ := Option.bind_eq_some_iff.mp hx
  have hvalid := Time.readTime?_valid hx
  refine ⟨⟨t, f, hsplit, hf, hc⟩, ?_⟩
  rw [Time.parse?_eq, Time.text,
    zonedParse_append_offsetText (splitZone_timeText hvalid) (Time.readTime?_text hvalid) hin]

/-- The current time fixed from a timestamp reads back from its text exactly when its zone is
under fifteen hours: the text writes the zone as `±HH:MM`, and the parser takes hours up to 14. -/
theorem DateTime.parse?_text_of_parseTimestamp? {s : String} {v : DateTime}
    (h : DateTime.parseTimestamp? s = some v) :
    DateTime.parse? v.text = some v ↔ (offsetSeconds v.offset).natAbs < 54000 := by
  obtain ⟨l, offset, hdate, htime, hwhole, -, hb⟩ := parseTimestamp?_spec h
  obtain ⟨hwall, hoffset⟩ := DateTime.wallClock_of_ofLocal? hdate htime.inDay hb
  rw [hoffset, show offsetSeconds (some ⟨offset⟩) = offset from rfl]
  constructor
  · intro hback
    rw [DateTime.parse?_eq] at hback
    obtain ⟨-, o, l', -, -, hb', hin⟩ := zonedParse_eq_some_inRange hback
    obtain ⟨-, rfl⟩ := DateTime.ofLocal?_eq_some.mp hb'
    have ho : o = some ⟨offset⟩ := hoffset
    rw [ho] at hin
    exact (hin _ rfl).natAbs_lt
  · intro hlt
    rw [DateTime.parse?_eq, DateTime.text, hwall, hoffset,
      zonedParse_append_offsetText (splitZone_localText htime) (DateTime.readLocal?_text hdate htime)
        (fun o ho => by cases ho; exact ⟨hwhole, hlt⟩)]
    exact hb

open Builtin in
/-- What YEAR, MONTH and DAY return for a term: the year, month and day of `d`, as integers. -/
def ShowsDate (t : Term) (d : CivilDate) : Prop :=
  DatePart.year.extract t = .ok (Term.integer d.year) ∧
    DatePart.month.extract t = .ok (Term.integer d.month) ∧
    DatePart.day.extract t = .ok (Term.integer d.day)

open Builtin in
/-- What HOURS, MINUTES and SECONDS return for a term: the hour and minute of `c` as integers,
and its seconds with their fraction as a decimal. -/
def ShowsClock (t : Term) (c : ClockTime) : Prop :=
  DatePart.hours.extract t = .ok (Term.integer c.hour) ∧
    DatePart.minutes.extract t = .ok (Term.integer c.minute) ∧
    ∃ d : Decimal, DatePart.seconds.extract t = .ok (.literal (Literal.decimal d)) ∧
      d.toRat = c.second + c.nano / 10 ^ 9

/-- The seconds component is the decimal of the seconds and their fraction. -/
theorem Builtin.DatePart.secondsValue_eq (second nano : Nat) :
    ∃ d : Decimal, Builtin.DatePart.secondsValue second nano = .literal (Literal.decimal d) ∧
      d.toRat = second + nano / 10 ^ 9 := by
  refine ⟨_, rfl, ?_⟩
  rw [Decimal.toRat_normalize]
  simp only [Decimal.toRat]
  push_cast
  field_simp
  ring

/-- A dateTime shows the date and time of its wall clock; the clock parts are not parts of a
date, so they fall through to the time of day. -/
theorem showsDateAndClock_of_dateTime {l : Literal} {v : DateTime} (h : l.value = .dateTime v) :
    ShowsDate (.literal l) v.wallClock.date ∧ ShowsClock (.literal l) v.wallClock.time := by
  obtain ⟨value, lexical, datatype, language⟩ := l
  cases h
  obtain ⟨d, hd, hval⟩ :=
    Builtin.DatePart.secondsValue_eq v.wallClock.time.second v.wallClock.time.nano
  refine ⟨⟨rfl, rfl, rfl⟩, rfl, rfl, d, ?_, hval⟩
  simp [Builtin.DatePart.extract, Builtin.DatePart.ofDate, Builtin.DatePart.ofClock, hd]

theorem showsDate_of_date {l : Literal} {v : Date} (h : l.value = .date v) :
    ShowsDate (.literal l) v.date := by
  obtain ⟨value, lexical, datatype, language⟩ := l
  cases h
  exact ⟨rfl, rfl, rfl⟩

theorem showsClock_of_time {l : Literal} {v : Time} (h : l.value = .time v) :
    ShowsClock (.literal l) v.time := by
  obtain ⟨value, lexical, datatype, language⟩ := l
  cases h
  obtain ⟨d, hd, hval⟩ := Builtin.DatePart.secondsValue_eq v.time.second v.time.nano
  refine ⟨rfl, rfl, d, ?_, hval⟩
  simp [Builtin.DatePart.extract, Builtin.DatePart.ofClock, hd]

/-- Parsed dates, times and dateTimes keep what their text writes, which YEAR, MONTH, DAY, HOURS,
MINUTES and SECONDS return, and their own texts read back as them; the current time fixed from a
timestamp does so exactly when its zone is under fifteen hours. -/
theorem temporal_texts_read_back :
    (∀ s v, DateTime.parse? s = some v →
      (∃ t f, splitZone s = ZoneSplit.ofOffset t v.offset ∧ readPattern dateTimePattern t = some f ∧
        f.date? = some v.wallClock.date ∧ f.time? = some v.wallClock.time) ∧
      (∀ l : Literal, l.value = .dateTime v →
        ShowsDate (.literal l) v.wallClock.date ∧ ShowsClock (.literal l) v.wallClock.time) ∧
      DateTime.parse? v.text = some v) ∧
    (∀ s v, Date.parse? s = some v →
      (∃ t f, splitZone s = ZoneSplit.ofOffset t v.offset ∧ readPattern datePattern t = some f ∧
        f.date? = some v.date) ∧
      (∀ l : Literal, l.value = .date v → ShowsDate (.literal l) v.date) ∧
      Date.parse? v.text = some v) ∧
    (∀ s v, Time.parse? s = some v →
      (∃ t f, splitZone s = ZoneSplit.ofOffset t v.offset ∧ readPattern timePattern t = some f ∧
        f.time? = some v.time) ∧
      (∀ l : Literal, l.value = .time v → ShowsClock (.literal l) v.time) ∧
      Time.parse? v.text = some v) ∧
    (∀ (c c' : EvaluatorConfig) (text : String) (v : DateTime), c.withNowText? text = some c' →
      c'.now = some v → (DateTime.parse? v.text = some v ↔ (offsetSeconds v.offset).natAbs < 54000)) := by
  refine ⟨fun _ _ h => ?_, fun _ _ h => ?_, fun _ _ h => ?_, ?_⟩
  · obtain ⟨hread, hback⟩ := DateTime.parse?_text h
    exact ⟨hread, fun _ hl => showsDateAndClock_of_dateTime hl, hback⟩
  · obtain ⟨hread, hback⟩ := Date.parse?_text h
    exact ⟨hread, fun _ hl => showsDate_of_date hl, hback⟩
  · obtain ⟨hread, hback⟩ := Time.parse?_text h
    exact ⟨hread, fun _ hl => showsClock_of_time hl, hback⟩
  · intro c c' text v hnow hv
    obtain ⟨now, hparse, rfl⟩ := Option.map_eq_some_iff.mp hnow
    cases hv
    exact DateTime.parse?_text_of_parseTimestamp? hparse

/-- The dateTime `2024-01-15T10:30:00.5+02:00` shows the date and time it is written with, which
its date parts return, and its text reads back as it. -/
theorem dateTime_parts_read_back :
    ∃ v : DateTime, DateTime.parse? "2024-01-15T10:30:00.5+02:00" = some v ∧
      v.wallClock.date = ⟨2024, 1, 15⟩ ∧ v.wallClock.time = ⟨10, 30, 0, 500000000⟩ ∧
      ShowsDate (.literal (Literal.dateTime v)) ⟨2024, 1, 15⟩ ∧
      ShowsClock (.literal (Literal.dateTime v)) ⟨10, 30, 0, 500000000⟩ ∧
      DateTime.parse? v.text = some v := by
  -- the kernel does not reduce `String.contains`, so the check for `T` is made apart
  have hT : "2024-01-15T10:30:00.5".contains 'T' = true := by simp
  have hsplit : splitZone "2024-01-15T10:30:00.5+02:00" =
      .zoned "2024-01-15T10:30:00.5" ⟨7200⟩ := by
    with_unfolding_all rfl
  have hwall : (DateTime.parse? "2024-01-15T10:30:00.5+02:00").map
      (fun v => (v.wallClock.date, v.wallClock.time)) =
        some (⟨2024, 1, 15⟩, ⟨10, 30, 0, 500000000⟩) := by
    rw [DateTime.parse?, hsplit]
    simp only [hT, Bool.not_true, Bool.false_eq_true, if_false]
    decide +kernel
  obtain ⟨v, hv, hparts⟩ := Option.map_eq_some_iff.mp hwall
  obtain ⟨hdate, htime⟩ := Prod.mk.inj hparts
  obtain ⟨-, hshows, hback⟩ := temporal_texts_read_back.1 _ v hv
  obtain ⟨hd, hc⟩ := hshows (Literal.dateTime v) rfl
  exact ⟨v, hv, hdate, htime, hdate ▸ hd, htime ▸ hc, hback⟩

/-- A current time fixed at twenty hours east is written with a zone the parser refuses. -/
theorem now_twenty_hours_east_does_not_read_back :
    (((({} : EvaluatorConfig).withNowText? "2024-01-01T00:00:00+20:00").bind
      EvaluatorConfig.now).map fun v => (DateTime.parse? v.text).isSome) = some false := by
  decide +kernel

end RoundTrip

end SparqlExpr.Temporal
