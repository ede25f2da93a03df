import Mathlib
import SparqlExpr.Proofs.TemporalText
import SparqlExpr.Builtin.Comparison

/-!
The order of temporal values against their positions in UTC.

A dateTime is ordered by its instant, which is the position in UTC of the wall clock it shows at
its offset (`DateTime.utcPosition`). A time of day is ordered by its time in UTC, wrapping
around midnight: the seconds since midnight less the offset, modulo a day, then the nanoseconds
(`Time.utcPosition`). The comparison shifts by the offset and falls back to the local time when
the shifted time cannot carry a leap second; parsed offsets are whole minutes and a parsed leap
second is second 59, so the shifted second stays 59 and the fallback is never taken
(`Time.utcTime_of_parse?`).

A date is ordered by its midnight in UTC, the local midnight less the offset
(`Date.midnightUtcSeconds`), falling back to the local midnight when the shifted midnight lies
outside the supported range. The shifted midnight is the same day or, for an offset east of
UTC, the day before (`CivilDate.previous`), and that day is out of range only for the first
supported date: there, at a positive offset, the fallback is taken and the date compares as if
it were in UTC (`Date.utcMidnight_of_parse?`, `earliest_date_east_compares_as_local`).

The main statement is `temporal_comparison_is_utc_order`.
-/

namespace SparqlExpr.Temporal

/-- Positions in UTC, compared by seconds and then by nanoseconds. -/
def comparePositions (p q : Int × Nat) : Ordering := (compare p.1 q.1).then (compare p.2 q.2)

theorem compare_toNat {x y : Int} (hx : 0 ≤ x) (hy : 0 ≤ y) :
    compare x.toNat y.toNat = compare x y := by
  obtain ⟨m, rfl⟩ := Int.eq_ofNat_of_zero_le hx
  obtain ⟨n, rfl⟩ := Int.eq_ofNat_of_zero_le hy
  rw [Int.toNat_natCast, Int.toNat_natCast, ← cmp_eq_compare, ← cmp_eq_compare]
  exact ((Nat.strictMono_cast : StrictMono (fun k : ℕ => (k : ℤ))).cmp_map_eq m n).symm

section Offsets

/-- A parsed offset is a whole number of minutes under fifteen hours; none counts as zero. -/
theorem offsetSeconds_of_inRange {o : Option ZoneOffset} (h : ∀ o' ∈ o, o'.InRange) :
    offsetSeconds o % 60 = 0 ∧ (offsetSeconds o).natAbs < 54000 := by
  cases o with
  | none => exact ⟨rfl, by decide⟩
  | some o =>
      have hin := h o rfl
      exact ⟨hin.whole_minutes, hin.natAbs_lt⟩

end Offsets

namespace CivilDate

/-- The first supported date. -/
def first : CivilDate := ⟨minYear, 1, 1⟩

/-- The day before a date. -/
def previous (d : CivilDate) : CivilDate :=
  if 1 < d.day then ⟨d.year, d.month, d.day - 1⟩
  else if 1 < d.month then ⟨d.year, d.month - 1, daysInMonth d.year (d.month - 1)⟩
  else ⟨d.year - 1, 12, 31⟩

/-- The first of a month after January is the day after the last day of the month before;
before March the year counted from March changes, so each month is checked. -/
theorem toDays_first_of_month (year : Int) {month : Nat} (h2 : 2 ≤ month) (h12 : month ≤ 12) :
    (⟨year, month, 1⟩ : CivilDate).toDays =
      (⟨year, month - 1, daysInMonth year (month - 1)⟩ : CivilDate).toDays + 1 := by
  interval_cases month <;>
    simp [toDays_eq, marchYear, marchMonth, monthStart, daysInMonth, yearStart, isLeapYear_iff] <;>
    omega

/-- The day before a date has the day number before it. -/
theorem toDays_previous {d : CivilDate} (h : d.isValid = true) :
    d.previous.toDays = d.toDays - 1 := by
  obtain ⟨-, -, hm1, hm12, hd1, hdm⟩ := isValid_iff.mp h
  obtain ⟨year, month, day⟩ := d
  simp only at hm1 hm12 hd1 hdm
  unfold previous
  dsimp only
  split_ifs with hday hmonth
  · -- a day of the same month
    simp only [toDays_eq, marchYear, marchMonth]
    omega
  · -- the last day of the month before
    obtain rfl : day = 1 := by omega
    rw [toDays_first_of_month year hmonth hm12]
    omega
  · -- the last day of the year before
    obtain rfl : day = 1 := by omega
    obtain rfl : month = 1 := by omega
    simp [toDays_eq, marchYear, marchMonth, monthStart, yearStart]
    omega

/-- Every supported date but the first has a supported day before it. -/
theorem isValid_previous {d : CivilDate} (h : d.isValid = true) (hfirst : d ≠ first) :
    d.previous.isValid = true := by
  obtain ⟨hmin, hmax, hm1, hm12, hd1, hdm⟩ := isValid_iff.mp h
  obtain ⟨year, month, day⟩ := d
  simp only at hmin hmax hm1 hm12 hd1 hdm
  have h28 : ∀ y m, 28 ≤ daysInMonth y m := by
    intro y m
    unfold daysInMonth
    split_ifs <;> omega
  unfold previous
  dsimp only
  split_ifs with hday hmonth
  · rw [isValid_iff]
    dsimp only
    omega
  · have := h28 year (month - 1)
    rw [isValid_iff]
    dsimp only
    omega
  · -- the first of January of a year after the first one
    have hyear : year ≠ minYear := fun hy => hfirst (by simp only [first, mk.injEq]; omega)
    have hdecember : daysInMonth (year - 1) 12 = 31 := rfl
    rw [isValid_iff]
    dsimp only
    rw [hdecember]
    omega

/-- The date of the day number before a supported date other than the first is the day
before it. -/
theorem ofDays_pred {d : CivilDate} (h : d.isValid = true) (hfirst : d ≠ first) :
    ofDays (d.toDays - 1) = d.previous := by
  rw [← toDays_previous h, ofDays_toDays (isValid_previous h hfirst)]

/-- The day before the first supported date is in the year before it. -/
theorem ofDays_pred_first : (ofDays (first.toDays - 1)).year = minYear - 1 := by
  decide

end CivilDate

namespace Date

/-- Seconds since the epoch of the UTC instant of the date's local midnight: the midnight less
the offset, no offset read as UTC. -/
def midnightUtcSeconds (d : Date) : Int := d.date.toDays * 86400 - offsetSeconds d.offset

/-- The date a UTC instant falls on is supported exactly when the shifted midnight of a
supported date falls on a supported date: always but on the first date at an offset east of
UTC. -/
theorem inRange_midnightUtcSeconds {d : Date} (hd : d.date.isValid = true)
    (ho : (offsetSeconds d.offset).natAbs < 86400) :
    (Instant.mk d.midnightUtcSeconds 0).inRange = true ↔
      ¬(d.date = CivilDate.first ∧ 0 < offsetSeconds d.offset) := by
  obtain ⟨hmin, hmax, -⟩ := CivilDate.isValid_iff.mp hd
  simp only [Instant.inRange, Instant.toLocal, midnightUtcSeconds, add_zero, Bool.and_eq_true,
    decide_eq_true_eq]
  by_cases hpos : 0 < offsetSeconds d.offset
  · -- east of UTC the shifted midnight falls on the day before
    have hday : (d.date.toDays * 86400 - offsetSeconds d.offset) / 86400 = d.date.toDays - 1 := by
      omega
    rw [hday]
    by_cases hfirst : d.date = CivilDate.first
    · have hyear := CivilDate.ofDays_pred_first
      rw [← hfirst] at hyear
      simp only [hfirst, hpos, and_self, not_true_eq_false, iff_false, not_and, not_le]
      intro hle
      rw [← hfirst, hyear] at *
      omega
    · rw [CivilDate.ofDays_pred hd hfirst]
      obtain ⟨hmin', hmax', -⟩ := CivilDate.isValid_iff.mp (CivilDate.isValid_previous hd hfirst)
      simp only [hfirst, false_and, not_false_eq_true, iff_true]
      exact ⟨hmin', hmax'⟩
  · -- at UTC or west of it the shifted midnight falls on the same day
    have hday : (d.date.toDays * 86400 - offsetSeconds d.offset) / 86400 = d.date.toDays := by
      omega
    rw [hday, CivilDate.ofDays_toDays hd]
    simp only [hpos, and_false, not_false_eq_true, iff_true]
    exact ⟨hmin, hmax⟩

/-- The midnight a date is ordered by: its midnight in UTC, except for the first supported date
at an offset east of UTC, which is ordered by its local midnight. -/
theorem utcMidnight_eq {d : Date} (hd : d.date.isValid = true)
    (ho : (offsetSeconds d.offset).natAbs < 86400) :
    d.utcMidnight = if d.date = CivilDate.first ∧ 0 < offsetSeconds d.offset
      then d.date.toDays * 86400 else d.midnightUtcSeconds := by
  have hrange := inRange_midnightUtcSeconds hd ho
  unfold utcMidnight
  dsimp only
  split_ifs with hin hedge hedge
  · exact absurd hedge (hrange.mp hin)
  · rfl
  · rfl
  · exact absurd (hrange.mpr hedge) hin

/-- A parsed date is supported and carries a parsed offset. -/
theorem valid_of_parse? {s : String} {d : Date} (h : parse? s = some d) :
    d.date.isValid = true ∧ ∀ o ∈ d.offset, o.InRange := by
  rw [parse?_eq] at h
  obtain ⟨t, o, x, -, hx, hv, hin⟩ := zonedParse_eq_some_inRange h
  cases hv
  obtain ⟨f, -, hf⟩ := Option.bind_eq_some_iff.mp hx
  exact ⟨ReadFields.isValid_of_date? hf, hin⟩

/-- The midnight a parsed date is ordered by is its midnight in UTC exactly when it is not the
first supported date at an offset east of UTC. -/
theorem utcMidnight_of_parse? {s : String} {d : Date} (h : parse? s = some d) :
    d.utcMidnight = d.midnightUtcSeconds ↔
      ¬(d.date = CivilDate.first ∧ 0 < offsetSeconds d.offset) := by
  obtain ⟨hd, hin⟩ := valid_of_parse? h
  have ho := (offsetSeconds_of_inRange hin).2
  rw [utcMidnight_eq hd (by omega)]
  split_ifs with hedge
  · -- the local midnight differs from the shifted one by the positive offset
    rw [iff_false_intro (not_not.mpr hedge), iff_false, midnightUtcSeconds]
    have hpos := hedge.2
    omega
  · exact iff_of_true rfl hedge

end Date

namespace Time

/-- The time of day in UTC, wrapping around midnight, and the nanoseconds: seconds since midnight
less the offset, modulo a day, no offset read as UTC. -/
def utcPosition (t : Time) : Int × Nat :=
  (((t.time.secondOfDay : Int) - offsetSeconds t.offset) % 86400, t.time.nano)

theorem utcPosition_fst_bounds (t : Time) : 0 ≤ t.utcPosition.1 ∧ t.utcPosition.1 < 86400 := by
  simp only [utcPosition]
  omega

/-- Shifting a valid time of day by whole minutes never needs the fallback: the shifted time
is the time in UTC, a leap second staying in second 59. -/
theorem utcTime_of_valid {t : Time} (hv : t.time.Valid) (hmin : offsetSeconds t.offset % 60 = 0) :
    t.utcTime = ClockTime.ofSecondOfDay t.utcPosition.1.toNat t.time.nano := by
  have hday := hv.inDay.secondOfDay_lt
  unfold utcTime
  cases ho : t.offset with
  | none =>
      -- no offset: the position is the time of day itself
      have hpos : t.utcPosition.1.toNat = t.time.secondOfDay := by
        simp only [utcPosition, ho, offsetSeconds, Option.map_none, Option.getD_none, sub_zero]
        omega
      rw [hpos, ClockTime.ofSecondOfDay_secondOfDay hv.inDay]
  | some o =>
      have hmin' : o.seconds % 60 = 0 := by simpa [offsetSeconds, ho] using hmin
      have hleap : t.time.nano < 1000000000 ∨
          ((t.time.secondOfDay : Int) - o.seconds) % 86400 % 60 = 59 := by
        by_cases hnano : t.time.nano < 1000000000
        · exact Or.inl hnano
        · -- a leap second is second 59, and a whole number of minutes keeps it there
          have hsecond := hv.leap (by omega)
          right
          simp only [ClockTime.secondOfDay, hsecond]
          omega
      have hcheck : (t.time.nano < 2000000000 &&
          (t.time.nano < 1000000000 ||
            ((t.time.secondOfDay : Int) - o.seconds) % 86400 % 60 == 59)) = true := by
        simp only [Bool.and_eq_true, Bool.or_eq_true, decide_eq_true_eq, beq_iff_eq]
        exact ⟨hv.nano_lt, hleap⟩
      simp only [hcheck, if_true, utcPosition, ho, offsetSeconds, Option.map_some,
        Option.getD_some]

/-- A parsed time of day is valid and carries a parsed offset. -/
theorem valid_of_parse? {s : String} {t : Time} (h : parse? s = some t) :
    t.time.Valid ∧ ∀ o ∈ t.offset, o.InRange := by
  rw [parse?_eq] at h
  obtain ⟨u, o, x, -, hx, hv, hin⟩ := zonedParse_eq_some_inRange h
  cases hv
  exact ⟨readTime?_valid hx, hin⟩

theorem utcTime_of_parse? {s : String} {t : Time} (h : parse? s = some t) :
    t.utcTime = ClockTime.ofSecondOfDay t.utcPosition.1.toNat t.time.nano := by
  obtain ⟨hv, hin⟩ := valid_of_parse? h
  exact utcTime_of_valid hv (offsetSeconds_of_inRange hin).1

/-- Parsed times of day are ordered by their positions in UTC. -/
theorem compare_of_parse? {s s' : String} {a b : Time} (ha : parse? s = some a)
    (hb : parse? s' = some b) : a.compare b = comparePositions a.utcPosition b.utcPosition := by
  have hpa := utcPosition_fst_bounds a
  have hpb := utcPosition_fst_bounds b
  rw [Time.compare, utcTime_of_parse? ha, utcTime_of_parse? hb, ClockTime.compare,
    ClockTime.secondOfDay_ofSecondOfDay, ClockTime.secondOfDay_ofSecondOfDay,
    compare_toNat hpa.1 hpb.1]
  rfl

end Time

namespace DateTime

/-- The position in UTC of the wall clock a dateTime shows at its offset: seconds since the
epoch and nanoseconds. -/
def utcPosition (v : DateTime) : Int × Nat :=
  (v.wallClock.date.toDays * 86400 + v.wallClock.time.secondOfDay - offsetSeconds v.offset,
    v.wallClock.time.nano)

/-- The instant of a dateTime is the position in UTC of the wall clock it shows. -/
theorem utcPosition_eq (v : DateTime) : v.utcPosition = (v.instant.seconds, v.instant.nano) := by
  have hclock : v.wallClock.toInstant (offsetSeconds v.offset) = v.instant :=
    Instant.toInstant_toLocal v.instant (offsetSeconds v.offset)
  calc v.utcPosition
      = ((v.wallClock.toInstant (offsetSeconds v.offset)).seconds,
          (v.wallClock.toInstant (offsetSeconds v.offset)).nano) := rfl
    _ = (v.instant.seconds, v.instant.nano) := by rw [hclock]

/-- DateTimes are ordered by the positions in UTC of their wall clocks. -/
theorem compare_eq (a b : DateTime) : a.compare b = comparePositions a.utcPosition b.utcPosition := by
  rw [utcPosition_eq, utcPosition_eq]
  rfl

end DateTime

section Terms

variable {la lb : Literal}

theorem valueCompare_dateTime {a b : DateTime} (ha : la.value = .dateTime a)
    (hb : lb.value = .dateTime b) :
    Term.valueCompare (.literal la) (.literal lb) = some (a.compare b) := by
  simp [Term.valueCompare, ha, hb]

theorem valueCompare_date {a b : Date} (ha : la.value = .date a) (hb : lb.value = .date b) :
    Term.valueCompare (.literal la) (.literal lb) = some (a.compare b) := by
  simp [Term.valueCompare, ha, hb]

theorem valueCompare_time {a b : Time} (ha : la.value = .time a) (hb : lb.value = .time b) :
    Term.valueCompare (.literal la) (.literal lb) = some (a.compare b) := by
  simp [Term.valueCompare, ha, hb]

/-- Term order of two literals with comparable values is the order of their values. -/
theorem termOrder_of_valueCompare {o : Ordering}
    (h : Term.valueCompare (.literal la) (.literal lb) = some o) :
    Term.termOrder (.literal la) (.literal lb) = o := by
  simp [Term.termOrder, h, Term.kindRank]

end Terms

/-- The comparison behind `=`, `!=`, `<`, `<=`, `>`, `>=`, MIN and MAX orders temporal values by
their positions in UTC. DateTimes are ordered by the positions of their wall clocks at their
offsets. Parsed times of day are shifted to UTC without the fallback and ordered by their
positions. A parsed date is ordered by its midnight in UTC exactly when it is not the first
supported date at an offset east of UTC, and two such dates are ordered by their midnights in
UTC. -/
theorem temporal_comparison_is_utc_order (s t : String) (la lb : Literal) :
    (∀ a b : DateTime, la.value = .dateTime a → lb.value = .dateTime b →
      Term.valueCompare (.literal la) (.literal lb) =
          some (comparePositions a.utcPosition b.utcPosition) ∧
        Term.termOrder (.literal la) (.literal lb) =
          comparePositions a.utcPosition b.utcPosition) ∧
    (∀ a b : Time, Time.parse? s = some a → Time.parse? t = some b →
      la.value = .time a → lb.value = .time b →
      a.utcTime = ClockTime.ofSecondOfDay a.utcPosition.1.toNat a.time.nano ∧
        Term.valueCompare (.literal la) (.literal lb) =
          some (comparePositions a.utcPosition b.utcPosition) ∧
        Term.termOrder (.literal la) (.literal lb) =
          comparePositions a.utcPosition b.utcPosition) ∧
    (∀ a b : Date, Date.parse? s = some a → Date.parse? t = some b →
      la.value = .date a → lb.value = .date b →
      (a.utcMidnight = a.midnightUtcSeconds ↔
        ¬(a.date = CivilDate.first ∧ 0 < offsetSeconds a.offset)) ∧
      (¬(a.date = CivilDate.first ∧ 0 < offsetSeconds a.offset) →
        ¬(b.date = CivilDate.first ∧ 0 < offsetSeconds b.offset) →
        Term.valueCompare (.literal la) (.literal lb) =
            some (compare a.midnightUtcSeconds b.midnightUtcSeconds) ∧
          Term.termOrder (.literal la) (.literal lb) =
            compare a.midnightUtcSeconds b.midnightUtcSeconds)) := by
  refine ⟨fun a b ha hb => ?_, fun a b hsa hsb ha hb => ?_, fun a b hsa hsb ha hb => ?_⟩
  · have hcompare := valueCompare_dateTime ha hb
    rw [DateTime.compare_eq] at hcompare
    exact ⟨hcompare, termOrder_of_valueCompare hcompare⟩
  · have hcompare := valueCompare_time ha hb
    rw [Time.compare_of_parse? hsa hsb] at hcompare
    exact ⟨Time.utcTime_of_parse? hsa, hcompare, termOrder_of_valueCompare hcompare⟩
  · refine ⟨Date.utcMidnight_of_parse? hsa, fun hedgeA hedgeB => ?_⟩
    have hcompare := valueCompare_date ha hb
    rw [Date.compare, (Date.utcMidnight_of_parse? hsa).mpr hedgeA,
      (Date.utcMidnight_of_parse? hsb).mpr hedgeB] at hcompare
    exact ⟨hcompare, termOrder_of_valueCompare hcompare⟩

/-- Dates and times read from text at different offsets compare as their positions in UTC:
`2024-01-15+14:00` against `2024-01-15Z`, and `10:00:00+02:00` against `09:00:00Z`. -/
theorem dates_and_times_read_from_text_compare_in_utc :
    let a : Date := ⟨⟨2024, 1, 15⟩, some ⟨50400⟩⟩
    let b : Date := ⟨⟨2024, 1, 15⟩, some ZoneOffset.utc⟩
    let p : Time := ⟨⟨10, 0, 0, 0⟩, some ⟨7200⟩⟩
    let q : Time := ⟨⟨9, 0, 0, 0⟩, some ZoneOffset.utc⟩
    let literal := fun (value : LiteralValue) (datatype : String) =>
      Term.literal ⟨value, none, datatype, none⟩
    Date.parse? "2024-01-15+14:00" = some a ∧ Date.parse? "2024-01-15Z" = some b ∧
      a.utcMidnight = a.midnightUtcSeconds ∧
      Term.termOrder (literal (.date a) Vocabulary.xsdDate) (literal (.date b) Vocabulary.xsdDate) =
        compare a.midnightUtcSeconds b.midnightUtcSeconds ∧
      Time.parse? "10:00:00+02:00" = some p ∧ Time.parse? "09:00:00Z" = some q ∧
      Term.termOrder (literal (.time p) Vocabulary.xsdTime) (literal (.time q) Vocabulary.xsdTime) =
        comparePositions p.utcPosition q.utcPosition := by
  intro a b p q literal
  have ha : Date.parse? "2024-01-15+14:00" = some a := by with_unfolding_all rfl
  have hb : Date.parse? "2024-01-15Z" = some b := by with_unfolding_all rfl
  have hp : Time.parse? "10:00:00+02:00" = some p := by with_unfolding_all rfl
  have hq : Time.parse? "09:00:00Z" = some q := by with_unfolding_all rfl
  have hedgeA : ¬(a.date = CivilDate.first ∧ 0 < offsetSeconds a.offset) := by decide
  have hedgeB : ¬(b.date = CivilDate.first ∧ 0 < offsetSeconds b.offset) := by decide
  obtain ⟨hmidnight, hdates⟩ := (temporal_comparison_is_utc_order "2024-01-15+14:00" "2024-01-15Z"
    ⟨.date a, none, Vocabulary.xsdDate, none⟩ ⟨.date b, none, Vocabulary.xsdDate, none⟩).2.2
    a b ha hb rfl rfl
  obtain ⟨-, -, htimes⟩ := (temporal_comparison_is_utc_order "10:00:00+02:00" "09:00:00Z"
    ⟨.time p, none, Vocabulary.xsdTime, none⟩ ⟨.time q, none, Vocabulary.xsdTime, none⟩).2.1
    p q hp hq rfl rfl
  exact ⟨ha, hb, hmidnight.mpr hedgeA, (hdates hedgeA hedgeB).2, hp, hq, htimes⟩

/-- The first supported date at fourteen hours east begins fourteen hours before the same date
in UTC, yet the two compare equal: its shifted midnight is out of range, so its local midnight
is used. -/
theorem earliest_date_east_compares_as_local :
    ((Date.parse? "-262143-01-01+14:00").bind fun a => (Date.parse? "-262143-01-01Z").map fun b =>
      (a.compare b, decide (a.midnightUtcSeconds < b.midnightUtcSeconds))) = some (.eq, true) := by
  decide +kernel

end SparqlExpr.Temporal
