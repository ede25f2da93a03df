import Mathlib
import SparqlExpr.Temporal.Moment

/-!
Day numbers of the proleptic Gregorian calendar.

`CivilDate.toDays` counts days in eras of 400 years, 146097 days, each starting on the first
of March of a year divisible by 400, with years counted from March so that a leap day ends its
year. `CivilDate.ofDays` inverts it: the year of the era comes from the day of the era by one
formula with four divisions (`yearOfEra`), exact because an era splits into four centuries of
36524 days, the last a day longer, a century into four-year blocks of 1461 days and a block
into years of 365 days, the last a day longer (`yearOfEra_parts`).

The main statements are `ofDays_toDays` (every valid date is the date of its day number) and
`toDays_ofDays` (every day number is the number of its date), and for local date-times at a
fixed offset, `toLocal_toInstant` and `toInstant_toLocal`.
-/

namespace SparqlExpr.Temporal

section Era

/-- The day of the era on which year `yoe` of the era starts. -/
def yearStart (yoe : Int) : Int := 365 * yoe + yoe / 4 - yoe / 100

/-- The year of the era of a day of the era. -/
def yearOfEra (doe : Int) : Int := (doe - doe / 1460 + doe / 36524 - doe / 146096) / 365

/-- The days of year `yoe` of the era: a leap day ends it when the next calendar year is a leap
year. -/
def yearLength (yoe : Int) : Int := if isLeapYear (yoe + 1) then 366 else 365

/-- The year of the era from a day of the era split into centuries, four-year blocks, years and
a day of the year; the leap day only in the last year of a block, and of the last block only in
the last century. -/
theorem yearOfEra_parts {c q r doy : Int} (hc : 0 ≤ c ∧ c ≤ 3) (hq : 0 ≤ q ∧ q ≤ 24)
    (hr : 0 ≤ r ∧ r ≤ 3) (hdoy : 0 ≤ doy ∧ doy ≤ 365)
    (hleap : doy = 365 → r = 3 ∧ (q < 24 ∨ c = 3)) :
    yearOfEra (36524 * c + 1461 * q + 365 * r + doy) = 100 * c + 4 * q + r := by
  unfold yearOfEra
  generalize hdoe : 36524 * c + 1461 * q + 365 * r + doy = doe
  -- each division of the day of the era, while the context is small
  have h146096 : doe / 146096 = if doy = 365 ∧ q = 24 ∧ c = 3 then 1 else 0 := by
    split <;> omega
  have h36524 : doe / 36524 = c + if doy = 365 ∧ q = 24 then 1 else 0 := by
    split <;> omega
  have h1460 : doe / 1460 = 25 * c + q + if 1460 ≤ 24 * c + q + 365 * r + doy then 1 else 0 := by
    split <;> omega
  rw [h146096, h36524, h1460]
  split_ifs <;> omega

theorem yearStart_parts (c q r : Int) (hq : 0 ≤ q ∧ q ≤ 24) (hr : 0 ≤ r ∧ r ≤ 3) :
    yearStart (100 * c + 4 * q + r) = 36524 * c + 1461 * q + 365 * r := by
  unfold yearStart
  have h4 : (100 * c + 4 * q + r) / 4 = 25 * c + q := by omega
  have h100 : (100 * c + 4 * q + r) / 100 = c := by omega
  rw [h4, h100]
  ring

theorem isLeapYear_iff (y : Int) :
    isLeapYear y = true ↔ y % 4 = 0 ∧ (y % 100 ≠ 0 ∨ y % 400 = 0) := by
  simp only [isLeapYear, Bool.or_eq_true, Bool.and_eq_true, beq_iff_eq, bne_iff_ne, ne_eq]
  omega

/-- Leap years repeat every 400 years. -/
theorem isLeapYear_add_mul (y k : Int) : isLeapYear (y + 400 * k) = isLeapYear y := by
  rw [Bool.eq_iff_iff, isLeapYear_iff, isLeapYear_iff]
  omega

/-- The parts of a year of the era: its century, its four-year block and its year in the block,
with a leap day exactly in the last year of a block, and of the last block only in the last
century. -/
theorem yearParts {yoe : Int} (hyoe : 0 ≤ yoe ∧ yoe < 400) :
    ∃ c q r, yoe = 100 * c + 4 * q + r ∧ (0 ≤ c ∧ c ≤ 3) ∧ (0 ≤ q ∧ q ≤ 24) ∧ (0 ≤ r ∧ r ≤ 3) ∧
      (isLeapYear (yoe + 1) = true ↔ r = 3 ∧ (q < 24 ∨ c = 3)) := by
  refine ⟨yoe / 100, yoe % 100 / 4, yoe % 4, by omega, by omega, by omega, by omega, ?_⟩
  rw [isLeapYear_iff]
  omega

/-- A day of year `yoe` of the era has year of the era `yoe`. -/
theorem yearOfEra_yearStart_add {yoe doy : Int} (hyoe : 0 ≤ yoe ∧ yoe < 400)
    (hdoy : 0 ≤ doy ∧ doy < yearLength yoe) : yearOfEra (yearStart yoe + doy) = yoe := by
  obtain ⟨c, q, r, rfl, hc, hq, hr, hleap⟩ := yearParts hyoe
  have hlength : yearLength (100 * c + 4 * q + r) ≤ 366 := by
    unfold yearLength
    split <;> omega
  have hleapDay : doy = 365 → r = 3 ∧ (q < 24 ∨ c = 3) := by
    intro h365
    apply hleap.mp
    by_contra hnot
    have hcommon : yearLength (100 * c + 4 * q + r) = 365 := by simp [yearLength, hnot]
    omega
  rw [yearStart_parts c q r hq hr]
  exact yearOfEra_parts hc hq hr ⟨hdoy.1, by omega⟩ hleapDay

/-- Every day of the era is a day of one of its years. -/
theorem exists_yearStart_add {doe : Int} (hdoe : 0 ≤ doe ∧ doe < 146097) :
    ∃ yoe doy, (0 ≤ yoe ∧ yoe < 400) ∧ (0 ≤ doy ∧ doy < yearLength yoe) ∧
      doe = yearStart yoe + doy := by
  -- complete centuries (at most three), then four-year blocks, then years (at most three)
  obtain ⟨c, hc, hcentury⟩ : ∃ c, (0 ≤ c ∧ c ≤ 3) ∧ 0 ≤ doe - 36524 * c ∧
      (doe - 36524 * c < 36524 ∨ c = 3) :=
    ⟨min (doe / 36524) 3, by omega, by omega, by omega⟩
  obtain ⟨q, hq, hblock⟩ : ∃ q, (0 ≤ q ∧ q ≤ 24) ∧ 0 ≤ doe - 36524 * c - 1461 * q ∧
      doe - 36524 * c - 1461 * q < 1461 :=
    ⟨(doe - 36524 * c) / 1461, by omega, by omega, by omega⟩
  obtain ⟨r, hr, hyear⟩ : ∃ r, (0 ≤ r ∧ r ≤ 3) ∧ 0 ≤ doe - 36524 * c - 1461 * q - 365 * r ∧
      (doe - 36524 * c - 1461 * q - 365 * r < 365 ∨ r = 3) :=
    ⟨min ((doe - 36524 * c - 1461 * q) / 365) 3, by omega, by omega, by omega⟩
  refine ⟨100 * c + 4 * q + r, doe - 36524 * c - 1461 * q - 365 * r, by omega, ⟨hyear.1, ?_⟩, ?_⟩
  · by_cases hleap : isLeapYear (100 * c + 4 * q + r + 1) = true
    · simp only [yearLength, hleap, if_true]
      omega
    · have hcommon : ¬(r = 3 ∧ (q < 24 ∨ c = 3)) := by
        rw [isLeapYear_iff] at hleap
        omega
      simp only [yearLength, hleap, Bool.false_eq_true, if_false]
      omega
  · rw [yearStart_parts c q r hq hr]
    ring

/-- The days of the years of an era fill it: a day of one of them is a day of the era. -/
theorem yearStart_add_bounds {yoe doy : Int} (hyoe : 0 ≤ yoe ∧ yoe < 400)
    (hdoy : 0 ≤ doy ∧ doy < yearLength yoe) :
    0 ≤ yearStart yoe + doy ∧ yearStart yoe + doy < 146097 := by
  obtain ⟨c, q, r, rfl, hc, hq, hr, hleap⟩ := yearParts hyoe
  rw [yearStart_parts c q r hq hr]
  by_cases hleapYear : isLeapYear (100 * c + 4 * q + r + 1) = true
  · have hlength : yearLength (100 * c + 4 * q + r) = 366 := by simp [yearLength, hleapYear]
    have := hleap.mp hleapYear
    omega
  · have hlength : yearLength (100 * c + 4 * q + r) = 365 := by simp [yearLength, hleapYear]
    omega

end Era

section Month

/-! Months counted from March, so that February ends the year: month `mp` starts on day
`monthStart mp` of the year, and the months have 31, 30, 31, 30, 31, 31, 30, 31, 30, 31, 31
and then 28 or 29 days. -/

/-- The day of the year, counted from March, on which month `mp` starts. -/
def monthStart (mp : Int) : Int := (153 * mp + 2) / 5

/-- A day of month `mp` lies in month `mp`. -/
theorem monthOf_monthStart_add {mp day : Int}
    (hday : 1 ≤ day ∧ day ≤ monthStart (mp + 1) - monthStart mp) :
    (5 * (monthStart mp + day - 1) + 2) / 153 = mp := by
  unfold monthStart at *
  omega

/-- Every day of the year lies in a month, which starts on or before it. -/
theorem monthStart_le_of_dayOfYear {doy : Int} (hdoy : 0 ≤ doy ∧ doy ≤ 365) :
    (0 ≤ (5 * doy + 2) / 153 ∧ (5 * doy + 2) / 153 ≤ 11) ∧
      monthStart ((5 * doy + 2) / 153) ≤ doy ∧ doy < monthStart ((5 * doy + 2) / 153 + 1) := by
  unfold monthStart
  omega

end Month

namespace CivilDate

/-- The year that `toDays` counts from: January and February count with the year before. -/
def marchYear (d : CivilDate) : Int := if d.month ≤ 2 then d.year - 1 else d.year

/-- A month counted from March. -/
def marchMonth (m : Nat) : Int := if m > 2 then (m : Int) - 3 else (m : Int) + 9

theorem toDays_eq (d : CivilDate) :
    d.toDays = d.marchYear / 400 * 146097 +
      (yearStart (d.marchYear - d.marchYear / 400 * 400) +
        (monthStart (marchMonth d.month) + d.day - 1)) - 719468 := by
  simp only [toDays, yearStart, monthStart, marchYear, marchMonth]
  ring

/-- The date of day `doy` of year `yoe` of an era. -/
theorem ofDays_parts (era : Int) {yoe doy : Int} (hyoe : 0 ≤ yoe ∧ yoe < 400)
    (hdoy : 0 ≤ doy ∧ doy < yearLength yoe) :
    let mp := (5 * doy + 2) / 153
    let month : Int := if mp < 10 then mp + 3 else mp - 9
    ofDays (era * 146097 + (yearStart yoe + doy) - 719468) =
      ⟨if month ≤ 2 then yoe + era * 400 + 1 else yoe + era * 400, month.toNat,
        (doy - monthStart mp + 1).toNat⟩ := by
  intro mp month
  have hbounds := yearStart_add_bounds hyoe hdoy
  have hz : era * 146097 + (yearStart yoe + doy) - 719468 + 719468 =
      era * 146097 + (yearStart yoe + doy) := by ring
  have hera : (era * 146097 + (yearStart yoe + doy)) / 146097 = era := by omega
  have hdoe : era * 146097 + (yearStart yoe + doy) - era * 146097 = yearStart yoe + doy := by ring
  have hyear : yearOfEra (yearStart yoe + doy) = yoe := yearOfEra_yearStart_add hyoe hdoy
  have hdayOfYear : yearStart yoe + doy - (365 * yoe + yoe / 4 - yoe / 100) = doy := by
    unfold yearStart
    ring
  unfold yearOfEra at hyear
  simp only [ofDays, hz, hera, hdoe, hyear, hdayOfYear]
  rfl

theorem isValid_iff {d : CivilDate} :
    d.isValid = true ↔ minYear ≤ d.year ∧ d.year ≤ maxYear ∧ 1 ≤ d.month ∧ d.month ≤ 12 ∧
      1 ≤ d.day ∧ d.day ≤ daysInMonth d.year d.month := by
  simp [isValid, and_assoc]

/-- Counted from March, a month number and back. -/
theorem marchMonth_bounds {m : Nat} (hm : 1 ≤ m ∧ m ≤ 12) :
    0 ≤ marchMonth m ∧ marchMonth m ≤ 11 ∧ (marchMonth m < 10 ↔ 2 < m) ∧
      (if marchMonth m < 10 then marchMonth m + 3 else marchMonth m - 9) = m := by
  unfold marchMonth
  split_ifs <;> omega

/-- A month has at most the days between its start and the next month's, counted from March,
and February has 29 days in a leap year and 28 otherwise. -/
theorem daysInMonth_le {y : Int} {m : Nat} (hm : 1 ≤ m ∧ m ≤ 12) :
    (daysInMonth y m : Int) ≤ monthStart (marchMonth m + 1) - monthStart (marchMonth m) ∧
      (m = 2 → (daysInMonth y m : Int) = if isLeapYear y then 29 else 28) := by
  obtain ⟨h1, h12⟩ := hm
  interval_cases m <;> by_cases hleap : isLeapYear y = true <;>
    simp [daysInMonth, monthStart, marchMonth, hleap]

/-- The day of the year, counted from March, of a valid date is a day of its year of the era. -/
theorem dayOfYear_lt {d : CivilDate} (h : d.isValid = true) :
    0 ≤ monthStart (marchMonth d.month) + d.day - 1 ∧
      monthStart (marchMonth d.month) + d.day - 1 <
        yearLength (d.marchYear - d.marchYear / 400 * 400) := by
  obtain ⟨-, -, hm1, hm12, hd1, hdm⟩ := isValid_iff.mp h
  obtain ⟨hmm0, hmm11, hmarch, -⟩ := marchMonth_bounds ⟨hm1, hm12⟩
  obtain ⟨hlength, hfebruary⟩ := daysInMonth_le (y := d.year) ⟨hm1, hm12⟩
  have hstart : 0 ≤ monthStart (marchMonth d.month) := by unfold monthStart; omega
  have hdm' : (d.day : Int) ≤ daysInMonth d.year d.month := by exact_mod_cast hdm
  refine ⟨by omega, ?_⟩
  by_cases hfeb : d.month = 2
  · -- February ends the year of the era, which is a leap year with the calendar year
    have hmm : marchMonth d.month = 11 := by simp [marchMonth, hfeb]
    have hyear : d.marchYear - d.marchYear / 400 * 400 + 1 + 400 * (d.marchYear / 400) =
        d.year := by simp only [marchYear, hfeb]; omega
    have hleap : isLeapYear (d.marchYear - d.marchYear / 400 * 400 + 1) = isLeapYear d.year := by
      rw [← hyear, isLeapYear_add_mul]
    have hstart11 : monthStart 11 = 337 := by decide
    rw [hmm, hstart11]
    have hdays := hfebruary hfeb
    unfold yearLength
    rw [hleap]
    split <;> simp_all <;> omega
  · -- any other month ends before February starts
    have hstart11 : monthStart (marchMonth d.month + 1) ≤ 337 := by
      have : marchMonth d.month ≤ 10 := by unfold marchMonth at *; split_ifs at * <;> omega
      unfold monthStart
      omega
    have : 365 ≤ yearLength (d.marchYear - d.marchYear / 400 * 400) := by
      unfold yearLength
      split <;> omega
    omega

/-- Every valid date is the date of its day number. -/
theorem ofDays_toDays {d : CivilDate} (h : d.isValid = true) : ofDays d.toDays = d := by
  obtain ⟨-, -, hm1, hm12, hd1, hdm⟩ := isValid_iff.mp h
  obtain ⟨hmm0, hmm11, hmarch, hmonth⟩ := marchMonth_bounds ⟨hm1, hm12⟩
  obtain ⟨hlength, -⟩ := daysInMonth_le (y := d.year) ⟨hm1, hm12⟩
  have hyoe : 0 ≤ d.marchYear - d.marchYear / 400 * 400 ∧
      d.marchYear - d.marchYear / 400 * 400 < 400 := by omega
  have hday : (d.day : Int) ≤ daysInMonth d.year d.month := by exact_mod_cast hdm
  have hmp : (5 * (monthStart (marchMonth d.month) + d.day - 1) + 2) / 153 = marchMonth d.month :=
    monthOf_monthStart_add ⟨by omega, by omega⟩
  rw [toDays_eq, ofDays_parts _ hyoe (dayOfYear_lt h)]
  simp only [hmp, hmonth]
  obtain ⟨year, month, day⟩ := d
  simp only [marchYear] at hmarch ⊢
  split_ifs <;> simp only [mk.injEq] <;> omega

/-- The day number of day `day` of month `mp`, counted from March, of year `yoe` of an era. -/
theorem toDays_parts (era : Int) {yoe mp day : Int} (hyoe : 0 ≤ yoe ∧ yoe < 400)
    (hmp : 0 ≤ mp ∧ mp ≤ 11) (hday : 0 ≤ day) :
    let month : Int := if mp < 10 then mp + 3 else mp - 9
    (⟨if month ≤ 2 then yoe + era * 400 + 1 else yoe + era * 400, month.toNat, day.toNat⟩ :
        CivilDate).toDays =
      era * 146097 + (yearStart yoe + (monthStart mp + day - 1)) - 719468 := by
  intro month
  have hmarchYear : marchYear ⟨if month ≤ 2 then yoe + era * 400 + 1 else yoe + era * 400,
      month.toNat, day.toNat⟩ = yoe + era * 400 := by
    simp only [marchYear, month]
    split_ifs <;> omega
  have hmarchMonth : marchMonth month.toNat = mp := by
    simp only [marchMonth, month]
    split_ifs <;> omega
  have hera : (yoe + era * 400) / 400 = era := by omega
  have hyear : yoe + era * 400 - era * 400 = yoe := by ring
  rw [toDays_eq, hmarchYear, hmarchMonth, hera, hyear, Int.toNat_of_nonneg hday]

/-- Every day number is the number of its date. -/
theorem toDays_ofDays (n : Int) : (ofDays n).toDays = n := by
  obtain ⟨yoe, doy, hyoe, hdoy, hdoe⟩ :=
    exists_yearStart_add (show 0 ≤ (n + 719468) % 146097 ∧ (n + 719468) % 146097 < 146097 by omega)
  obtain ⟨era, rfl⟩ : ∃ era, n = era * 146097 + (yearStart yoe + doy) - 719468 :=
    ⟨(n + 719468) / 146097, by omega⟩
  have hyear : doy ≤ 365 := by unfold yearLength at hdoy; split at hdoy <;> omega
  obtain ⟨hmp, hstart, -⟩ := monthStart_le_of_dayOfYear ⟨hdoy.1, hyear⟩
  rw [ofDays_parts era hyoe hdoy, toDays_parts era hyoe hmp (by omega)]
  ring

end CivilDate

namespace ClockTime

/-- Hours, minutes and seconds within a day. -/
structure InDay (t : ClockTime) : Prop where
  hour_lt : t.hour < 24
  minute_lt : t.minute < 60
  second_lt : t.second < 60

theorem InDay.secondOfDay_lt {t : ClockTime} (h : t.InDay) : t.secondOfDay < 86400 := by
  have := h.hour_lt
  have := h.minute_lt
  have := h.second_lt
  unfold secondOfDay
  omega

theorem ofSecondOfDay_secondOfDay {t : ClockTime} (h : t.InDay) :
    ofSecondOfDay t.secondOfDay t.nano = t := by
  have := h.minute_lt
  have := h.second_lt
  have := h.secondOfDay_lt
  obtain ⟨hour, minute, second, nano⟩ := t
  simp only [ofSecondOfDay, secondOfDay, mk.injEq, and_true] at *
  omega

theorem secondOfDay_ofSecondOfDay (s nano : Nat) :
    (ofSecondOfDay s nano).secondOfDay = s := by
  simp only [ofSecondOfDay, secondOfDay]
  omega

theorem inDay_ofSecondOfDay {s : Nat} (hs : s < 86400) (nano : Nat) :
    (ofSecondOfDay s nano).InDay := by
  constructor <;> simp only [ofSecondOfDay] <;> omega

end ClockTime

namespace LocalDateTime

/-- A valid date and a time within the day, read at an offset, are what a clock at that offset
shows at the instant they name. -/
theorem toLocal_toInstant {l : LocalDateTime} (hdate : l.date.isValid = true)
    (htime : l.time.InDay) (offset : Int) : (l.toInstant offset).toLocal offset = l := by
  have hsecond := htime.secondOfDay_lt
  have hseconds : (l.toInstant offset).seconds + offset =
      l.date.toDays * 86400 + l.time.secondOfDay := by
    simp only [toInstant]
    ring
  have hday : (l.date.toDays * 86400 + l.time.secondOfDay) / 86400 = l.date.toDays := by omega
  have hrest : ((l.date.toDays * 86400 + l.time.secondOfDay) % 86400).toNat = l.time.secondOfDay := by
    omega
  obtain ⟨date, time⟩ := l
  simp only [Instant.toLocal, hseconds, hday, hrest]
  rw [CivilDate.ofDays_toDays hdate]
  simp only [toInstant]
  rw [ClockTime.ofSecondOfDay_secondOfDay htime]

end LocalDateTime

namespace Instant

/-- The date and time a clock at an offset shows name the instant again. -/
theorem toInstant_toLocal (i : Instant) (offset : Int) : (i.toLocal offset).toInstant offset = i := by
  have hrest : (i.seconds + offset) % 86400 < 86400 := Int.emod_lt_of_pos _ (by norm_num)
  have hsecond := ClockTime.secondOfDay_ofSecondOfDay ((i.seconds + offset) % 86400).toNat i.nano
  simp only [toLocal, LocalDateTime.toInstant, CivilDate.toDays_ofDays, hsecond]
  obtain ⟨seconds, nano⟩ := i
  simp only [ClockTime.ofSecondOfDay, mk.injEq, and_true]
  omega

/-- A clock at an offset shows a time within the day. -/
theorem inDay_toLocal (i : Instant) (offset : Int) : (i.toLocal offset).time.InDay := by
  have hrest : (i.seconds + offset) % 86400 < 86400 := Int.emod_lt_of_pos _ (by norm_num)
  exact ClockTime.inDay_ofSecondOfDay (by omega) i.nano

end Instant

end SparqlExpr.Temporal
