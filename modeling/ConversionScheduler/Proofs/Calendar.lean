import ConversionScheduler.Time.Calendar
import Mathlib.Tactic.Common
/-!
# Dates and day numbers

`Date.ofDays` gives every day number a date of the calendar, and `Date.toDays` counts it back. Both
count in eras of 400 years that begin on the 1st of March; within an era the year of a day is found
by one division, which is compared here with the day on which each year begins.

## Main definitions

* `Date.yearOfEra`, `Date.yearStart` — the year of a day of an era, and the first day of a year.
* `Date.ofYearDay` — the date of a day counted from the 1st of March.

## Main results

* `Date.toDays_ofDays` — counting the days of the date of a day gives that day.
* `Date.isValid_ofDays` — the calendar has the date of every day.
* `Date.year_ofDays` — the years that points in time can lie in.
-/

namespace ConversionScheduler.Date

/-! ## The year of a day -/

/-- The year of a day of an era. -/
def yearOfEra (e : Int) : Int := (e - e / 1460 + e / 36524 - e / 146096) / 365

/-- The day of the era on which a year begins. -/
def yearStart (y : Int) : Int := 365 * y + y / 4 - y / 100

/-- Later days are in later years. -/
lemma yearOfEra_mono {e e' : Int} (h0 : 0 ≤ e) (h : e ≤ e') (h1 : e' < 146097) :
    yearOfEra e ≤ yearOfEra e' := by
  have hfour : e - e / 1460 ≤ e' - e' / 1460 := by omega
  have hhundred : e / 36524 - e / 146096 ≤ e' / 36524 - e' / 146096 := by omega
  exact Int.ediv_le_ediv (by decide) (by omega)

/-- An era has 400 years. -/
lemma yearOfEra_bounds {e : Int} (h0 : 0 ≤ e) (h1 : e < 146097) :
    0 ≤ yearOfEra e ∧ yearOfEra e < 400 := by
  unfold yearOfEra
  omega

/-- The first day of a year is not in an earlier year. There are few enough years to look at them
all. -/
lemma le_yearOfEra_yearStart : ∀ y : Fin 400, (y : Int) ≤ yearOfEra (yearStart y) := by
  decide +kernel

/-- The last day of a year is not in a later year. -/
lemma yearOfEra_before : ∀ y : Fin 400, yearOfEra (yearStart ((y : Int) + 1) - 1) ≤ y := by
  decide +kernel

/-- No day is before the beginning of its year.

**Proof sketch.** The last day before the beginning of a year is in an earlier year by
`yearOfEra_before`, and so is every day before that by `yearOfEra_mono`. -/
lemma yearStart_le {e : Int} (h0 : 0 ≤ e) (h1 : e < 146097) : yearStart (yearOfEra e) ≤ e := by
  obtain ⟨hy0, hy1⟩ := yearOfEra_bounds h0 h1
  by_contra hlt
  rcases Int.le_iff_lt_or_eq.mp hy0 with hpos | hzero
  · have hb := yearOfEra_before ⟨(yearOfEra e - 1).toNat, by omega⟩
    have he : (((yearOfEra e - 1).toNat : Nat) : Int) = yearOfEra e - 1 := by omega
    simp only [he] at hb
    have hs : yearStart (yearOfEra e) < 146097 := by unfold yearStart; omega
    have hm := yearOfEra_mono h0 (show e ≤ yearStart (yearOfEra e - 1 + 1) - 1 by
      rw [Int.sub_add_cancel]; omega) (by rw [Int.sub_add_cancel]; omega)
    omega
  · rw [← hzero] at hlt
    exact hlt h0

/-- Every day but those of the last year of the era is before the beginning of the next year. -/
lemma lt_yearStart {e : Int} (h0 : 0 ≤ e) (h1 : e < 146097) (hy : yearOfEra e < 399) :
    e < yearStart (yearOfEra e + 1) := by
  obtain ⟨hy0, hy1⟩ := yearOfEra_bounds h0 h1
  by_contra hle
  have hb := le_yearOfEra_yearStart ⟨(yearOfEra e + 1).toNat, by omega⟩
  have he : (((yearOfEra e + 1).toNat : Nat) : Int) = yearOfEra e + 1 := by omega
  simp only [he] at hb
  have hm := yearOfEra_mono (show 0 ≤ yearStart (yearOfEra e + 1) by unfold yearStart; omega)
    (by omega) h1
  omega

/-- A year has at most 366 days, and that many only if it ends in a leap year. The last year of an
era always does.

**Proof sketch.** A year that is not the last of its era ends where the next one starts. It has 366
days only if the number of quarters grows at its end and that of centuries does not, which is what
makes a leap year; the last year ends in the year 400. -/
lemma dayOfYear_bounds {e : Int} (h0 : 0 ≤ e) (h1 : e < 146097) (era : Int) :
    e - yearStart (yearOfEra e) ≤ 365 ∧
      (e - yearStart (yearOfEra e) = 365 → isLeap (yearOfEra e + era * 400 + 1) = true) := by
  obtain ⟨hy0, hy1⟩ := yearOfEra_bounds h0 h1
  have hlo := yearStart_le h0 h1
  by_cases hy : yearOfEra e < 399
  · have hhi := lt_yearStart h0 h1 hy
    unfold yearStart at *
    refine ⟨by omega, fun h => ?_⟩
    have hy4 : (yearOfEra e + 1) % 4 = 0 := by
      by_contra hne
      have hquarter : (yearOfEra e + 1) / 4 = yearOfEra e / 4 := by omega
      have hcentury : yearOfEra e / 100 ≤ (yearOfEra e + 1) / 100 := by omega
      omega
    have hy100 : (yearOfEra e + 1) % 100 ≠ 0 := by
      intro hzero
      have hcentury : (yearOfEra e + 1) / 100 = yearOfEra e / 100 + 1 := by omega
      have hquarter : (yearOfEra e + 1) / 4 = yearOfEra e / 4 + 1 := by omega
      omega
    have h4 : (yearOfEra e + era * 400 + 1) % 4 = 0 := by omega
    have h100 : (yearOfEra e + era * 400 + 1) % 100 ≠ 0 := by omega
    simp [isLeap, h4, h100]
  · have h399 : yearOfEra e = 399 := by omega
    rw [h399] at hlo ⊢
    unfold yearStart at *
    refine ⟨by omega, fun h => ?_⟩
    have h4 : (399 + era * 400 + 1) % 4 = 0 := by omega
    have h400 : (399 + era * 400 + 1) % 400 = 0 := by omega
    simp [isLeap, h4, h400]

/-! ## The month and the day -/

/-- The date of a day counted from the 1st of March of a year. -/
def ofYearDay (y d : Int) : Date :=
  let m := (5 * d + 2) / 153
  let month := if m < 10 then m + 3 else m - 9
  ⟨if month ≤ 2 then y + 1 else y, month.toNat, (d - (153 * m + 2) / 5 + 1).toNat⟩

/-- The date of a day comes from the year of its era and the day of that year. -/
lemma ofDays_eq (n : Int) :
    ofDays n = ofYearDay (yearOfEra ((n + 719468) % 146097) + (n + 719468) / 146097 * 400)
      ((n + 719468) % 146097 - yearStart (yearOfEra ((n + 719468) % 146097))) := by
  have he : n + 719468 - (n + 719468) / 146097 * 146097 = (n + 719468) % 146097 := by omega
  simp only [ofDays, he]
  rfl

/-- Counting the days of the date of a day of a year gives the days up to this year and this day.

**Proof sketch.** The months from March on are counted by the quotient `(5 * d + 2) / 153`. For the
first ten the year is that of the day, for January and February it is the one after, which the count
of the days takes back. -/
lemma toDays_ofYearDay {y d : Int} (h0 : 0 ≤ d) (h1 : d ≤ 365) :
    toDays (ofYearDay y d) = y / 400 * 146097 + yearStart (y % 400) + d - 719468 := by
  unfold ofYearDay
  have hm0 : 0 ≤ (5 * d + 2) / 153 := by omega
  have hm1 : (5 * d + 2) / 153 < 12 := by omega
  have hday : 0 ≤ d - (153 * ((5 * d + 2) / 153) + 2) / 5 + 1 := by omega
  generalize (5 * d + 2) / 153 = m at hm0 hm1 hday
  by_cases hm : m < 10
  · have h1 : ¬ m + 3 ≤ 2 := by omega
    have h2 : ¬ (m + 3).toNat ≤ 2 := by omega
    have h3 : 2 < (m + 3).toNat := by omega
    simp only [toDays, hm, if_true, h1, if_false, h2, h3, yearStart]
    have h4 : ((m + 3).toNat : Int) - 3 = m := by omega
    rw [h4, Int.toNat_of_nonneg hday]
    omega
  · have h1 : m - 9 ≤ 2 := by omega
    have h2 : (m - 9).toNat ≤ 2 := by omega
    have h3 : ¬ 2 < (m - 9).toNat := by omega
    simp only [toDays, hm, if_true, h1, if_false, h2, h3, yearStart]
    have h4 : ((m - 9).toNat : Int) + 9 = m := by omega
    rw [h4, Int.toNat_of_nonneg hday]
    omega

/-- The length of a month in a year that is or is not a leap year. -/
def monthLength (leap : Bool) (month : Nat) : Nat :=
  if month = 2 then (if leap then 29 else 28)
  else if month = 4 ∨ month = 6 ∨ month = 9 ∨ month = 11 then 30
  else 31

/-- A day of a year is a day of a month, and the 366th one only in a leap year. -/
lemma ofYearDay_valid : ∀ d : Fin 366, ∀ leap : Bool, (d.val = 365 → leap = true) →
    1 ≤ (ofYearDay 0 d.val).month ∧ (ofYearDay 0 d.val).month ≤ 12 ∧
      1 ≤ (ofYearDay 0 d.val).day ∧
      (ofYearDay 0 d.val).day ≤ monthLength leap (ofYearDay 0 d.val).month := by
  decide +kernel

/-- The year that is counted from March has its last days, from the 306th on, in the next year. -/
lemma year_ofYearDay {y d : Int} (h0 : 0 ≤ d) (h1 : d ≤ 365) :
    (ofYearDay y d).year = if 306 ≤ d then y + 1 else y := by
  simp only [ofYearDay]
  split <;> split <;> split <;> omega

/-- February comes at the end of the year that is counted from March. -/
lemma le_of_month_ofYearDay {y d : Int} (h0 : 0 ≤ d) (h1 : d ≤ 365)
    (h : (ofYearDay y d).month = 2) : 306 ≤ d := by
  simp only [ofYearDay] at h
  split at h <;> omega

/-- A day counted from the 1st of March has a date, provided that a 366th day is the last of a leap
February.

**Proof sketch.** The month and the day do not depend on the year, so `ofYearDay_valid` settles all
366 of them; only the length of February looks at the year. -/
lemma isValid_ofYearDay {y d : Int} (h0 : 0 ≤ d) (h1 : d ≤ 365)
    (hl : d = 365 → isLeap (y + 1) = true) : (ofYearDay y d).isValid = true := by
  obtain ⟨k, rfl⟩ := Int.eq_ofNat_of_zero_le h0
  obtain ⟨hm1, hm12, hd1, hd31⟩ :=
    ofYearDay_valid ⟨k, by omega⟩ (isLeap (y + 1)) fun h => hl (congrArg Nat.cast h)
  have hlength : daysInMonth (ofYearDay y k).year (ofYearDay y k).month =
      monthLength (isLeap (y + 1)) (ofYearDay 0 k).month := by
    have hmonth : (ofYearDay y k).month = (ofYearDay 0 k).month := rfl
    by_cases h2 : (ofYearDay 0 k).month = 2
    · rw [year_ofYearDay h0 h1, if_pos (le_of_month_ofYearDay h0 h1 h2)]
      rfl
    · rw [hmonth, daysInMonth, monthLength, if_neg h2, if_neg h2]
  simp only [isValid, Bool.and_eq_true, decide_eq_true_eq, hlength]
  exact ⟨⟨⟨hm1, hm12⟩, hd1⟩, hd31⟩

/-! ## Day numbers -/

section OfDays

variable (n : Int)

/-- A day of an era is one of its 146097 days. -/
private lemma era_bounds : 0 ≤ (n + 719468) % 146097 ∧ (n + 719468) % 146097 < 146097 :=
  ⟨Int.emod_nonneg _ (by decide), Int.emod_lt_of_pos _ (by decide)⟩

/-- **Counting the days of the date of a day gives that day.** -/
theorem toDays_ofDays : toDays (ofDays n) = n := by
  obtain ⟨h0, h1⟩ := era_bounds n
  obtain ⟨hy0, hy1⟩ := yearOfEra_bounds h0 h1
  have hlo := yearStart_le h0 h1
  have hhi := (dayOfYear_bounds h0 h1 0).1
  rw [ofDays_eq, toDays_ofYearDay (by omega) hhi]
  have hdiv : (yearOfEra ((n + 719468) % 146097) + (n + 719468) / 146097 * 400) / 400 =
      (n + 719468) / 146097 := by omega
  have hmod : (yearOfEra ((n + 719468) % 146097) + (n + 719468) / 146097 * 400) % 400 =
      yearOfEra ((n + 719468) % 146097) := by omega
  rw [hdiv, hmod]
  omega

/-- **The calendar has the date of every day.** -/
theorem isValid_ofDays : (ofDays n).isValid = true := by
  obtain ⟨h0, h1⟩ := era_bounds n
  have hlo := yearStart_le h0 h1
  obtain ⟨hhi, hleap⟩ := dayOfYear_bounds h0 h1 ((n + 719468) / 146097)
  rw [ofDays_eq]
  exact isValid_ofYearDay (by omega) hhi hleap

/-- The days in which points in time lie have dates of the years from -262143 to 262142. -/
theorem year_ofDays (hmin : -96465292 ≤ n) (hmax : n ≤ 95026236) :
    -262143 ≤ (ofDays n).year ∧ (ofDays n).year ≤ 262142 := by
  obtain ⟨h0, h1⟩ := era_bounds n
  obtain ⟨hy0, hy1⟩ := yearOfEra_bounds h0 h1
  have hlo := yearStart_le h0 h1
  have hhi := (dayOfYear_bounds h0 h1 0).1
  rw [ofDays_eq, year_ofYearDay (by omega) hhi]
  unfold yearStart at *
  omega

end OfDays

end ConversionScheduler.Date
