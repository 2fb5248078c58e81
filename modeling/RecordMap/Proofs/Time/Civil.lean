import RecordMap.Time.Calendar
import Mathlib.Tactic.IntervalCases

/-!
# Days and civil dates, read both ways

`civilOfDays` names the day a count of days falls on, and `daysOfCivil` counts the days of a
date; the first is a right inverse of the second on every day (`daysOfCivil_civilOfDays`), and
on the representable days it names a real date of the representable years
(`civilOfDays_isValidDate`).

Both work on eras of 400 years, 146097 days, whose years begin on the first of March, so that
a leap day is the last day of its year. The days of an era split into four centuries of 36524
days (the last one a day longer), a century into cycles of four years of 1461 days, and a cycle
into years of 365 days, the fourth one a day longer (`era_parts`). The year of an era that
`civilOfDays` computes from the day by three corrections is the one this split gives
(`yearOfEra_of_parts`); the month and the day of the month then follow from the day of the year
by the 153-day rule of the months from March to July and from August to December.
-/

namespace RecordMap.Time

/-! ## Years of an era -/

/-- Days of an era before its year `y`, the era's years running from March to February. -/
def daysBeforeYear (y : Int) : Int := 365 * y + y / 4 - y / 100

theorem era_parts {doe : Int} (h0 : 0 ≤ doe) (h1 : doe < 146097) :
    ∃ c q r k : Int, 0 ≤ c ∧ c ≤ 3 ∧ 0 ≤ q ∧ q ≤ 24 ∧ 0 ≤ r ∧ r ≤ 3 ∧ 0 ≤ k ∧ k ≤ 365 ∧
      (k = 365 → r = 3 ∧ (q < 24 ∨ c = 3)) ∧ doe = 36524 * c + 1461 * q + 365 * r + k := by
  by_cases hlast : doe = 146096
  · exact ⟨3, 24, 3, 365, by omega⟩
  by_cases hleap : doe % 36524 % 1461 = 1460
  · exact ⟨doe / 36524, doe % 36524 / 1461, 3, 365, by omega⟩
  · exact ⟨doe / 36524, doe % 36524 / 1461, doe % 36524 % 1461 / 365,
      doe % 36524 % 1461 % 365, by omega⟩

/-- The year of an era that `civilOfDays` computes is the year of the split. -/
theorem yearOfEra_of_parts {doe c q r k : Int} (hc0 : 0 ≤ c) (hc : c ≤ 3) (hq0 : 0 ≤ q)
    (hq : q ≤ 24) (hr0 : 0 ≤ r) (hr : r ≤ 3) (hk0 : 0 ≤ k) (hk : k ≤ 365)
    (hleap : k = 365 → r = 3 ∧ (q < 24 ∨ c = 3))
    (hdoe : doe = 36524 * c + 1461 * q + 365 * r + k) :
    (doe - doe / 1460 + doe / 36524 - doe / 146096) / 365 = 100 * c + 4 * q + r := by
  -- each division counts leap days already past; the first one a day early in a long year
  have h1 : doe / 1460 = 25 * c + q + (if r = 3 ∧ 1460 ≤ 24 * c + q + 1095 + k then 1 else 0) := by
    rw [Int.ediv_eq_iff_of_pos (by decide)]
    split <;> omega
  have h2 : doe / 36524 - doe / 146096 = c := by
    by_cases hend : q = 24 ∧ r = 3 ∧ k = 365
    · have hc3 : c = 3 := by omega
      have ha : doe / 36524 = 4 := by rw [Int.ediv_eq_iff_of_pos (by decide)]; omega
      have hb : doe / 146096 = 1 := by rw [Int.ediv_eq_iff_of_pos (by decide)]; omega
      omega
    · have hk' : 1461 * q + 365 * r + k < 36524 := by
        rcases Int.lt_or_eq_of_le hk with hk' | hk'
        · omega
        · have := hleap hk'
          omega
      have ha : doe / 36524 = c := by rw [Int.ediv_eq_iff_of_pos (by decide)]; omega
      have hb : doe / 146096 = 0 := by rw [Int.ediv_eq_iff_of_pos (by decide)]; omega
      omega
  rw [Int.ediv_eq_iff_of_pos (by decide)]
  split at h1 <;> omega

/-- The year of an era of a day, and the day's place in it: a year has 365 days, and a 366th
exactly when the civil year after it, which holds its February, is a leap year. -/
theorem yearOfEra_spec {doe yoe : Int} (h0 : 0 ≤ doe) (h1 : doe < 146097)
    (hyoe : yoe = (doe - doe / 1460 + doe / 36524 - doe / 146096) / 365) :
    0 ≤ yoe ∧ yoe < 400 ∧ daysBeforeYear yoe ≤ doe ∧ doe - daysBeforeYear yoe ≤ 365 ∧
      (doe - daysBeforeYear yoe = 365 → isLeapYear (yoe + 1) = true) := by
  obtain ⟨c, q, r, k, hc0, hc, hq0, hq, hr0, hr, hk0, hk, hleap, hdoe⟩ := era_parts h0 h1
  rw [yearOfEra_of_parts hc0 hc hq0 hq hr0 hr hk0 hk hleap hdoe] at hyoe
  subst hyoe hdoe
  have h4 : (100 * c + 4 * q + r) / 4 = 25 * c + q := by
    rw [Int.ediv_eq_iff_of_pos (by decide)]; omega
  have h100 : (100 * c + 4 * q + r) / 100 = c := by
    rw [Int.ediv_eq_iff_of_pos (by decide)]; omega
  simp only [daysBeforeYear, h4, h100]
  refine ⟨by omega, by omega, by omega, by omega, fun h => ?_⟩
  -- the long year is the last of its cycle, and the last of a century only at the era's end
  obtain ⟨rfl, hlast⟩ := hleap (by omega)
  simp only [isLeapYear, Bool.and_eq_true, beq_iff_eq, Bool.or_eq_true, bne_iff_ne, ne_eq]
  omega

theorem isLeapYear_add_era (era y : Int) : isLeapYear (y + era * 400) = isLeapYear y := by
  have h4 : (y + era * 400) % 4 = y % 4 := by omega
  have h100 : (y + era * 400) % 100 = y % 100 := by omega
  have h400 : (y + era * 400) % 400 = y % 400 := by omega
  simp only [isLeapYear, h4, h100, h400]

/-! ## Months of a year -/

theorem monthOfYear_spec {doy mp : Int} (h0 : 0 ≤ doy) (h1 : doy ≤ 365) (y : Int)
    (hleap : doy = 365 → isLeapYear y = true) (hmp : mp = (5 * doy + 2) / 153) :
    0 ≤ mp ∧ mp ≤ 11 ∧ 1 ≤ doy - (153 * mp + 2) / 5 + 1 ∧
      doy - (153 * mp + 2) / 5 + 1 ≤ daysInMonth y (if mp < 10 then mp + 3 else mp - 9).toNat := by
  have hmp0 : 0 ≤ mp := by omega
  have hmp1 : mp ≤ 11 := by omega
  refine ⟨hmp0, hmp1, ?_⟩
  -- twelve months, each with its own length; February's depends on the year
  interval_cases mp <;> simp only [daysInMonth] <;> (try split) <;> try omega
  cases hl : isLeapYear y <;>
    simp only [hl, Bool.false_eq_true, imp_false, if_true, if_false] at hleap ⊢ <;> omega

/-! ## Dates of days -/

/-- The date of a day, read off its era, its year of the era and its day of that year: the
month and the day of the month come from the day of the year, and the months from January on
belong to the next civil year. -/
theorem civilOfDays_split (z : Int) :
    ∃ era yoe doy : Int, 0 ≤ yoe ∧ yoe < 400 ∧ 0 ≤ doy ∧ doy ≤ 365 ∧
      (doy = 365 → isLeapYear (yoe + 1) = true) ∧
      z + 719468 = era * 146097 + daysBeforeYear yoe + doy ∧
      civilOfDays z =
        (yoe + era * 400 + (if (5 * doy + 2) / 153 < 10 then 0 else 1),
          (if (5 * doy + 2) / 153 < 10 then (5 * doy + 2) / 153 + 3
            else (5 * doy + 2) / 153 - 9).toNat,
          (doy - (153 * ((5 * doy + 2) / 153) + 2) / 5 + 1).toNat) := by
  unfold civilOfDays
  dsimp only
  generalize hw : z + 719468 = w
  generalize hera : w / 146097 = era
  have hd0 : 0 ≤ w - era * 146097 := by omega
  have hd1 : w - era * 146097 < 146097 := by omega
  obtain ⟨hy0, hy1, hb0, hb1, hleap⟩ := yearOfEra_spec hd0 hd1 rfl
  generalize hyoe : (w - era * 146097 - (w - era * 146097) / 1460 + (w - era * 146097) / 36524 -
    (w - era * 146097) / 146096) / 365 = yoe at hy0 hy1 hb0 hb1 hleap
  refine ⟨era, yoe, w - era * 146097 - daysBeforeYear yoe, hy0, hy1, by omega, by omega, hleap,
    by omega, ?_⟩
  obtain ⟨hmp0, hmp1, -⟩ := monthOfYear_spec (by omega) hb1 0 (fun _ => rfl) rfl
  simp only [daysBeforeYear] at hmp0 hmp1 ⊢
  -- only the year differs in form: the code asks for the months of the next year by number
  congr 1
  split_ifs <;> omega

/-- Counting the days of the date a day falls on gives the day back. -/
theorem daysOfCivil_civilOfDays (z : Int) :
    daysOfCivil (civilOfDays z).1 (civilOfDays z).2.1 (civilOfDays z).2.2 = z := by
  obtain ⟨era, yoe, doy, hy0, hy1, hd0, hd1, hleap, hz, hsplit⟩ := civilOfDays_split z
  obtain ⟨hmp0, hmp1, hday, -⟩ := monthOfYear_spec hd0 hd1 0 (fun _ => rfl) rfl
  rw [hsplit]
  generalize (5 * doy + 2) / 153 = mp at hmp0 hmp1 hday ⊢
  have hera : (yoe + era * 400) / 400 = era := by
    rw [Int.ediv_eq_iff_of_pos (by decide)]; omega
  simp only [daysOfCivil, daysBeforeYear] at hz ⊢
  by_cases h : mp < 10
  · simp only [h, if_true, Int.add_zero]
    rw [if_neg (by omega), if_pos (by omega), hera]
    omega
  · simp only [h, if_false]
    rw [if_pos (by omega), if_neg (by omega), Int.add_sub_cancel, hera]
    omega

/-! ## The representable days -/

theorem minDay_eq : minDay = -96465292 := by decide

theorem maxDay_eq : maxDay = 95026236 := by decide

/-- Every representable day falls on a real date of the representable years. -/
theorem civilOfDays_isValidDate {z : Int} (hmin : minDay ≤ z) (hmax : z ≤ maxDay) :
    isValidDate (civilOfDays z).1 (civilOfDays z).2.1 (civilOfDays z).2.2 = true := by
  obtain ⟨era, yoe, doy, hy0, hy1, hd0, hd1, hleap, hz, hsplit⟩ := civilOfDays_split z
  rw [minDay_eq] at hmin
  rw [maxDay_eq] at hmax
  rw [hsplit]
  have hleap' : doy = 365 →
      isLeapYear (yoe + era * 400 + (if (5 * doy + 2) / 153 < 10 then 0 else 1)) = true := by
    intro h
    rw [if_neg (by omega), show yoe + era * 400 + 1 = yoe + 1 + era * 400 by omega,
      isLeapYear_add_era]
    exact hleap h
  obtain ⟨hmp0, hmp1, hday1, hday2⟩ := monthOfYear_spec hd0 hd1 _ hleap' rfl
  simp only [daysBeforeYear] at hz
  simp only [isValidDate, Bool.and_eq_true, decide_eq_true_eq]
  refine ⟨⟨⟨⟨?_, by split_ifs <;> omega⟩, by split_ifs <;> omega⟩, by omega⟩, by omega⟩
  -- the first and the last era are cut inside: there the day bounds the year of the era
  unfold minYear maxYear
  split_ifs with hmp
  · omega
  · have hera : era ≤ 655 := by omega
    have hlast : era = 655 → yoe ≤ 142 := by omega
    have hlastYear : era = 655 → yoe = 142 → doy ≤ 305 := by
      rintro rfl rfl
      omega
    omega

end RecordMap.Time
