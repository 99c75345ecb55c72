import HubDispatch.Calendar.Date
import Mathlib.Logic.Function.Iterate
import Mathlib.Tactic.IntervalCases

/-!
# Days and dates

`toDays` counts the days and `ofDays` finds the date of a day. Every day has a date
(`toDays_ofDays`), and every date is the one that is found for its day (`ofDays_toDays`), whatever
the year.

That days are counted rightly is said by the rules of the calendar alone: the day after a date is
the next one of its month, or the first of the next month, or the first of January (`next`). The
count grows by one with it (`toDays_next`), so a date is moved by any number of days, one after the
other, by adding that number to the count (`addDays_eq`).

The proofs count as the definitions do, in years that begin in March (`MarchDay`). There only the
last month depends on the year.
-/

namespace HubDispatch
namespace Date

/-- The date exists, in whatever year. -/
structure WellFormed (d : Date) : Prop where
  month : 1 ≤ d.month ∧ d.month ≤ 12
  day : 1 ≤ d.day ∧ d.day ≤ daysInMonth d.year d.month

theorem isValid_iff {d : Date} :
    d.isValid = true ↔ (firstYear ≤ d.year ∧ d.year ≤ lastYear) ∧ d.WellFormed := by
  simp only [isValid, Bool.and_eq_true, decide_eq_true_eq]
  constructor
  · rintro ⟨⟨⟨⟨⟨h₁, h₂⟩, h₃⟩, h₄⟩, h₅⟩, h₆⟩
    exact ⟨⟨h₁, h₂⟩, ⟨h₃, h₄⟩, h₅, h₆⟩
  · rintro ⟨⟨h₁, h₂⟩, ⟨h₃, h₄⟩, h₅, h₆⟩
    exact ⟨⟨⟨⟨⟨h₁, h₂⟩, h₃⟩, h₄⟩, h₅⟩, h₆⟩

theorem daysInMonth_bounds (y : Int) (m : Nat) : 1 ≤ daysInMonth y m ∧ daysInMonth y m ≤ 31 := by
  unfold daysInMonth
  split
  · split <;> decide
  · split <;> decide

theorem isLeapYear_iff {y : Int} :
    isLeapYear y = true ↔ y % 4 = 0 ∧ (y % 100 ≠ 0 ∨ y % 400 = 0) := by
  simp [isLeapYear]

/-! ## Years that begin in March -/

/-- Days from the first of March of year zero to that of another year. -/
def yearStart (y : Int) : Int := 365 * y + y / 4 - y / 100 + y / 400

/-- Days from the first of March to the first of a month, with March as month zero. -/
def monthStart (m : Int) : Int := (153 * m + 2) / 5

/-- Days of a month of a year that begins in March: up to the first of the next month, or, for
February, up to the next year. -/
def monthLength (y m : Int) : Int :=
  if m < 11 then monthStart (m + 1) - monthStart m
  else yearStart (y + 1) - yearStart y - monthStart m

/-- The day `k` of month `m` of year `y`, all counted from zero and the months from March. -/
structure MarchDay (y m k : Int) : Prop where
  month : 0 ≤ m ∧ m ≤ 11
  day : 0 ≤ k ∧ k < monthLength y m

/-- The date of such a day. -/
def ofMarch (y m k : Int) : Date :=
  if m < 10 then ⟨y, (m + 3).toNat, (k + 1).toNat⟩ else ⟨y + 1, (m - 9).toNat, (k + 1).toNat⟩

theorem year_ofMarch (y m k : Int) : (ofMarch y m k).year = if m < 10 then y else y + 1 := by
  unfold ofMarch
  split <;> rfl

theorem month_ofMarch (y m k : Int) :
    (ofMarch y m k).month = if m < 10 then (m + 3).toNat else (m - 9).toNat := by
  unfold ofMarch
  split <;> rfl

theorem day_ofMarch (y m k : Int) : (ofMarch y m k).day = (k + 1).toNat := by
  unfold ofMarch
  split <;> rfl

theorem yearStart_succ (y : Int) :
    yearStart (y + 1) = yearStart y + if isLeapYear (y + 1) then 366 else 365 := by
  unfold yearStart
  by_cases h : isLeapYear (y + 1)
  · rw [if_pos h]
    rw [isLeapYear_iff] at h
    omega
  · rw [if_neg h]
    rw [isLeapYear_iff] at h
    omega

theorem yearStart_mono {y y' : Int} (h : y ≤ y') : yearStart y ≤ yearStart y' := by
  unfold yearStart
  omega

theorem monthStart_mono {m m' : Int} (h : m ≤ m') : monthStart m ≤ monthStart m' := by
  unfold monthStart
  omega

/-- Four hundred years are an era. -/
theorem yearStart_add_era (y era : Int) :
    yearStart (y + era * 400) = yearStart y + era * daysPerEra := by
  unfold yearStart daysPerEra
  omega

/-- The lengths of the months are those of the calendar. -/
theorem daysInMonth_ofMarch (y k : Int) {m : Int} (hm : 0 ≤ m ∧ m ≤ 11) :
    (daysInMonth (ofMarch y m k).year (ofMarch y m k).month : Int) = monthLength y m := by
  obtain ⟨hlo, hhi⟩ := hm
  by_cases hlt : m < 11
  · interval_cases m <;> rfl
  · obtain rfl : m = 11 := by omega
    have hstart : monthStart 11 = 337 := rfl
    change ((if isLeapYear (y + 1) then 29 else 28 : Nat) : Int) =
      yearStart (y + 1) - yearStart y - monthStart 11
    rw [yearStart_succ, hstart]
    by_cases h : isLeapYear (y + 1)
    · rw [if_pos h, if_pos h]
      omega
    · rw [if_neg h, if_neg h]
      omega

/-- No month ends after its year. -/
theorem monthStart_add_monthLength_le (y : Int) (m : Int) :
    yearStart y + monthStart m + monthLength y m ≤ yearStart (y + 1) := by
  unfold monthLength
  by_cases hlt : m < 11
  · rw [if_pos hlt]
    have hmono := monthStart_mono (show m + 1 ≤ 11 by omega)
    have hstart : monthStart 11 = 337 := rfl
    have hlong : yearStart y + 365 ≤ yearStart (y + 1) := by
      rw [yearStart_succ]
      split <;> omega
    omega
  · rw [if_neg hlt]
    omega

namespace MarchDay

variable {y m k y' m' k' : Int}

/-- The count of such a day. -/
theorem toDays_ofMarch (h : MarchDay y m k) :
    (ofMarch y m k).toDays = yearStart y + monthStart m + k - daysToEpoch := by
  obtain ⟨⟨hm, hm'⟩, hk, -⟩ := h
  by_cases hlt : m < 10
  · simp only [ofMarch, toDays, yearStart, monthStart, daysPerEra, if_pos hlt]
    rw [if_neg (by omega), if_neg (by omega)]
    omega
  · simp only [ofMarch, toDays, yearStart, monthStart, daysPerEra, if_neg hlt]
    rw [if_pos (by omega), if_pos (by omega)]
    omega

theorem wellFormed (h : MarchDay y m k) : (ofMarch y m k).WellFormed := by
  obtain ⟨hm, hk, hk'⟩ := h
  have hmonth := month_ofMarch y m k
  have hday := day_ofMarch y m k
  rw [← daysInMonth_ofMarch y k hm] at hk'
  exact ⟨by split at hmonth <;> omega, by omega, by omega⟩

/-- A day stands in one year only, in one month of it, and there at one place. -/
theorem unique (h : MarchDay y m k) (h' : MarchDay y' m' k')
    (heq : yearStart y + monthStart m + k = yearStart y' + monthStart m' + k') :
    y = y' ∧ m = m' ∧ k = k' := by
  obtain ⟨⟨hm, hm₁⟩, hk, hk₁⟩ := h
  obtain ⟨⟨hm', hm₁'⟩, hk', hk₁'⟩ := h'
  have hend := monthStart_add_monthLength_le y m
  have hend' := monthStart_add_monthLength_le y' m'
  have hstart := monthStart_mono hm
  have hstart' := monthStart_mono hm'
  have hzero : monthStart 0 = 0 := rfl
  have hyear : y = y' := by
    rcases lt_trichotomy y y' with hlt | heq' | hgt
    · have hmono := yearStart_mono (show y + 1 ≤ y' from hlt)
      omega
    · exact heq'
    · have hmono := yearStart_mono (show y' + 1 ≤ y from hgt)
      omega
  subst hyear
  have hmonth : m = m' := by
    rcases lt_trichotomy m m' with hlt | heq' | hgt
    · have hmono := monthStart_mono (show m + 1 ≤ m' from hlt)
      rw [monthLength, if_pos (by omega)] at hk₁
      omega
    · exact heq'
    · have hmono := monthStart_mono (show m' + 1 ≤ m from hgt)
      rw [monthLength, if_pos (by omega)] at hk₁'
      omega
  subst hmonth
  exact ⟨rfl, rfl, by omega⟩

end MarchDay

/-- Every date is one of these days. -/
theorem exists_marchDay {d : Date} (h : d.WellFormed) :
    ∃ y m k, MarchDay y m k ∧ d = ofMarch y m k := by
  obtain ⟨year, month, day⟩ := d
  obtain ⟨⟨hm, hm'⟩, hd, hd'⟩ := h
  dsimp only at hm hm' hd hd'
  by_cases hlate : month ≤ 2
  · have hsame : (⟨year, month, day⟩ : Date) = ofMarch (year - 1) (month + 9) (day - 1) := by
      rw [ofMarch, if_neg (by omega)]
      congr 1 <;> omega
    have hlength := daysInMonth_ofMarch (year - 1) (day - 1) (m := month + 9) ⟨by omega, by omega⟩
    rw [← hsame] at hlength
    dsimp only at hlength
    exact ⟨_, _, _, ⟨⟨by omega, by omega⟩, by omega, by omega⟩, hsame⟩
  · have hsame : (⟨year, month, day⟩ : Date) = ofMarch year (month - 3) (day - 1) := by
      rw [ofMarch, if_pos (by omega)]
      congr 1 <;> omega
    have hlength := daysInMonth_ofMarch year (day - 1) (m := month - 3) ⟨by omega, by omega⟩
    rw [← hsame] at hlength
    dsimp only at hlength
    exact ⟨_, _, _, ⟨⟨by omega, by omega⟩, by omega, by omega⟩, hsame⟩

/-! ## The date of a day -/

/-- A century of an era has 36524 days, four years of a century have 1461, and each of these
numbers counts one leap day less than the larger ones do. -/
theorem yearStart_of_century {c q j : Int} (hc : 0 ≤ c ∧ c ≤ 3) (hq : 0 ≤ q ∧ q ≤ 24)
    (hj : 0 ≤ j ∧ j ≤ 3) :
    yearStart (100 * c + 4 * q + j) = 36524 * c + 1461 * q + 365 * j := by
  have hfour : (100 * c + 4 * q + j) / 4 = 25 * c + q := by omega
  have hcentury : (100 * c + 4 * q + j) / 100 = c := by omega
  have hera : (100 * c + 4 * q + j) / 400 = 0 := by omega
  rw [yearStart, hfour, hcentury, hera]
  omega

/-- The year of an era in which its day `n` lies. -/
def yearOfDay (n : Int) : Int := (n - n / 1460 + n / 36524 - n / 146096) / 365

theorem yearOfDay_spec {n : Int} (h₀ : 0 ≤ n) (h₁ : n < daysPerEra) :
    yearStart (yearOfDay n) ≤ n ∧ n < yearStart (yearOfDay n + 1) := by
  by_cases hlast : n = 146096
  · -- The last day of an era is the leap day that the centuries lack.
    rw [hlast]
    decide
  · obtain ⟨c, q, r, hn, hc, hq, hr, hr', hshort⟩ : ∃ c q r : Int,
        n = 36524 * c + 1461 * q + r ∧ (0 ≤ c ∧ c ≤ 3) ∧ (0 ≤ q ∧ q ≤ 24) ∧ 0 ≤ r ∧ r ≤ 1460 ∧
          1461 * q + r < 36524 := by
      unfold daysPerEra at h₁
      exact ⟨n / 36524, n % 36524 / 1461, n % 36524 % 1461, by omega⟩
    obtain ⟨j, hj, hlo, hhi, hyear⟩ : ∃ j : Int, (0 ≤ j ∧ j ≤ 3) ∧ 365 * j ≤ r ∧
        (r < 365 * j + 365 ∨ j = 3) ∧ yearOfDay n = 100 * c + 4 * q + j := by
      refine ⟨min 3 (r / 365), by omega, by omega, by omega, ?_⟩
      have hfour : n / 1460 = 25 * c + q + (24 * c + q + r) / 1460 := by omega
      have hcentury : n / 36524 = c := by omega
      have hera : n / 146096 = 0 := by omega
      rw [yearOfDay, hfour, hcentury, hera]
      omega
    have hstart := yearStart_of_century hc hq hj
    have hnext := yearStart_succ (100 * c + 4 * q + j)
    rw [hyear, hnext, hstart]
    refine ⟨by omega, ?_⟩
    by_cases hleap : isLeapYear (100 * c + 4 * q + j + 1)
    · rw [if_pos hleap]
      omega
    · rw [if_neg hleap]
      rw [isLeapYear_iff] at hleap
      omega

theorem yearOfDay_mem {n : Int} (h₀ : 0 ≤ n) (h₁ : n < daysPerEra) :
    0 ≤ yearOfDay n ∧ yearOfDay n ≤ 399 := by
  obtain ⟨hlo, hhi⟩ := yearOfDay_spec h₀ h₁
  have hzero : yearStart 0 = 0 := rfl
  have hera : yearStart 400 = daysPerEra := rfl
  constructor
  · by_contra hneg
    have hmono := yearStart_mono (show yearOfDay n + 1 ≤ 0 by omega)
    omega
  · by_contra hlarge
    have hmono := yearStart_mono (show 400 ≤ yearOfDay n by omega)
    omega

/-- The month of a year that begins in March in which its day `n` lies. -/
def monthOfDay (n : Int) : Int := (5 * n + 2) / 153

theorem monthOfDay_spec (n : Int) :
    monthStart (monthOfDay n) ≤ n ∧ n < monthStart (monthOfDay n + 1) := by
  unfold monthStart monthOfDay
  omega

/-- The day of an era, counted from the first of its year. -/
def dayOfYear (n : Int) : Int :=
  n - (365 * yearOfDay n + yearOfDay n / 4 - yearOfDay n / 100)

theorem dayOfYear_eq {n : Int} (h₀ : 0 ≤ n) (h₁ : n < daysPerEra) :
    dayOfYear n = n - yearStart (yearOfDay n) := by
  obtain ⟨hlo, hhi⟩ := yearOfDay_mem h₀ h₁
  unfold dayOfYear yearStart
  omega

/-- The day of a year is one of one of its months. -/
theorem marchDay_of_dayOfYear {y n : Int} (h₀ : 0 ≤ n) (h₁ : n < yearStart (y + 1) - yearStart y) :
    MarchDay y (monthOfDay n) (n - monthStart (monthOfDay n)) := by
  obtain ⟨hlo, hhi⟩ := monthOfDay_spec n
  have hlong : yearStart (y + 1) ≤ yearStart y + 366 := by
    rw [yearStart_succ]
    split <;> omega
  have hmonth : 0 ≤ monthOfDay n ∧ monthOfDay n ≤ 11 := by
    unfold monthOfDay
    omega
  refine ⟨hmonth, by omega, ?_⟩
  unfold monthLength
  split <;> omega

/-- **The date of a day** is one of a year that begins in March, and has the count of the day. -/
theorem exists_ofDays (n : Int) :
    ∃ y m k, MarchDay y m k ∧ ofDays n = ofMarch y m k ∧
      n + daysToEpoch = yearStart y + monthStart m + k := by
  have hdate : ofDays n =
      let era := (n + daysToEpoch) / daysPerEra
      let day := (n + daysToEpoch) % daysPerEra
      ofMarch (yearOfDay day + era * 400) (monthOfDay (dayOfYear day))
        (dayOfYear day - monthStart (monthOfDay (dayOfYear day))) := rfl
  have hsplit := Int.mul_ediv_add_emod (n + daysToEpoch) daysPerEra
  have h₀ := Int.emod_nonneg (n + daysToEpoch) (show daysPerEra ≠ 0 by decide)
  have h₁ := Int.emod_lt_of_pos (n + daysToEpoch) (show 0 < daysPerEra by decide)
  dsimp only at hdate
  generalize (n + daysToEpoch) / daysPerEra = era at hdate hsplit
  generalize (n + daysToEpoch) % daysPerEra = day at hdate hsplit h₀ h₁
  obtain ⟨hyear, hyear'⟩ := yearOfDay_spec h₀ h₁
  have hday := dayOfYear_eq h₀ h₁
  have hstart := yearStart_add_era (yearOfDay day) era
  have hnext := yearStart_add_era (yearOfDay day + 1) era
  rw [Int.add_right_comm] at hnext
  refine ⟨_, _, _, marchDay_of_dayOfYear (by omega) (by omega), hdate, ?_⟩
  rw [hstart, Int.mul_comm era]
  omega

/-- Every day has a date, which counts it. -/
theorem toDays_ofDays (n : Int) : (ofDays n).toDays = n := by
  obtain ⟨y, m, k, h, hdate, hcount⟩ := exists_ofDays n
  rw [hdate, h.toDays_ofMarch]
  omega

theorem wellFormed_ofDays (n : Int) : (ofDays n).WellFormed := by
  obtain ⟨y, m, k, h, hdate, -⟩ := exists_ofDays n
  rw [hdate]
  exact h.wellFormed

/-- Different dates are different days. -/
theorem eq_of_toDays_eq {d d' : Date} (h : d.WellFormed) (h' : d'.WellFormed)
    (heq : d.toDays = d'.toDays) : d = d' := by
  obtain ⟨y, m, k, hd, rfl⟩ := exists_marchDay h
  obtain ⟨y', m', k', hd', rfl⟩ := exists_marchDay h'
  rw [hd.toDays_ofMarch, hd'.toDays_ofMarch] at heq
  obtain ⟨rfl, rfl, rfl⟩ := hd.unique hd' (by omega)
  rfl

/-- Every date is the one that is found for its day. -/
theorem ofDays_toDays {d : Date} (h : d.WellFormed) : ofDays d.toDays = d :=
  eq_of_toDays_eq (wellFormed_ofDays _) h (toDays_ofDays _)

/-- A date lies in its year, or, before March, in the one that began in March of the year before. -/
theorem toDays_bounds {d : Date} (h : d.WellFormed) :
    yearStart (d.year - 1) ≤ d.toDays + daysToEpoch ∧
      d.toDays + daysToEpoch < yearStart (d.year + 1) := by
  obtain ⟨y, m, k, hd, rfl⟩ := exists_marchDay h
  have hyear := year_ofMarch y m k
  have hstart := monthStart_mono hd.month.1
  have hend := monthStart_add_monthLength_le y m
  have hzero : monthStart 0 = 0 := rfl
  have hbefore := yearStart_mono (show (ofMarch y m k).year - 1 ≤ y by split at hyear <;> omega)
  have hafter := yearStart_mono (show y + 1 ≤ (ofMarch y m k).year + 1 by split at hyear <;> omega)
  obtain ⟨hk, hk'⟩ := hd.day
  rw [hd.toDays_ofMarch]
  omega

/-! ## One day after the other -/

/-- The day after. -/
def next (d : Date) : Date :=
  if d.day < daysInMonth d.year d.month then ⟨d.year, d.month, d.day + 1⟩
  else if d.month < 12 then ⟨d.year, d.month + 1, 1⟩
  else ⟨d.year + 1, 1, 1⟩

/-- The day before. -/
def previous (d : Date) : Date :=
  if 1 < d.day then ⟨d.year, d.month, d.day - 1⟩
  else if 1 < d.month then ⟨d.year, d.month - 1, daysInMonth d.year (d.month - 1)⟩
  else ⟨d.year - 1, 12, 31⟩

/-- The date some days later, or earlier if the number is negative. -/
def addDays (d : Date) : Int → Date
  | .ofNat n => next^[n] d
  | .negSucc n => previous^[n + 1] d

theorem monthLength_pos (y : Int) {m : Int} (hm : 0 ≤ m ∧ m ≤ 11) : 0 < monthLength y m := by
  unfold monthLength
  by_cases hlt : m < 11
  · rw [if_pos hlt]
    unfold monthStart
    omega
  · obtain rfl : m = 11 := by omega
    have hstart : monthStart 11 = 337 := rfl
    rw [if_neg hlt, yearStart_succ, hstart]
    split <;> omega

/-- The day after is the next of its month, of its year, or of all years. -/
theorem exists_next {y m k : Int} (h : MarchDay y m k) :
    ∃ y' m' k', MarchDay y' m' k' ∧ (ofMarch y m k).next = ofMarch y' m' k' ∧
      yearStart y' + monthStart m' + k' = yearStart y + monthStart m + k + 1 := by
  obtain ⟨⟨hm, hm'⟩, hk, hk'⟩ := h
  have hday := day_ofMarch y m k
  have hlength := daysInMonth_ofMarch y k ⟨hm, hm'⟩
  by_cases hin : k + 1 < monthLength y m
  · refine ⟨y, m, k + 1, ⟨⟨hm, hm'⟩, by omega, hin⟩, ?_, by omega⟩
    rw [next, if_pos (by omega)]
    unfold ofMarch
    split <;> (congr 1; dsimp only; omega)
  · by_cases hmonth : m < 11
    · have hnext : 0 ≤ m + 1 ∧ m + 1 ≤ 11 := by omega
      refine ⟨y, m + 1, 0, ⟨hnext, le_rfl, monthLength_pos y hnext⟩, ?_, ?_⟩
      · rw [next, if_neg (by omega)]
        interval_cases m <;> rfl
      · rw [monthLength, if_pos hmonth] at hk' hin
        omega
    · obtain rfl : m = 11 := by omega
      have hnext : (0 : Int) ≤ 0 ∧ (0 : Int) ≤ 11 := by decide
      have hstart : monthStart 0 = 0 := rfl
      refine ⟨y + 1, 0, 0, ⟨hnext, le_rfl, monthLength_pos _ hnext⟩, ?_, ?_⟩
      · rw [next, if_neg (by omega)]
        rfl
      · rw [monthLength, if_neg hmonth] at hk' hin
        omega

theorem wellFormed_next {d : Date} (h : d.WellFormed) : d.next.WellFormed := by
  obtain ⟨y, m, k, hd, rfl⟩ := exists_marchDay h
  obtain ⟨y', m', k', hd', hnext, -⟩ := exists_next hd
  rw [hnext]
  exact hd'.wellFormed

/-- **The day after counts one more.** -/
theorem toDays_next {d : Date} (h : d.WellFormed) : d.next.toDays = d.toDays + 1 := by
  obtain ⟨y, m, k, hd, rfl⟩ := exists_marchDay h
  obtain ⟨y', m', k', hd', hnext, hcount⟩ := exists_next hd
  rw [hnext, hd'.toDays_ofMarch, hd.toDays_ofMarch]
  omega

theorem wellFormed_previous {d : Date} (h : d.WellFormed) : d.previous.WellFormed := by
  obtain ⟨⟨hm, hm'⟩, hd, hd'⟩ := h
  unfold previous
  by_cases hday : 1 < d.day
  · rw [if_pos hday]
    exact ⟨⟨hm, hm'⟩, Nat.le_sub_one_of_lt hday, (Nat.sub_le ..).trans hd'⟩
  · rw [if_neg hday]
    by_cases hmonth : 1 < d.month
    · rw [if_pos hmonth]
      exact ⟨⟨Nat.le_sub_one_of_lt hmonth, (Nat.sub_le ..).trans hm'⟩, (daysInMonth_bounds ..).1,
        le_rfl⟩
    · rw [if_neg hmonth]
      exact ⟨⟨(by decide : 1 ≤ 12), le_rfl⟩, (by decide : 1 ≤ 31), le_rfl⟩

theorem next_previous {d : Date} (h : d.WellFormed) : d.previous.next = d := by
  obtain ⟨year, month, day⟩ := d
  obtain ⟨⟨hm, hm'⟩, hd, hd'⟩ := h
  dsimp only at hm hm' hd hd'
  unfold previous
  by_cases hday : 1 < day
  · rw [if_pos hday, next, if_pos (show day - 1 < daysInMonth year month by omega)]
    congr 1
    exact Nat.sub_add_cancel hd
  · obtain rfl : day = 1 := by omega
    rw [if_neg hday]
    by_cases hmonth : 1 < month
    · rw [if_pos hmonth, next, if_neg (Nat.lt_irrefl _), if_pos (show month - 1 < 12 by omega)]
      congr 1
      exact Nat.sub_add_cancel hm
    · obtain rfl : month = 1 := by omega
      have hlast : ¬ 31 < daysInMonth (year - 1) 12 := Nat.lt_irrefl 31
      rw [if_neg hmonth, next, if_neg hlast, if_neg (Nat.lt_irrefl 12)]
      congr 1
      exact Int.sub_add_cancel year 1

/-- **The day before counts one less.** -/
theorem toDays_previous {d : Date} (h : d.WellFormed) : d.previous.toDays = d.toDays - 1 := by
  have hcount := toDays_next (wellFormed_previous h)
  rw [next_previous h] at hcount
  omega

/-- A step that changes the count by a fixed number is repeated by adding that number as often. -/
theorem iterate_eq {step : Date → Date} {c : Int}
    (hstep : ∀ d : Date, d.WellFormed → (step d).WellFormed ∧ (step d).toDays = d.toDays + c)
    {d : Date} (h : d.WellFormed) (n : Nat) : step^[n] d = ofDays (d.toDays + n * c) := by
  induction n with
  | zero =>
    have hnone : d.toDays + ((0 : Nat) : Int) * c = d.toDays := by simp
    rw [hnone, ofDays_toDays h]
    rfl
  | succ n ih =>
    obtain ⟨hwell, hcount⟩ := hstep _ (wellFormed_ofDays (d.toDays + n * c))
    rw [Function.iterate_succ_apply', ih]
    apply eq_of_toDays_eq hwell (wellFormed_ofDays _)
    rw [hcount, toDays_ofDays, toDays_ofDays, Int.natCast_succ, Int.add_mul]
    omega

/-- **Moving a date** is adding to its count. -/
theorem addDays_eq {d : Date} (h : d.WellFormed) (n : Int) :
    d.addDays n = ofDays (d.toDays + n) := by
  cases n with
  | ofNat n =>
    have hforth := iterate_eq (fun d hd => ⟨wellFormed_next hd, toDays_next hd⟩) h n
    rwa [Int.mul_one] at hforth
  | negSucc n =>
    have hback := iterate_eq (c := -1)
      (fun d hd => ⟨wellFormed_previous hd, toDays_previous hd⟩) h (n + 1)
    rwa [Int.mul_neg_one] at hback

end Date
end HubDispatch
