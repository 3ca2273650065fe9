import Mathlib.Algebra.Order.Group.Unbundled.Int
import Mathlib.Data.List.GetD
import Mathlib.Tactic.IntervalCases

/-!
# The calendar

Dates are counted from the first of January of the year 1 of the proleptic Gregorian calendar. A year
ends the days of the years before it, so the number of a day determines its year, and within a year
the number of a day determines the month and the day, which is a finite check.

`ord2ymd` reads the date off the number of a day in cycles of 400, 100, 4 and 1 years. It is the
inverse of `ymd2ord` on dates (`ord2ymd_ymd2ord`, `ymd2ord_ord2ymd`).
-/

namespace DriftGuardX.Calendar

def isLeap (year : ℕ) : Bool :=
  year % 4 = 0 && (year % 100 ≠ 0 || year % 400 = 0)

/-- The days of the years before a year. -/
def daysBeforeYear (year : ℕ) : ℕ :=
  (year - 1) * 365 + (year - 1) / 4 - (year - 1) / 100 + (year - 1) / 400

/-- The days of a month in a year that is leap or not. -/
def monthLength (leap : Bool) (month : ℕ) : ℕ :=
  if month = 2 ∧ leap = true then 29
  else [0, 31, 28, 31, 30, 31, 30, 31, 31, 30, 31, 30, 31].getD month 0

/-- The days of a year before a month. -/
def monthStart (leap : Bool) (month : ℕ) : ℕ :=
  [0, 0, 31, 59, 90, 120, 151, 181, 212, 243, 273, 304, 334].getD month 0
    + if 2 < month ∧ leap = true then 1 else 0

def daysInMonth (year month : ℕ) : ℕ := monthLength (isLeap year) month

def daysBeforeMonth (year month : ℕ) : ℕ := monthStart (isLeap year) month

/-- The number of a day. -/
def ymd2ord (year month day : ℕ) : ℕ :=
  daysBeforeYear year + daysBeforeMonth year month + day

/-- The month and the day of a day of a year, both counted from zero in days. The month is guessed
from above. -/
def monthDay (leap : Bool) (days : ℕ) : ℕ × ℕ :=
  if monthStart leap ((days + 50) / 32) ≤ days then
    ((days + 50) / 32, days - monthStart leap ((days + 50) / 32) + 1)
  else
    ((days + 50) / 32 - 1, days - monthStart leap ((days + 50) / 32 - 1) + 1)

/-- The date of the number of a day. -/
def ord2ymd (n : ℕ) : ℕ × ℕ × ℕ :=
  let n400 := (n - 1) / 146097
  let r400 := (n - 1) % 146097
  let n100 := r400 / 36524
  let r100 := r400 % 36524
  let n4 := r100 / 1461
  let r4 := r100 % 1461
  let n1 := r4 / 365
  let r1 := r4 % 365
  let year := n400 * 400 + 1 + (n100 * 100 + n4 * 4 + n1)
  -- the last day of a cycle of 4 or of 400 years
  if n1 = 4 ∨ n100 = 4 then (year - 1, 12, 31)
  else (year, monthDay (n1 = 3 ∧ (n4 ≠ 24 ∨ n100 = 3)) r1)

/-- The dates of the calendar. -/
structure IsDate (year month day : ℕ) : Prop where
  one_le_year : 1 ≤ year
  year_le : year ≤ 9999
  one_le_month : 1 ≤ month
  month_le : month ≤ 12
  one_le_day : 1 ≤ day
  day_le : day ≤ daysInMonth year month

instance (year month day : ℕ) : Decidable (IsDate year month day) :=
  decidable_of_iff (1 ≤ year ∧ year ≤ 9999 ∧ 1 ≤ month ∧ month ≤ 12 ∧ 1 ≤ day ∧
      day ≤ daysInMonth year month)
    ⟨fun ⟨h₁, h₂, h₃, h₄, h₅, h₆⟩ ↦ ⟨h₁, h₂, h₃, h₄, h₅, h₆⟩,
      fun ⟨h₁, h₂, h₃, h₄, h₅, h₆⟩ ↦ ⟨h₁, h₂, h₃, h₄, h₅, h₆⟩⟩

/-- The number of the last day of the calendar. -/
def maxOrdinal : ℕ := 3652059

/-! ## Days of a year -/

def yearLength (leap : Bool) : ℕ := if leap then 366 else 365

theorem monthDay_spec (leap : Bool) {days : ℕ} (h : days < yearLength leap) :
    1 ≤ (monthDay leap days).1 ∧ (monthDay leap days).1 ≤ 12 ∧ 1 ≤ (monthDay leap days).2 ∧
      (monthDay leap days).2 ≤ monthLength leap (monthDay leap days).1 ∧
      monthStart leap (monthDay leap days).1 + (monthDay leap days).2 = days + 1 := by
  have hall : ∀ leap, ∀ days < yearLength leap, 1 ≤ (monthDay leap days).1 ∧
      (monthDay leap days).1 ≤ 12 ∧ 1 ≤ (monthDay leap days).2 ∧
      (monthDay leap days).2 ≤ monthLength leap (monthDay leap days).1 ∧
      monthStart leap (monthDay leap days).1 + (monthDay leap days).2 = days + 1 := by
    decide +kernel
  exact hall leap days h

theorem monthDay_eq (leap : Bool) {month day : ℕ} (hmonth : 1 ≤ month) (hmonth' : month ≤ 12)
    (hday : 1 ≤ day) (hday' : day ≤ monthLength leap month) :
    monthStart leap month + (day - 1) < yearLength leap ∧
      monthDay leap (monthStart leap month + (day - 1)) = (month, day) := by
  have hall : ∀ leap, ∀ month < 13, ∀ day < 32, 1 ≤ month ∧ 1 ≤ day ∧
      day ≤ monthLength leap month → monthStart leap month + (day - 1) < yearLength leap ∧
        monthDay leap (monthStart leap month + (day - 1)) = (month, day) := by
    decide +kernel
  have hlt : ∀ leap, ∀ month < 13, monthLength leap month < 32 := by decide
  have hmonth' := Nat.lt_succ_of_le hmonth'
  exact hall leap month hmonth' day (hday'.trans_lt (hlt leap month hmonth')) ⟨hmonth, hday, hday'⟩

theorem daysInMonth_le (year month : ℕ) : daysInMonth year month ≤ 31 := by
  have hall : ∀ leap, ∀ month < 13, monthLength leap month ≤ 31 := by decide
  obtain hlt | hge := Nat.lt_or_ge month 13
  · exact hall _ month hlt
  · have hlast : ∀ leap, monthLength leap month = 0 := by
      intro leap
      rw [monthLength, if_neg (by omega), List.getD_eq_default _ _ hge]
    rw [daysInMonth, hlast]
    exact Nat.zero_le _

/-! ## Years -/

theorem daysBeforeYear_succ {year : ℕ} (h : 1 ≤ year) :
    daysBeforeYear (year + 1) = daysBeforeYear year + yearLength (isLeap year) := by
  obtain ⟨k, rfl⟩ := Nat.exists_eq_add_of_le' h
  have h4 : (k + 1) / 4 = k / 4 + if (k + 1) % 4 = 0 then 1 else 0 := by split <;> omega
  have h100 : (k + 1) / 100 = k / 100 + if (k + 1) % 100 = 0 then 1 else 0 := by split <;> omega
  have h400 : (k + 1) / 400 = k / 400 + if (k + 1) % 400 = 0 then 1 else 0 := by split <;> omega
  have hleap : isLeap (k + 1) = true ↔
      (k + 1) % 4 = 0 ∧ ((k + 1) % 100 ≠ 0 ∨ (k + 1) % 400 = 0) := by simp [isLeap]
  have hle : k / 100 ≤ k / 4 := by omega
  have h100_4 : (k + 1) % 100 = 0 → (k + 1) % 4 = 0 := by omega
  have h400_100 : (k + 1) % 400 = 0 → (k + 1) % 100 = 0 := by omega
  simp only [daysBeforeYear, yearLength, hleap, Nat.add_sub_cancel, h4, h100, h400]
  by_cases hr400 : (k + 1) % 400 = 0
  · simp only [hr400, h400_100 hr400, h100_4 (h400_100 hr400), ne_eq, not_true_eq_false, or_true,
      and_self, if_true]
    omega
  by_cases hr100 : (k + 1) % 100 = 0
  · simp only [hr400, hr100, h100_4 hr100, ne_eq, not_true_eq_false, or_self, and_false, if_true,
      if_false]
    omega
  by_cases hr4 : (k + 1) % 4 = 0
  · simp only [hr400, hr100, hr4, ne_eq, not_false_eq_true, or_false, and_self, if_true, if_false]
    omega
  · simp only [hr400, hr100, hr4, ne_eq, not_false_eq_true, or_false, and_true, if_false]
    omega

theorem daysBeforeYear_mono : Monotone daysBeforeYear := by
  apply monotone_nat_of_le_succ
  intro year
  obtain rfl | hyear := Nat.eq_zero_or_pos year
  · exact le_of_eq (by decide)
  · rw [daysBeforeYear_succ hyear]
    exact Nat.le_add_right _ _

theorem ymd2ord_bounds {year month day : ℕ} (h : IsDate year month day) :
    daysBeforeYear year < ymd2ord year month day ∧
      ymd2ord year month day ≤ daysBeforeYear (year + 1) := by
  have hday := h.one_le_day
  have hlt := (monthDay_eq (isLeap year) h.one_le_month h.month_le h.one_le_day h.day_le).1
  rw [daysBeforeYear_succ h.one_le_year, ymd2ord, daysBeforeMonth]
  omega

theorem ymd2ord_pos {year month day : ℕ} (h : IsDate year month day) :
    1 ≤ ymd2ord year month day := by
  have := (ymd2ord_bounds h).1
  omega

theorem ymd2ord_le {year month day : ℕ} (h : IsDate year month day) :
    ymd2ord year month day ≤ maxOrdinal := by
  have hyear : daysBeforeYear (year + 1) ≤ daysBeforeYear 10000 :=
    daysBeforeYear_mono (Nat.succ_le_succ h.year_le)
  exact (ymd2ord_bounds h).2.trans (hyear.trans (by decide))

/-! ## Reading off the date -/

section Cycles

variable {a b c e : ℕ}

theorem daysBeforeYear_cycles (hb : b ≤ 3) (hc : c ≤ 24) (he : e ≤ 3) :
    daysBeforeYear (400 * a + 100 * b + 4 * c + e + 1)
      = 146097 * a + 36524 * b + 1461 * c + 365 * e := by
  have h4 : (400 * a + 100 * b + 4 * c + e) / 4 = 100 * a + 25 * b + c := by omega
  have h100 : (400 * a + 100 * b + 4 * c + e) / 100 = 4 * a + b := by omega
  have h400 : (400 * a + 100 * b + 4 * c + e) / 400 = a := by omega
  rw [daysBeforeYear, Nat.add_sub_cancel, h4, h100, h400]
  omega

/-- The last year of a cycle of 4 years is leap, but the last year of a cycle of 100 years only if it
is also the last of 400. -/
theorem isLeap_cycles (hb : b ≤ 3) (hc : c ≤ 24) (he : e ≤ 3) :
    isLeap (400 * a + 100 * b + 4 * c + e + 1) = decide (e = 3 ∧ (c ≠ 24 ∨ b = 3)) := by
  have h4 : (400 * a + 100 * b + 4 * c + e + 1) % 4 = 0 ↔ e = 3 := by omega
  have h100 : (400 * a + 100 * b + 4 * c + e + 1) % 100 = 0 ↔ c = 24 ∧ e = 3 := by omega
  have h400 : (400 * a + 100 * b + 4 * c + e + 1) % 400 = 0 ↔ b = 3 ∧ c = 24 ∧ e = 3 := by omega
  rw [isLeap, ← Bool.decide_or, ← Bool.decide_and]
  simp only [ne_eq, h4, h100, h400]
  refine decide_eq_decide.mpr (and_congr_right fun he ↦ ?_)
  rw [he, and_iff_left rfl]
  omega

end Cycles

theorem exists_year (n : ℕ) : ∃ year days, 1 ≤ year ∧ days < yearLength (isLeap year) ∧
    n = daysBeforeYear year + days ∧ ord2ymd (n + 1) = (year, monthDay (isLeap year) days) := by
  have hlast : monthDay true 365 = (12, 31) := by decide
  have hlength : ∀ leap, 365 ≤ yearLength leap := by decide
  simp only [ord2ymd, Nat.add_sub_cancel]
  obtain ⟨a, ha⟩ : ∃ a, n / 146097 = a := ⟨_, rfl⟩
  obtain ⟨b, hb⟩ : ∃ b, n % 146097 / 36524 = b := ⟨_, rfl⟩
  obtain ⟨c, hc⟩ : ∃ c, n % 146097 % 36524 / 1461 = c := ⟨_, rfl⟩
  obtain ⟨e, he⟩ : ∃ e, n % 146097 % 36524 % 1461 / 365 = e := ⟨_, rfl⟩
  obtain ⟨r, hr⟩ : ∃ r, n % 146097 % 36524 % 1461 % 365 = r := ⟨_, rfl⟩
  rw [ha, hb, hc, he, hr]
  have hn : n = 146097 * a + 36524 * b + 1461 * c + 365 * e + r := by omega
  have hr' : r < 365 := by omega
  split_ifs with hcycle
  -- the last day of a cycle of 4 or of 400 years: the last day of a leap year
  · obtain ⟨b', c', hb', hc', hleap, hyear, hdays⟩ : ∃ b' c', b' ≤ 3 ∧ c' ≤ 24 ∧
        (c' ≠ 24 ∨ b' = 3) ∧
        a * 400 + 1 + (b * 100 + c * 4 + e) - 1 = 400 * a + 100 * b' + 4 * c' + 3 + 1 ∧
        n = 146097 * a + 36524 * b' + 1461 * c' + 365 * 3 + 365 := by
      by_cases hb4 : b = 4
      · exact ⟨3, 24, by omega⟩
      · exact ⟨b, c, by omega⟩
    have hisLeap : isLeap (400 * a + 100 * b' + 4 * c' + 3 + 1) = true := by
      rw [isLeap_cycles hb' hc' le_rfl]
      exact decide_eq_true ⟨rfl, hleap⟩
    refine ⟨400 * a + 100 * b' + 4 * c' + 3 + 1, 365, by omega, ?_, ?_, ?_⟩
    · rw [hisLeap]
      decide
    · rw [daysBeforeYear_cycles hb' hc' le_rfl, hdays]
    · rw [hisLeap, hlast, hyear]
  · have hb' : b ≤ 3 := by omega
    have hc' : c ≤ 24 := by omega
    have he' : e ≤ 3 := by omega
    have hyear : a * 400 + 1 + (b * 100 + c * 4 + e) = 400 * a + 100 * b + 4 * c + e + 1 := by omega
    refine ⟨400 * a + 100 * b + 4 * c + e + 1, r, by omega, ?_, ?_, ?_⟩
    · exact hr'.trans_le (hlength _)
    · rw [daysBeforeYear_cycles hb' hc' he', hn]
    · rw [isLeap_cycles hb' hc' he', hyear]

/-- **Numbering the date of a number gives the number back**, and the date is one of the calendar. -/
theorem ymd2ord_ord2ymd {n : ℕ} (hpos : 1 ≤ n) (hmax : n ≤ maxOrdinal) :
    IsDate (ord2ymd n).1 (ord2ymd n).2.1 (ord2ymd n).2.2 ∧
      ymd2ord (ord2ymd n).1 (ord2ymd n).2.1 (ord2ymd n).2.2 = n := by
  obtain ⟨k, rfl⟩ := Nat.exists_eq_add_of_le' hpos
  obtain ⟨year, days, hyear, hdays, hk, hord⟩ := exists_year k
  obtain ⟨h₁, h₂, h₃, h₄, hsum⟩ := monthDay_spec (isLeap year) hdays
  rw [hord]
  have hle : year ≤ 9999 := by
    by_contra hgt
    have hmono : daysBeforeYear 10000 ≤ daysBeforeYear year := daysBeforeYear_mono (by omega)
    have hlast : daysBeforeYear 10000 = maxOrdinal := by decide
    omega
  refine ⟨⟨hyear, hle, h₁, h₂, h₃, h₄⟩, ?_⟩
  simp only [ymd2ord, daysBeforeMonth]
  omega

/-- **The number of a date determines the date**, which is what is read off. -/
theorem ord2ymd_ymd2ord {year month day : ℕ} (h : IsDate year month day) :
    ord2ymd (ymd2ord year month day) = (year, month, day) := by
  have hpos := ymd2ord_pos h
  obtain ⟨hlower, hupper⟩ := ymd2ord_bounds h
  have hrest := (monthDay_eq (isLeap year) h.one_le_month h.month_le h.one_le_day h.day_le).2
  obtain ⟨k, hk⟩ := Nat.exists_eq_add_of_le' hpos
  obtain ⟨year', days, hyear', hdays, hk', hord⟩ := exists_year k
  have hsucc' := daysBeforeYear_succ hyear'
  have hsame : year' = year := by
    obtain hlt | heq | hgt := Nat.lt_trichotomy year' year
    · have hmono : daysBeforeYear (year' + 1) ≤ daysBeforeYear year := daysBeforeYear_mono hlt
      omega
    · exact heq
    · have hmono : daysBeforeYear (year + 1) ≤ daysBeforeYear year' := daysBeforeYear_mono hgt
      omega
  subst hsame
  have hday := h.one_le_day
  have hdays' : days = monthStart (isLeap year') month + (day - 1) := by
    rw [ymd2ord, daysBeforeMonth] at hk
    omega
  rw [hk, hord, hdays', hrest]

example : ymd2ord 2024 2 29 = 738945 := by decide

end DriftGuardX.Calendar
