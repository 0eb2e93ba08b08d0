/-
  Days are counted one after another.

  * `Date.next`: the day after a date, by the lengths of the months.
  * `days_first`, `days_next`: the first day of the year 2000 has the number zero, and the day after a
    date has the next number.
  * `days_year`: the number of a day and its year.
  * `newYear`, `isKept_ofDays_iff`: the first day of a year, and the days whose years are kept.
-/
import Mathlib.Tactic.IntervalCases
import Mathlib.Tactic.SplitIfs
import TableService.Calendar.Date

namespace TableService.Calendar.Date

theorem isKept_iff {d : Date} : d.isKept = true ↔ -262143 ≤ d.year ∧ d.year ≤ 262142 := by
  rw [isKept, Bool.and_eq_true, decide_eq_true_iff, decide_eq_true_iff]
  rfl

/-! ## Months and years -/

theorem monthLength_pos (year : Int) (month : Nat) : 1 ≤ monthLength year month := by
  unfold monthLength
  split_ifs <;> omega

theorem monthLength_le (year : Int) (month : Nat) : monthLength year month ≤ 31 := by
  unfold monthLength
  split_ifs <;> omega

/-- A year has 365 days, and one more if it is a leap year. -/
theorem daysBefore_pred (year : Int) :
    daysBefore year = daysBefore (year - 1) + if isLeap year then 366 else 365 := by
  unfold daysBefore isLeap
  split_ifs with h <;> simp only [Bool.and_eq_true, Bool.or_eq_true, decide_eq_true_eq] at h <;> omega

/-- The days before a month, from the first of March of the year 0. -/
def monthStart (year : Int) (month : Nat) : Int :=
  daysBefore (if month ≤ 2 then year - 1 else year) +
    ((153 * (if month ≤ 2 then month + 9 else month - 3) + 2) / 5 : Nat)

theorem days_eq (d : Date) : d.days = monthStart d.year d.month + d.day - 1 - epoch := rfl

/-- A month goes on for its length. -/
theorem monthStart_succ (year : Int) {month : Nat} (hfirst : 1 ≤ month) (hlast : month < 12) :
    monthStart year (month + 1) = monthStart year month + monthLength year month := by
  have hpred := daysBefore_pred year
  unfold monthStart monthLength
  by_cases hleap : isLeap year = true
  · rw [if_pos hleap] at hpred
    interval_cases month <;> simp [hleap] <;> omega
  · rw [if_neg hleap] at hpred
    interval_cases month <;> simp [hleap] <;> omega

theorem monthStart_january (year : Int) : monthStart (year + 1) 1 = monthStart year 12 + 31 := by
  simp [monthStart]
  omega

/-! ## Days -/

/-- The day after a date: in the same month if it goes on, or the first of the next one. -/
def next (d : Date) : Date :=
  if h : d.day < monthLength d.year d.month then
    ⟨d.year, d.month, d.day + 1, d.month_valid, by omega, h⟩
  else if h : d.month < 12 then ⟨d.year, d.month + 1, 1, by omega, by omega, monthLength_pos _ _⟩
  else ⟨d.year + 1, 1, 1, by decide, by decide, monthLength_pos _ _⟩

/-- The first of January 2000. -/
def first : Date := ⟨2000, 1, 1, by decide, by decide⟩

theorem days_first : first.days = 0 := by decide

/-- **The day after a date has the next number.** -/
theorem days_next (d : Date) : d.next.days = d.days + 1 := by
  have hday := d.day_valid
  have hmonth := d.month_valid
  unfold next
  split_ifs with hsame hyear <;> simp only [days_eq]
  · omega
  · have hstart := monthStart_succ d.year hmonth.1 hyear
    omega
  · have hstart := monthStart_january d.year
    have hdecember : d.month = 12 := by omega
    have hlength : monthLength d.year 12 = 31 := rfl
    rw [hdecember] at hday hsame ⊢
    omega

/-- A year has 365 days and 97 leap days in four centuries. -/
theorem days_year (d : Date) :
    146097 * (d.year - 2001) ≤ 400 * d.days ∧ 400 * d.days ≤ 146097 * (d.year - 1998) := by
  have hday := d.day_valid
  have hmonth := d.month_valid
  have hlength := monthLength_le d.year d.month
  rw [days_eq]
  unfold monthStart daysBefore epoch
  split_ifs <;> omega

/-! ## Years -/

/-- The number of the first of January of a year. -/
def newYear (year : Int) : Int := monthStart year 1 - epoch

/-- A day is not before the first of its year, and before the first of the next. -/
theorem newYear_bounds (d : Date) : newYear d.year ≤ d.days ∧ d.days < newYear (d.year + 1) := by
  have hday := d.day_valid
  have hmonth := d.month_valid
  have hlength := monthLength_le d.year d.month
  have hjanuary := monthStart_january d.year
  have hpred := daysBefore_pred d.year
  have hnext : daysBefore d.year ≥ daysBefore (d.year - 1) + 365 := by
    rw [hpred]
    split_ifs <;> omega
  rw [days_eq, newYear, newYear, hjanuary]
  simp only [monthStart, Nat.one_le_ofNat, if_true]
  split_ifs <;> omega

theorem newYear_mono {year year' : Int} (h : year ≤ year') : newYear year ≤ newYear year' := by
  unfold newYear monthStart daysBefore
  simp only [Nat.one_le_ofNat, if_true]
  omega

/-- **The days whose years are kept** follow one another. -/
theorem isKept_ofDays_iff (n : Int) :
    (ofDays n).isKept = true ↔ newYear (-262143) ≤ n ∧ n < newYear 262143 := by
  obtain ⟨hfirst, hnext⟩ := newYear_bounds (ofDays n)
  rw [days_ofDays] at hfirst hnext
  rw [isKept_iff]
  constructor
  · rintro ⟨hlower, hupper⟩
    exact ⟨(newYear_mono hlower).trans hfirst, hnext.trans_le (newYear_mono (by omega))⟩
  · rintro ⟨hlower, hupper⟩
    by_contra hkept
    rcases not_and_or.1 hkept with hbefore | hafter
    · have := newYear_mono (show (ofDays n).year + 1 ≤ -262143 by omega)
      omega
    · have := newYear_mono (show 262143 ≤ (ofDays n).year by omega)
      omega

end TableService.Calendar.Date
