/-
  Dates of the Gregorian calendar, also before its introduction and before the year 1.

  * A `Date` is valid by its type.
  * `Date.days` counts days since the first of January 2000; `Date.ofDays` is the date of a count,
    and `days_ofDays` says that it is the right one.

  The count goes by years that begin in March: the leap day is the last of such a year, and the
  lengths of its months repeat every five months.
-/
import TableService.Number.Shortest

namespace TableService.Calendar

/-- Every fourth year has a leap day, except three of the four turns of a century. -/
def isLeap (year : Int) : Bool := year % 4 = 0 && (year % 100 ≠ 0 || year % 400 = 0)

/-- The number of days in a month. -/
def monthLength (year : Int) (month : Nat) : Nat :=
  if month = 2 then (if isLeap year then 29 else 28)
  else if month = 4 ∨ month = 6 ∨ month = 9 ∨ month = 11 then 30
  else 31

/-- A day of the calendar. -/
structure Date where
  year : Int
  month : Nat
  day : Nat
  month_valid : 1 ≤ month ∧ month ≤ 12
  day_valid : 1 ≤ day ∧ day ≤ monthLength year month
  deriving DecidableEq, Repr

namespace Date

/-- The years that are kept. -/
def leastYear : Int := -262143

/-- The last year that is kept. -/
def greatestYear : Int := 262142

/-- The year of the date is kept. -/
def isKept (d : Date) : Bool := leastYear ≤ d.year && d.year ≤ greatestYear

/-- The date of a year that is kept, a month and a day. -/
def of? (year : Int) (month day : Nat) : Option Date :=
  if h : (1 ≤ month ∧ month ≤ 12) ∧ 1 ≤ day ∧ day ≤ monthLength year month then
    let d : Date := ⟨year, month, day, h.1, h.2⟩
    if d.isKept then some d else none
  else none

/-- The days from the first of March of the year 0 to the first of January 2000. -/
def epoch : Int := 730425

/-- The days before the first of March of a year, from that of the year 0. -/
def daysBefore (year : Int) : Int := 365 * year + year / 4 - year / 100 + year / 400

/-- The days since the first of January 2000. -/
def days (d : Date) : Int :=
  let march : Nat := if d.month ≤ 2 then d.month + 9 else d.month - 3
  daysBefore (if d.month ≤ 2 then d.year - 1 else d.year) + ((153 * march + 2) / 5 : Nat) +
    d.day - 1 - epoch

/-- A day of a period of four centuries: the year in it, and the day of that year. -/
def yearOfDay (n : Nat) : Nat × Nat :=
  let century := min (n / 36524) 3
  let inCentury := n - 36524 * century
  let cycle := inCentury / 1461
  let inCycle := inCentury - 1461 * cycle
  let year := min (inCycle / 365) 3
  (100 * century + 4 * cycle + year, inCycle - 365 * year)

/-- A day of a period by its century, its cycle of four years and the year in that. -/
theorem yearOfDay_parts {n : Nat} (h : n < 146097) : ∃ c q y d : Nat,
    c ≤ 3 ∧ q ≤ 24 ∧ y ≤ 3 ∧ (d < 365 ∨ d = 365 ∧ y = 3 ∧ (q < 24 ∨ c = 3)) ∧
      n = 36524 * c + 1461 * q + 365 * y + d ∧ yearOfDay n = (100 * c + 4 * q + y, d) := by
  refine ⟨_, _, _, _, ?_, ?_, ?_, ?_, ?_, rfl⟩
  · exact Nat.min_le_right _ _
  · omega
  · exact Nat.min_le_right _ _
  · omega
  · omega

theorem yearOfDay_day {n : Nat} (h : n < 146097) (era : Int) :
    (yearOfDay n).2 < 365 ∨ (yearOfDay n).2 = 365 ∧
      isLeap ((yearOfDay n).1 + 400 * era + 1) = true := by
  obtain ⟨c, q, y, d, hc, hq, hy, hd, -, eq⟩ := yearOfDay_parts h
  rw [eq]
  rcases hd with hd | ⟨hd, rfl, hqc⟩
  · exact .inl hd
  · refine .inr ⟨hd, ?_⟩
    simp only [isLeap, Bool.and_eq_true, Bool.or_eq_true, decide_eq_true_eq]
    push_cast
    omega

theorem daysBefore_yearOfDay {n : Nat} (h : n < 146097) (era : Int) :
    daysBefore ((yearOfDay n).1 + 400 * era) + (yearOfDay n).2 = n + 146097 * era := by
  obtain ⟨c, q, y, d, hc, hq, hy, hd, hn, eq⟩ := yearOfDay_parts h
  rw [eq]
  have fours : ((100 * c + 4 * q + y : Nat) + 400 * era : Int) / 4 = 25 * c + q + 100 * era := by
    omega
  have hundreds : ((100 * c + 4 * q + y : Nat) + 400 * era : Int) / 100 = c + 4 * era := by
    omega
  have all : ((100 * c + 4 * q + y : Nat) + 400 * era : Int) / 400 = era := by omega
  simp only [daysBefore, fours, hundreds, all]
  omega

/-- The month of a day of a year that begins in March, March being `0`. -/
def marchMonth (n : Nat) : Nat := (5 * n + 2) / 153

/-- The days of such a year before a month. -/
def daysBeforeMonth (march : Nat) : Nat := (153 * march + 2) / 5

theorem marchMonth_le {n : Nat} (h : n ≤ 365) : marchMonth n ≤ 11 := by
  simp only [marchMonth]
  omega

theorem daysBeforeMonth_le (n : Nat) : daysBeforeMonth (marchMonth n) ≤ n := by
  simp only [daysBeforeMonth, marchMonth]
  omega

theorem lt_daysBeforeMonth (n : Nat) : n < daysBeforeMonth (marchMonth n + 1) := by
  simp only [daysBeforeMonth, marchMonth]
  omega

/-- The number of a month in a year that begins in January. -/
def monthNumber (march : Nat) : Nat := if march < 10 then march + 3 else march - 9

theorem monthLength_monthNumber (year : Int) {march : Nat} (h : march ≤ 10) :
    monthLength year (monthNumber march) =
      daysBeforeMonth (march + 1) - daysBeforeMonth march := by
  have : march = 0 ∨ march = 1 ∨ march = 2 ∨ march = 3 ∨ march = 4 ∨ march = 5 ∨ march = 6 ∨
    march = 7 ∨ march = 8 ∨ march = 9 ∨ march = 10 := by omega
  rcases this with rfl | rfl | rfl | rfl | rfl | rfl | rfl | rfl | rfl | rfl | rfl <;> rfl

/-- A day of the year that begins in March of `year`. -/
def ofMarch (year : Int) (n : Nat) (h : n < 365 ∨ n = 365 ∧ isLeap (year + 1) = true) : Date where
  year := if marchMonth n < 10 then year else year + 1
  month := monthNumber (marchMonth n)
  day := n - daysBeforeMonth (marchMonth n) + 1
  month_valid := by
    have := marchMonth_le (n := n) (by omega)
    simp only [monthNumber]
    split <;> omega
  day_valid := by
    have lower := daysBeforeMonth_le n
    have upper := lt_daysBeforeMonth n
    refine ⟨by omega, ?_⟩
    by_cases m : marchMonth n ≤ 10
    · rw [monthLength_monthNumber _ m]
      omega
    · have last : marchMonth n = 11 := by
        have := marchMonth_le (n := n) (by omega)
        omega
      have february (y : Int) : monthLength y (monthNumber 11) = if isLeap y then 29 else 28 := rfl
      have before : daysBeforeMonth 11 = 337 := rfl
      rw [last, february, before, if_neg (show ¬ 11 < 10 by decide)]
      rcases h with h | ⟨h, leap⟩
      · split <;> omega
      · rw [if_pos leap]
        omega

theorem days_ofMarch {year : Int} {n : Nat} (h) :
    (ofMarch year n h).days = daysBefore year + n - epoch := by
  have lower := daysBeforeMonth_le n
  have := marchMonth_le (n := n) (by omega)
  simp only [days, ofMarch, monthNumber]
  by_cases early : marchMonth n < 10
  · have big : ¬ marchMonth n + 3 ≤ 2 := by omega
    simp only [early, if_true, big, if_false, daysBeforeMonth, Nat.add_sub_cancel] at *
    omega
  · have small : marchMonth n - 9 ≤ 2 := by omega
    have back : marchMonth n - 9 + 9 = marchMonth n := by omega
    simp only [early, if_false, small, if_true, back, Int.add_sub_cancel, daysBeforeMonth] at *
    omega

/-- The date of a count of days since the first of January 2000. -/
def ofDays (n : Int) : Date :=
  let fromMarch := n + epoch
  let era := fromMarch / 146097
  let inEra := (fromMarch % 146097).toNat
  ofMarch ((yearOfDay inEra).1 + 400 * era) (yearOfDay inEra).2
    (yearOfDay_day (by omega) era)

theorem days_ofDays (n : Int) : (ofDays n).days = n := by
  rw [ofDays, days_ofMarch, daysBefore_yearOfDay (by omega)]
  omega

/-! ## Text -/

/-- A year in at least four digits; one of more digits or before the year 0 has a sign. -/
def yearText (year : Int) : List Char :=
  (if year < 0 then ['-'] else if 9999 < year then ['+'] else []) ++ paddedDigits 4 year.natAbs

/-- The year, the month and the day. -/
def text (d : Date) : List Char :=
  yearText d.year ++ '-' :: paddedDigits 2 d.month ++ '-' :: paddedDigits 2 d.day

end Date

end TableService.Calendar
