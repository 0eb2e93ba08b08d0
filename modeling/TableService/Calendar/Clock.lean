/-
  Times of a day and moments, in microseconds.

  * `clockText` writes a time since midnight, `momentDate` and `momentClock` split a moment, which
    is a time since the midnight at which the year 2000 began.
-/
import TableService.Calendar.Date

namespace TableService.Calendar

/-- The microseconds of a day. -/
def dayLength : Nat := 86400000000

/-- The part of a second, in three or six digits, with the point; nothing where it is zero. -/
def fractionText (micros : Nat) : List Char :=
  if micros = 0 then []
  else if micros % 1000 = 0 then '.' :: paddedDigits 3 (micros / 1000)
  else '.' :: paddedDigits 6 micros

/-- A time since midnight. -/
def clockText (micros : Nat) : List Char :=
  let seconds := micros / 1000000
  paddedDigits 2 (seconds / 3600) ++ ':' :: paddedDigits 2 (seconds / 60 % 60) ++
    ':' :: paddedDigits 2 (seconds % 60) ++ fractionText (micros % 1000000)

/-- The date of a moment. -/
def momentDate (micros : Int) : Date := Date.ofDays (micros / dayLength)

/-- The time since midnight of a moment. -/
def momentClock (micros : Int) : Nat := (micros % dayLength).toNat

/-- A moment, the date and the time with something between. -/
def momentText (between : Char) (micros : Int) : List Char :=
  (momentDate micros).text ++ between :: clockText (momentClock micros)

end TableService.Calendar
