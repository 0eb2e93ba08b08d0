/-
  Dates, times and moments in texts.

  * `dateOf`, `clockOf` and `momentOf` read numbers that may have blanks in front of them and need
    not have all their digits; the fraction of a second may have any number of digits.
  * `zonedOf` reads a moment in the profile of RFC 3339: all digits are written, and an offset from
    universal time follows.

  A second has the number 60 where it is a leap second; it is counted as the first second of the
  next minute.  Times are in nanoseconds, as far as a text says them.
-/
import TableService.Calendar.Clock
import TableService.Text.Blank

namespace TableService.Calendar

/-- Reads from the front of a text. -/
abbrev Reader (α : Type) := StateT (List Char) Option α

namespace Reader

variable {α : Type}

/-- Reads all of a text. -/
def whole (r : Reader α) (cs : List Char) : Option α :=
  (r.run cs).bind fun (a, rest) => if rest.isEmpty then some a else none

/-- One character. -/
def char (c : Char) : Reader Unit := do
  match ← get with
  | d :: rest => if d = c then set rest else failure
  | [] => failure

/-- One character with a property. -/
def charThat (p : Char → Bool) : Reader Char := do
  match ← get with
  | d :: rest => if p d then do set rest; return d else failure
  | [] => failure

/-- Blanks, if there are any. -/
def blanks : Reader Unit := modify fun cs => cs.dropWhile Text.isBlank

/-- Digits, as many as there are up to a limit. -/
def digits (least most : Nat) : Reader (List Char) := do
  let ds := ((← get).take most).takeWhile Char.isDigit
  if ds.length < least then failure
  modify fun cs => cs.drop ds.length
  return ds

/-- A number between bounds. -/
def number (least most first last : Nat) : Reader Nat := do
  let n := digitsValue (← digits least most)
  if first ≤ n && n ≤ last then return n else failure

/-- The fraction of a second, in nanoseconds; zero where there is none. -/
def fraction : Reader Nat := do
  match ← get with
  | '.' :: rest =>
    set rest
    let ds ← digits 1 9
    modify fun cs => cs.dropWhile Char.isDigit
    return digitsValue ds * Nat.pow 10 (9 - ds.length)
  | _ => return 0

/-! ## Dates and times with blanks -/

/-- A number of one or two digits after blanks. -/
def part (first last : Nat) : Reader Nat := do
  blanks
  number 1 2 first last

/-- A year: up to four digits, or any number of digits behind a sign. -/
def year : Reader Int := do
  blanks
  match ← get with
  | '-' :: rest =>
    set rest
    return -(digitsValue (← digits 1 rest.length))
  | '+' :: rest =>
    set rest
    return digitsValue (← digits 1 rest.length)
  | _ => return digitsValue (← digits 1 4)

/-- A date. -/
def date : Reader Date := do
  let y ← year
  char '-'
  let m ← part 1 12
  char '-'
  let d ← part 1 31
  Date.of? y m d

/-- The nanoseconds of a time. -/
def nanoseconds (hour minute second fraction : Nat) : Nat :=
  (3600 * hour + 60 * minute + second) * 1000000000 + fraction

/-- A time since midnight. -/
def clock : Reader Nat := do
  let h ← part 0 23
  char ':'
  let m ← part 0 59
  char ':'
  let s ← part 0 60
  return nanoseconds h m s (← fraction)

/-- The nanoseconds since the midnight at which the year 2000 began. -/
def moment (d : Date) (clock : Nat) : Int := d.days * (dayLength * 1000 : Nat) + clock

/-! ## The profile of RFC 3339 -/

/-- The offset from universal time, in minutes. -/
def offset : Reader Int := do
  let sign ← charThat fun c => c = 'Z' || c = 'z' || c = '+' || c = '-' || c = '−'
  if sign = 'Z' || sign = 'z' then return 0
  let h ← number 2 2 0 23
  char ':'
  let m ← number 2 2 0 59
  return if sign = '+' then 60 * h + m else -(60 * h + m : Int)

/-- A moment with its offset, which is taken off. -/
def zoned : Reader Int := do
  let y := digitsValue (← digits 4 4)
  char '-'
  let m ← number 2 2 1 12
  char '-'
  let d ← number 2 2 1 31
  discard (charThat fun c => c = 'T' || c = 't' || c = ' ')
  let hour ← number 2 2 0 23
  char ':'
  let minute ← number 2 2 0 59
  char ':'
  let second ← number 2 2 0 60
  let f ← fraction
  let off ← offset
  let date ← Date.of? y m d
  return moment date (nanoseconds hour minute second f) - off * 60 * 1000000000

end Reader

/-- A date. -/
def dateOf (cs : List Char) : Option Date := Reader.date.whole cs

/-- A time since midnight. -/
def clockOf (cs : List Char) : Option Nat := Reader.clock.whole cs

/-- A date and a time with something between. -/
def momentOf (between : Reader Unit) (cs : List Char) : Option Int :=
  let reader : Reader Int := do
    let d ← Reader.date
    between
    return Reader.moment d (← Reader.clock)
  reader.whole cs

/-- A moment with an offset. -/
def zonedOf (cs : List Char) : Option Int := Reader.zoned.whole cs

/-- Whole microseconds, what is left being dropped. -/
def microseconds (nanos : Int) : Int := nanos.tdiv 1000

end TableService.Calendar
