/-
  Moments and times of MySQL as they are shown.

  * `IsNumeral.append_unique`: a number that is spelled in front of something else, and what follows it,
    are known from the text.
  * `datetime_json_inj`, `time_json_inj`: which parts of a moment and of a time are known from what they
    are shown as: all but the part of a second.
  * `shown_to_the_second`: so two of them that a server can send are shown alike exactly if they are the
    same to the second, and the hours of a time are those of its days and its own.
-/
import TableService.Proofs.Calendar.Printed
import TableService.Server.MySqlValue

namespace TableService

open Calendar (NoDigit)

/-! ## Numbers in a text -/

theorem isNumeral_digitsText (n : Nat) : IsNumeral (digitsText n) n where
  ne_nil := digitsText_ne_nil n
  isDigit _ := isDigit_of_mem_digitsText
  value := (ofDigitChars_digitsText n).symm

/-- **A number in front of what is no digit is known from the text**, and so is what follows it. -/
theorem IsNumeral.append_unique {ds ds' rest rest' : List Char} {n n' : Nat} (h : IsNumeral ds n)
    (h' : IsNumeral ds' n') (hrest : NoDigit rest) (hrest' : NoDigit rest')
    (heq : ds ++ rest = ds' ++ rest') : n = n' ∧ rest = rest' := by
  have hafter : rest = rest' := by
    rw [← Calendar.Reader.dropWhile_digits h.isDigit hrest, heq,
      Calendar.Reader.dropWhile_digits h'.isDigit hrest']
  subst hafter
  have hdigits : ds = ds' := List.append_cancel_right heq
  exact ⟨by rw [h.value, h'.value, hdigits], rfl⟩

/-- A text of digits and more does not start with a sign. -/
theorem IsNumeral.head_ne_minus {ds rest : List Char} {n : Nat} (h : IsNumeral ds n) :
    (ds ++ rest).head? ≠ some '-' := by
  obtain ⟨c, cs, rfl⟩ := List.exists_cons_of_ne_nil h.ne_nil
  have hdigit := h.isDigit c List.mem_cons_self
  rintro ⟨⟩
  cases hdigit

section
variable {c : Char} {rest rest' : List Char} {width n n' : Nat}

theorem noDigit_cons (hc : c.isDigit = false) : NoDigit (c :: rest) := by
  rintro _ ⟨⟩
  exact hc

theorem paddedDigits_cons_inj (hc : c.isDigit = false) :
    paddedDigits width n ++ c :: rest = paddedDigits width n' ++ c :: rest' ↔
      n = n' ∧ rest = rest' := by
  constructor
  · intro h
    obtain ⟨hn, hrest⟩ := (isNumeral_paddedDigits width n).append_unique
      (isNumeral_paddedDigits width n') (noDigit_cons hc) (noDigit_cons hc) h
    exact ⟨hn, List.tail_eq_of_cons_eq hrest⟩
  · rintro ⟨rfl, rfl⟩
    rfl

theorem paddedDigits_inj : paddedDigits width n = paddedDigits width n' ↔ n = n' := by
  constructor
  · intro h
    rw [(isNumeral_paddedDigits width n).value, h, ← (isNumeral_paddedDigits width n').value]
  · rintro rfl
    rfl

end

namespace MySqlValue

/-! ## What is known of a value -/

section
variable {hours hours' : List Char} {n n' : Nat} {minutes minutes' seconds seconds' : UInt8}

theorem clock_unique (h : IsNumeral hours n) (h' : IsNumeral hours' n')
    (heq : clock hours minutes seconds = clock hours' minutes' seconds') :
    n = n' ∧ minutes = minutes' ∧ seconds = seconds' := by
  have hcolon : ':'.isDigit = false := rfl
  simp only [clock, List.append_assoc, List.cons_append] at heq
  obtain ⟨hn, hrest⟩ := h.append_unique h' (noDigit_cons hcolon) (noDigit_cons hcolon) heq
  have hparts := List.tail_eq_of_cons_eq hrest
  rw [paddedDigits_cons_inj hcolon, paddedDigits_inj] at hparts
  exact ⟨hn, UInt8.toNat_inj.1 hparts.1, UInt8.toNat_inj.1 hparts.2⟩

end

section
variable {year year' : UInt16} {month month' day day' hour hour' minute minute' second second' : UInt8}
  {micros micros' : UInt32}

/-- **All of a moment is known from what it is shown as, but for the part of a second.** -/
theorem datetime_json_inj : (datetime year month day hour minute second micros).json =
      (datetime year' month' day' hour' minute' second' micros').json ↔
    year = year' ∧ month = month' ∧ day = day' ∧ hour = hour' ∧ minute = minute' ∧
      second = second' := by
  constructor
  · intro h
    have hdash : '-'.isDigit = false := rfl
    have hspace : ' '.isDigit = false := rfl
    have htext := String.ofList_injective (Json.string.inj h)
    simp only [List.append_assoc, List.cons_append] at htext
    rw [paddedDigits_cons_inj hdash, paddedDigits_cons_inj hdash, paddedDigits_cons_inj hspace] at htext
    obtain ⟨hyear, hmonth, hday, hclock⟩ := htext
    obtain ⟨hhour, hminute, hsecond⟩ :=
      clock_unique (isNumeral_paddedDigits 2 _) (isNumeral_paddedDigits 2 _) hclock
    exact ⟨UInt16.toNat_inj.1 hyear, UInt8.toNat_inj.1 hmonth, UInt8.toNat_inj.1 hday,
      UInt8.toNat_inj.1 hhour, hminute, hsecond⟩
  · rintro ⟨rfl, rfl, rfl, rfl, rfl, rfl⟩
    rfl

end

section
variable {negative negative' : Bool} {days days' micros micros' : UInt32}
  {hours hours' minutes minutes' seconds seconds' : UInt8}

/-- The hours that a time is shown with: those of its days and its own. -/
def totalHours (days : UInt32) (hours : UInt8) : Nat := 24 * days.toNat + hours.toNat

theorem sign_unique {cs cs' : List Char} (hcs : cs.head? ≠ some '-') (hcs' : cs'.head? ≠ some '-')
    (h : (if negative then ['-'] else []) ++ cs = (if negative' then ['-'] else []) ++ cs') :
    negative = negative' ∧ cs = cs' := by
  cases negative <;> cases negative'
  · exact ⟨rfl, h⟩
  · exact absurd (congrArg List.head? h) hcs
  · exact absurd (congrArg List.head? h).symm hcs'
  · exact ⟨rfl, List.tail_eq_of_cons_eq h⟩

/-- **All of a time is known from what it is shown as, but for the part of a second** and for which of
the hours are days. -/
theorem time_json_inj : (time negative days hours minutes seconds micros).json =
      (time negative' days' hours' minutes' seconds' micros').json ↔
    negative = negative' ∧ totalHours days hours = totalHours days' hours' ∧ minutes = minutes' ∧
      seconds = seconds' := by
  have hhours (days : UInt32) (hours : UInt8) := isNumeral_digitsText (totalHours days hours)
  have hhead (days : UInt32) (hours minutes seconds : UInt8) :
      (clock (digitsText (totalHours days hours)) minutes seconds).head? ≠ some '-' := by
    rw [clock, List.append_assoc]
    exact (hhours days hours).head_ne_minus
  constructor
  · intro h
    have htext : (if negative then ['-'] else []) ++
          clock (digitsText (totalHours days hours)) minutes seconds =
        (if negative' then ['-'] else []) ++
          clock (digitsText (totalHours days' hours')) minutes' seconds' :=
      String.ofList_injective (Json.string.inj h)
    obtain ⟨hnegative, hclock⟩ := sign_unique (hhead _ _ _ _) (hhead _ _ _ _) htext
    exact ⟨hnegative, clock_unique (hhours _ _) (hhours _ _) hclock⟩
  · rintro ⟨rfl, htotal, rfl, rfl⟩
    unfold totalHours at htotal
    rw [json, json, htotal]

/-- A moment is not shown like a time. -/
theorem datetime_json_ne_time {year : UInt16} {month day hour minute second : UInt8} {us : UInt32} :
    (datetime year month day hour minute second us).json ≠
      (time negative days hours minutes seconds micros).json := by
  intro h
  have htext := String.ofList_injective (Json.string.inj h)
  have hyear := isNumeral_paddedDigits 4 year.toNat
  simp only [clock, List.append_assoc, List.cons_append] at htext
  cases negative with
  | true => exact hyear.head_ne_minus (congrArg List.head? htext)
  | false =>
    obtain ⟨-, hrest⟩ := hyear.append_unique (isNumeral_digitsText _) (noDigit_cons rfl)
      (noDigit_cons rfl) htext
    cases hrest

end

/-! ## Values that a server can send -/

/-- A moment or a time that a server can send.  The month and the day may be zero; a time may be
negative, and is of less than 35 days. -/
inductive Temporal : MySqlValue → Prop
  | datetime {year : UInt16} {month day hour minute second : UInt8} {micros : UInt32}
    (year_le : year.toNat ≤ 9999) (month_le : month.toNat ≤ 12) (day_le : day.toNat ≤ 31)
    (hour_lt : hour.toNat < 24) (minute_lt : minute.toNat < 60) (second_lt : second.toNat < 60)
    (micros_lt : micros.toNat < 1000000) :
    Temporal (.datetime year month day hour minute second micros)
  | time {negative : Bool} {days : UInt32} {hours minutes seconds : UInt8} {micros : UInt32}
    (days_le : days.toNat ≤ 34) (hours_lt : hours.toNat < 24) (minutes_lt : minutes.toNat < 60)
    (seconds_lt : seconds.toNat < 60) (micros_lt : micros.toNat < 1000000) :
    Temporal (.time negative days hours minutes seconds micros)

/-- A moment or a time without its part of a second. -/
def wholeSeconds : MySqlValue → MySqlValue
  | .datetime year month day hour minute second _ => .datetime year month day hour minute second 0
  | .time negative days hours minutes seconds _ => .time negative days hours minutes seconds 0
  | v => v

/-- The value is shown as a text with this number before the first colon, and a sign at most in front
of it. -/
def ShowsHours (v : MySqlValue) (hours : Nat) : Prop :=
  ∃ sign digits rest : List Char, (sign = [] ∨ sign = ['-']) ∧ IsNumeral digits hours ∧
    v.json = .string (String.ofList (sign ++ (digits ++ ':' :: rest)))

theorem showsHours_time (negative : Bool) (days : UInt32) (hours minutes seconds : UInt8)
    (micros : UInt32) :
    ShowsHours (.time negative days hours minutes seconds micros) (totalHours days hours) := by
  refine ⟨if negative then ['-'] else [], digitsText (totalHours days hours),
    paddedDigits 2 minutes.toNat ++ ':' :: paddedDigits 2 seconds.toNat, ?_,
    isNumeral_digitsText _, ?_⟩
  · cases negative
    · exact .inl rfl
    · exact .inr rfl
  · rw [json, clock, List.append_assoc]
    rfl

/-- **Moments and times are shown to the second.**  Two values that a server can send are shown alike
exactly if they are the same without their parts of a second: a moment keeps its date and its clock, a
time its sign, its days and its clock, and no moment is shown like a time.  The number of hours that a
time is shown with is that of its days and its own hours together. -/
theorem shown_to_the_second {v w : MySqlValue} (hv : v.Temporal) (hw : w.Temporal) :
    (v.json = w.json ↔ v.wholeSeconds = w.wholeSeconds) ∧
    ∀ negative days hours minutes seconds micros,
      v = .time negative days hours minutes seconds micros →
        v.ShowsHours (24 * days.toNat + hours.toNat) := by
  constructor
  · cases hv with
    | datetime =>
      cases hw with
      | datetime =>
        rw [datetime_json_inj, wholeSeconds, wholeSeconds, datetime.injEq]
        simp only [and_true]
      | time => exact iff_of_false datetime_json_ne_time nofun
    | @time _ days hours _ _ _ _ hhours =>
      cases hw with
      | datetime => exact iff_of_false datetime_json_ne_time.symm nofun
      | @time _ days' hours' _ _ _ _ hhours' =>
        -- of all hours those that are no whole day are the time's own
        have htotal : totalHours days hours = totalHours days' hours' ↔
            days = days' ∧ hours = hours' := by
          rw [← UInt32.toNat_inj, ← UInt8.toNat_inj, totalHours, totalHours]
          omega
        rw [time_json_inj, htotal, wholeSeconds, wholeSeconds, time.injEq]
        simp only [and_true, and_assoc]
  · rintro _ _ _ _ _ _ rfl
    exact showsHours_time ..

/-- The longest time, and a moment without a date, are shown to the second. -/
theorem longest_time_shown :
    Temporal (.time true 34 22 59 59 0) ∧ Temporal (.time false 34 22 59 59 0) ∧
    (MySqlValue.time true 34 22 59 59 0).json = .string "-838:59:59" ∧
    (MySqlValue.time true 34 22 59 59 0).json ≠ (MySqlValue.time false 34 22 59 59 0).json ∧
    (MySqlValue.time true 34 22 59 59 0).ShowsHours 838 := by
  have hlongest (negative : Bool) : Temporal (.time negative 34 22 59 59 0) :=
    .time (by decide) (by decide) (by decide) (by decide) (by decide)
  obtain ⟨hshown, hhours⟩ := shown_to_the_second (hlongest true) (hlongest false)
  refine ⟨hlongest true, hlongest false, rfl, fun h => ?_, hhours _ _ _ _ _ _ rfl⟩
  cases hshown.1 h

/-- **The part of a second is not shown**: two moments that differ in it are shown alike, and so are two
times. -/
theorem fraction_not_shown :
    (Temporal (.datetime 2024 3 9 14 5 0 250000) ∧ Temporal (.datetime 2024 3 9 14 5 0 0) ∧
      MySqlValue.datetime 2024 3 9 14 5 0 250000 ≠ .datetime 2024 3 9 14 5 0 0 ∧
      (MySqlValue.datetime 2024 3 9 14 5 0 250000).json =
        (MySqlValue.datetime 2024 3 9 14 5 0 0).json) ∧
    (Temporal (.time false 1 2 3 4 999999) ∧ Temporal (.time false 1 2 3 4 0) ∧
      MySqlValue.time false 1 2 3 4 999999 ≠ .time false 1 2 3 4 0 ∧
      (MySqlValue.time false 1 2 3 4 999999).json = (MySqlValue.time false 1 2 3 4 0).json) := by
  refine ⟨⟨.datetime ?_ ?_ ?_ ?_ ?_ ?_ ?_, .datetime ?_ ?_ ?_ ?_ ?_ ?_ ?_, nofun, rfl⟩,
    ⟨.time ?_ ?_ ?_ ?_ ?_, .time ?_ ?_ ?_ ?_ ?_, nofun, rfl⟩⟩
  all_goals decide

end MySqlValue
end TableService
