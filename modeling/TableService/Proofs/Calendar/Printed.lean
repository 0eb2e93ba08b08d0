/-
  Dates, times and moments say themselves where they are written.

  * `date_text`, `clock_text`: the text of a date that is kept, and that of a time of the day.
  * `plainText_momentText`: a moment without an offset; `zonedText_momentText`, `momentText_signed`: one
    with an offset, which is in the profile of RFC 3339 exactly if its year has four digits.
  * `utcText`: a moment in universal time, as exact as any text says one.
-/
import Mathlib.Data.Nat.Digits.Lemmas
import TableService.Proofs.Calendar.Moment
import TableService.Proofs.Number.Decimal

namespace TableService

theorem isNumeral_paddedDigits (length n : Nat) : IsNumeral (paddedDigits length n) n where
  ne_nil := List.append_ne_nil_of_right_ne_nil _ (List.length_pos_iff.1 Nat.length_toDigits_pos)
  isDigit _ := Decimal.isDigit_paddedDigits
  value := (Decimal.ofDigitChars_paddedDigits length n).symm

theorem length_paddedDigits {length n : Nat} (hpos : 0 < length) (h : n < 10 ^ length) :
    (paddedDigits length n).length = length := by
  have hle : (digitsText n).length ≤ length :=
    (Nat.length_toDigits_le_iff (by decide) hpos).2 h
  rw [paddedDigits, List.length_append, List.length_replicate]
  omega

namespace Calendar

section
variable {rest : List Char}

/-! ## Numbers -/

/-- A number with zeros in front of it. -/
theorem digits_padded {least most n : Nat} (hpos : 0 < most) (hle : least ≤ most) (h : n < 10 ^ most) :
    Digits least most n (paddedDigits most n ++ rest) rest := by
  have hlength := length_paddedDigits hpos h
  exact .intro (isNumeral_paddedDigits most n) (hle.trans_eq hlength.symm) hlength.le (.inl hlength)

theorem two_padded {n : Nat} (h : n < 100) : Digits 2 2 n (paddedDigits 2 n ++ rest) rest :=
  digits_padded Nat.two_pos (Nat.le_refl 2) h

theorem year_text (y : Int) (h : NoDigit rest) : Year y (Date.yearText y ++ rest) rest := by
  have hnumeral := isNumeral_paddedDigits 4 y.natAbs
  rw [Date.yearText, List.append_assoc]
  by_cases hneg : y < 0
  · rw [if_pos hneg]
    have hyear := Year.minus blank_nil hnumeral h
    rwa [Int.ofNat_natAbs_of_nonpos hneg.le, Int.neg_neg] at hyear
  · rw [if_neg hneg]
    have habs : (y.natAbs : Int) = y := Int.natAbs_of_nonneg (Int.not_lt.1 hneg)
    by_cases hlong : 9999 < y
    · rw [if_pos hlong]
      have hyear := Year.plus blank_nil hnumeral h
      rwa [habs] at hyear
    · rw [if_neg hlong]
      have hdigits : Digits 1 4 y.natAbs (paddedDigits 4 y.natAbs ++ rest) rest :=
        digits_padded (by decide) (by decide) (by omega)
      have hyear := Year.plain blank_nil hdigits
      rwa [habs] at hyear

/-- A fraction in up to nine digits. -/
theorem fraction_padded (width : Nat) {n : Nat} (hpos : 0 < width) (hle : width ≤ 9) (h : n < 10 ^ width)
    (hrest : NoDigit rest) :
    Fraction (n * 10 ^ (9 - width)) ('.' :: (paddedDigits width n ++ rest)) rest := by
  have hlength := length_paddedDigits hpos h
  have htake : (paddedDigits width n).take 9 = paddedDigits width n :=
    List.take_of_length_le (hlength.trans_le hle)
  have hnumeral := isNumeral_paddedDigits width n
  have hfraction : Fraction _ ('.' :: (paddedDigits width n ++ rest)) rest :=
    .places hnumeral.isDigit (htake.symm ▸ hnumeral) hrest
  rwa [htake, hlength] at hfraction

/-- The part of a second is written in as many digits as it has. -/
theorem fraction_text {micros : Nat} (h : micros < 1000000) (hdigit : NoDigit rest)
    (hpoint : ∀ c ∈ rest.head?, c ≠ '.') :
    Fraction (1000 * micros) (fractionText micros ++ rest) rest := by
  unfold fractionText
  split_ifs with hzero hmillis
  · rw [hzero]
    exact .none hpoint
  · have hfraction := fraction_padded 3 (n := micros / 1000) (by decide) (by decide)
      (by omega) hdigit
    have hvalue : micros / 1000 * 10 ^ (9 - 3) = 1000 * micros := by omega
    rwa [hvalue] at hfraction
  · have hfraction := fraction_padded 6 (n := micros) (by decide) (by decide) h hdigit
    have hvalue : micros * 10 ^ (9 - 6) = 1000 * micros := by omega
    rwa [hvalue] at hfraction

/-! ## Dates and times of the day -/

theorem month_text (d : Date) : Digits 2 2 d.month (paddedDigits 2 d.month ++ rest) rest :=
  two_padded (d.month_valid.2.trans_lt (by decide))

theorem day_text (d : Date) : Digits 2 2 d.day (paddedDigits 2 d.day ++ rest) rest :=
  two_padded ((d.day_valid.2.trans (Date.monthLength_le _ _)).trans_lt (by decide))

/-- **A date that is kept says itself.** -/
theorem date_text {d : Date} (kept : d.isKept = true) : DateText d (d.text ++ rest) rest := by
  rw [Date.text, List.append_assoc, List.append_assoc]
  exact .intro kept (year_text d.year (by rintro _ ⟨⟩; rfl)) (month_text d).part (day_text d).part

/-- The hours, minutes and seconds of a day. -/
def secondsText (seconds : Nat) : List Char :=
  paddedDigits 2 (seconds / 3600) ++ ':' :: paddedDigits 2 (seconds / 60 % 60) ++
    ':' :: paddedDigits 2 (seconds % 60)

theorem clockText_eq (micros : Nat) :
    clockText micros = secondsText (micros / 1000000) ++ fractionText (micros % 1000000) := rfl

theorem secondsText_append (seconds : Nat) : secondsText seconds ++ rest =
    paddedDigits 2 (seconds / 3600) ++ ':' :: (paddedDigits 2 (seconds / 60 % 60) ++
      ':' :: (paddedDigits 2 (seconds % 60) ++ rest)) := by
  simp [secondsText]

theorem seconds_parts (seconds : Nat) :
    3600 * (seconds / 3600) + 60 * (seconds / 60 % 60) + seconds % 60 = seconds := by
  omega

theorem nanoseconds_parts (micros : Nat) :
    micros / 1000000 * 1000000000 + 1000 * (micros % 1000000) = 1000 * micros := by
  omega

theorem seconds_text (seconds : Nat) {f : Nat} (h : seconds < 86400) {fraction : List Char}
    (hfraction : Fraction f fraction rest) :
    ClockText (seconds * 1000000000 + f) (secondsText seconds ++ fraction) rest := by
  have hclock := ClockText.intro (two_padded (n := seconds / 3600) (by omega)).part
    (two_padded (n := seconds / 60 % 60) (by omega)).part
    (two_padded (n := seconds % 60) (by omega)).part hfraction (by omega) (by omega) (by omega)
  rwa [seconds_parts, ← secondsText_append] at hclock

/-- **A time of the day says itself.** -/
theorem clock_text {micros : Nat} (h : micros < dayLength) (hdigit : NoDigit rest)
    (hpoint : ∀ c ∈ rest.head?, c ≠ '.') :
    ClockText (1000 * micros) (clockText micros ++ rest) rest := by
  unfold dayLength at h
  have hfraction : Fraction (1000 * (micros % 1000000)) _ rest :=
    fraction_text (Nat.mod_lt _ (by decide)) hdigit hpoint
  have hclock := seconds_text (micros / 1000000) (by omega) hfraction
  rwa [nanoseconds_parts, ← List.append_assoc] at hclock

end

theorem clock_text_nil {micros : Nat} (h : micros < dayLength) :
    ClockText (1000 * micros) (clockText micros) [] := by
  have hclock : ClockText (1000 * micros) (clockText micros ++ []) [] :=
    clock_text h noDigit_nil (by rintro _ ⟨⟩)
  rwa [List.append_nil] at hclock

/-! ## Moments -/

theorem momentClock_lt (micros : Int) : momentClock micros < dayLength := by
  unfold momentClock dayLength
  omega

/-- A moment is the time of its date. -/
theorem instant_moment (micros : Int) :
    instant (momentDate micros) (1000 * momentClock micros) = 1000 * micros := by
  rw [instant, momentDate, momentClock, Date.days_ofDays]
  unfold dayLength
  omega

/-- A date and a time of the day are a text without an offset. -/
theorem plainText_append {d : Date} {k : Nat} {clock : List Char} {between : Char}
    (kept : d.isKept = true) (hbetween : between = ' ' ∨ between = 'T')
    (hclock : ClockText k clock []) : PlainText (instant d k) (d.text ++ between :: clock) := by
  rcases hbetween with rfl | rfl
  · -- The blank belongs to the time of the day, where it does not count.
    refine .spaced (date_text kept) (ClockText.dropWhile_iff.1 ?_)
    rw [List.dropWhile_cons_of_pos (by decide)]
    exact ClockText.dropWhile_iff.2 hclock
  · exact .lettered (date_text kept) hclock

/-- **A moment says itself in a text without an offset.** -/
theorem plainText_momentText {micros : Int} {between : Char} (kept : (momentDate micros).isKept = true)
    (hbetween : between = ' ' ∨ between = 'T') :
    PlainText (1000 * micros) (momentText between micros) := by
  rw [← instant_moment]
  exact plainText_append kept hbetween (clock_text_nil (momentClock_lt micros))

/-- A moment in universal time without an offset, in nanoseconds. -/
def utcText (between : Char) (nanos : Int) : List Char :=
  let clock := (nanos % 86400000000000).toNat
  (Date.ofDays (nanos / 86400000000000)).text ++ between ::
    (secondsText (clock / 1000000000) ++ '.' :: paddedDigits 9 (clock % 1000000000))

theorem plainText_utcText {nanos : Int} {between : Char}
    (kept : (Date.ofDays (nanos / 86400000000000)).isKept = true)
    (hbetween : between = ' ' ∨ between = 'T') : PlainText nanos (utcText between nanos) := by
  unfold utcText
  have hsplit : instant (Date.ofDays (nanos / 86400000000000))
      (nanos % 86400000000000).toNat = nanos := by
    rw [instant, Date.days_ofDays]
    omega
  have hlt : (nanos % 86400000000000).toNat < 86400000000000 := by omega
  generalize (nanos % 86400000000000).toNat = clock at *
  have hfraction : Fraction (clock % 1000000000 * 10 ^ (9 - 9)) _ [] :=
    fraction_padded 9 (by decide) (by decide) (Nat.mod_lt _ (by decide)) noDigit_nil
  have hclock := seconds_text (clock / 1000000000) (by omega) hfraction
  have hvalue : clock / 1000000000 * 1000000000 + clock % 1000000000 * 10 ^ (9 - 9) = clock := by
    omega
  rw [hvalue, List.append_nil] at hclock
  have hplain := plainText_append kept hbetween hclock
  rwa [hsplit] at hplain

/-! ## With an offset -/

/-- The offset of universal time itself. -/
def zeroOffset : List Char := "+00:00".toList

theorem offset_zeroOffset : Offset 0 zeroOffset [] :=
  .east (@two_padded _ 0 (by decide)) (@two_padded [] 0 (by decide)) (by decide) (by decide)

/-- A year of four digits has no sign. -/
theorem year_digits {n : Nat} {rest : List Char} (h : n ≤ 9999) :
    Digits 4 4 n (Date.yearText n ++ rest) rest := by
  rw [Date.yearText, if_neg (by omega), if_neg (by omega), List.nil_append, Int.natAbs_natCast]
  exact digits_padded (by decide) (by decide) (by omega)

/-- **A moment with an offset says itself in the profile of RFC 3339** if its year has four digits. -/
theorem zonedText_momentText {micros : Int} (hfirst : 0 ≤ (momentDate micros).year)
    (hlast : (momentDate micros).year ≤ 9999) :
    ZonedText (1000 * micros) (momentText 'T' micros ++ zeroOffset) := by
  have hlt := momentClock_lt micros
  rw [← instant_moment, momentText]
  generalize momentDate micros = d at *
  generalize momentClock micros = clock at *
  unfold dayLength at hlt
  obtain ⟨y, hy⟩ := Int.eq_ofNat_of_zero_le hfirst
  have hfraction : Fraction (1000 * (clock % 1000000)) _ zeroOffset :=
    fraction_text (Nat.mod_lt _ (by decide)) (by rintro _ ⟨⟩; rfl) (by rintro _ ⟨⟩; decide)
  have hseparates : 'T' = 'T' ∨ 'T' = 't' ∨ 'T' = ' ' := .inl rfl
  -- Every part is written in its full number of digits, which a text with an offset needs.
  have hzoned := ZonedText.intro (d := d) (year_digits (by omega)) hy
    (month_text d) (day_text d) hseparates
    (two_padded (n := clock / 1000000 / 3600) (by omega))
    (two_padded (n := clock / 1000000 / 60 % 60) (by omega))
    (two_padded (n := clock / 1000000 % 60) (by omega)) hfraction offset_zeroOffset (by omega)
    (by omega) (by omega)
  rw [seconds_parts, nanoseconds_parts, Int.zero_mul, Int.zero_mul, Int.sub_zero, ← secondsText_append,
    ← List.append_assoc, ← clockText_eq] at hzoned
  simpa [Date.text, hy] using hzoned

/-- The text of a year of more digits, or before the year 0, starts with its sign. -/
theorem yearText_sign {y : Int} (h : ¬ (0 ≤ y ∧ y ≤ 9999)) :
    ∃ sign tail, Date.yearText y = sign :: tail ∧ sign.isDigit = false := by
  unfold Date.yearText
  split_ifs with hneg hlong
  · exact ⟨'-', _, rfl, rfl⟩
  · exact ⟨'+', _, rfl, rfl⟩
  · omega

/-- **A moment of any other year says nothing if it is written with an offset**: the year has a sign,
and a text without an offset does not end with one. -/
theorem momentText_signed {micros n : Int} (kept : (momentDate micros).isKept = true)
    (hyear : ¬ (0 ≤ (momentDate micros).year ∧ (momentDate micros).year ≤ 9999)) :
    ¬ ZonedText n (momentText 'T' micros ++ zeroOffset) ∧
      ¬ PlainText n (momentText 'T' micros ++ zeroOffset) := by
  have hclock : ClockText _ (clockText (momentClock micros) ++ zeroOffset) zeroOffset :=
    clock_text (momentClock_lt micros) (by rintro _ ⟨⟩; rfl) (by rintro _ ⟨⟩; decide)
  rw [momentText, List.append_assoc, List.cons_append]
  constructor
  · obtain ⟨sign, tail, hsign, hdigit⟩ := yearText_sign hyear
    rw [Date.text, hsign]
    intro hzoned
    exact absurd hzoned.head (Bool.eq_false_iff.1 hdigit)
  · exact not_plainText_of_zone (date_text kept) (.inl rfl) hclock (by decide)

/-! ## Characters -/

/-- Nothing but visible characters of ASCII. -/
def Visible (cs : List Char) : Prop := ∀ c ∈ cs, 0x21 ≤ c.toNat ∧ c.toNat ≤ 0x7E

section
variable {cs cs' : List Char}

theorem visible_nil : Visible [] := List.forall_mem_nil _

theorem Visible.append (h : Visible cs) (h' : Visible cs') : Visible (cs ++ cs') :=
  List.forall_mem_append.2 ⟨h, h'⟩

theorem Visible.cons {c : Char} (hc : 0x21 ≤ c.toNat ∧ c.toNat ≤ 0x7E) (h : Visible cs) :
    Visible (c :: cs) :=
  List.forall_mem_cons.2 ⟨hc, h⟩

end

theorem visible_paddedDigits (length n : Nat) : Visible (paddedDigits length n) := by
  intro c hc
  obtain ⟨hlower, hupper⟩ : 48 ≤ c.toNat ∧ c.toNat ≤ 57 :=
    Char.isDigit_iff_toNat.1 (Decimal.isDigit_paddedDigits hc)
  omega

theorem visible_dateText (d : Date) : Visible d.text := by
  have hsign : Visible (if d.year < 0 then ['-'] else if 9999 < d.year then ['+'] else []) := by
    split_ifs
    · exact .cons (by decide) visible_nil
    · exact .cons (by decide) visible_nil
    · exact visible_nil
  exact ((hsign.append (visible_paddedDigits _ _)).append
    (.cons (by decide) (visible_paddedDigits _ _))).append
    (.cons (by decide) (visible_paddedDigits _ _))

theorem visible_zeroOffset : Visible zeroOffset := by
  have hzero := visible_paddedDigits 2 0
  exact .cons (by decide) (hzero.append (.cons (by decide) hzero))

theorem visible_secondsText (seconds : Nat) : Visible (secondsText seconds) :=
  ((visible_paddedDigits _ _).append (.cons (by decide) (visible_paddedDigits _ _))).append
    (.cons (by decide) (visible_paddedDigits _ _))

theorem visible_clockText (micros : Nat) : Visible (clockText micros) := by
  have hfraction : Visible (fractionText (micros % 1000000)) := by
    unfold fractionText
    split_ifs
    · exact visible_nil
    · exact .cons (by decide) (visible_paddedDigits _ _)
    · exact .cons (by decide) (visible_paddedDigits _ _)
  exact (visible_secondsText _).append hfraction

end Calendar
end TableService
