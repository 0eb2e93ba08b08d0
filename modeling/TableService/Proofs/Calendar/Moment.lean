/-
  The moments that texts say.

  * `PlainText`, `ZonedText`: a text without an offset, which is in universal time, and a text in the
    profile of RFC 3339; moments are in nanoseconds since the year 2000 began.
  * `momentOf_blanks_iff`, `momentOf_letter_iff`, `zonedOf_iff`: the readers read these texts and no
    others.
  * `ZonedText.not_plainText`: no text is of both kinds.
-/
import TableService.Proofs.Calendar.Days
import TableService.Proofs.Calendar.Reader

namespace TableService.Calendar

/-- The nanoseconds from the midnight at which the year 2000 began to a time of a date. -/
def instant (d : Date) (clock : Nat) : Int := d.days * 86400000000000 + clock

/-- A text without an offset says a moment in universal time: a date and a time of the day, with or
without blanks between them or with the letter. -/
inductive PlainText : Int → List Char → Prop
  | spaced {d : Date} {k : Nat} {cs mid : List Char} (date : DateText d cs mid)
      (clock : ClockText k mid []) : PlainText (instant d k) cs
  | lettered {d : Date} {k : Nat} {cs mid : List Char} (date : DateText d cs ('T' :: mid))
      (clock : ClockText k mid []) : PlainText (instant d k) cs

/-- A text in the profile of RFC 3339 says a moment: a date with a year of four digits, a time of the
day, and the offset of both from universal time. -/
inductive ZonedText : Int → List Char → Prop
  | intro {d : Date} {y h m s f : Nat} {off : Int} {between : Char}
      {cs months days hours minutes seconds fraction zone : List Char}
      (year : Digits 4 4 y cs ('-' :: months)) (year_eq : d.year = y)
      (month : Digits 2 2 d.month months ('-' :: days))
      (day : Digits 2 2 d.day days (between :: hours))
      (separates : between = 'T' ∨ between = 't' ∨ between = ' ')
      (hour : Digits 2 2 h hours (':' :: minutes)) (minute : Digits 2 2 m minutes (':' :: seconds))
      (second : Digits 2 2 s seconds fraction) (fractional : Fraction f fraction zone)
      (offset : Offset off zone []) (hour_le : h ≤ 23) (minute_le : m ≤ 59) (second_le : s ≤ 60) :
      ZonedText (instant d ((3600 * h + 60 * m + s) * 1000000000 + f) - off * 60 * 1000000000) cs

/-! ## Parts that are read in one way only -/

section
variable {cs rest rest' : List Char}

theorem DateText.unique {d d' : Date} (h : DateText d cs rest) (h' : DateText d' cs rest') :
    d = d' ∧ rest = rest' :=
  Prod.mk.inj (Option.some.inj ((Reader.run_date_iff.2 h).symm.trans (Reader.run_date_iff.2 h')))

theorem ClockText.unique {k k' : Nat} (h : ClockText k cs rest) (h' : ClockText k' cs rest') :
    k = k' ∧ rest = rest' :=
  Prod.mk.inj (Option.some.inj ((Reader.run_clock_iff.2 h).symm.trans (Reader.run_clock_iff.2 h')))

/-- Blanks in front of a part do not count. -/
theorem Part.dropWhile_iff {n : Nat} : Part n (cs.dropWhile Text.isBlank) rest ↔ Part n cs rest := by
  constructor
  · rintro h
    obtain ⟨bs, hbs, hcs⟩ := exists_blank cs
    generalize cs.dropWhile Text.isBlank = mid at h hcs
    obtain ⟨hbs', hdigits⟩ := h
    rw [hcs, ← List.append_assoc]
    exact .intro (List.forall_mem_append.2 ⟨hbs, hbs'⟩) hdigits
  · rintro ⟨hbs, hdigits⟩
    rw [hdigits.dropWhile_blank hbs]
    exact .intro blank_nil hdigits

theorem ClockText.dropWhile_iff {k : Nat} :
    ClockText k (cs.dropWhile Text.isBlank) rest ↔ ClockText k cs rest := by
  constructor
  · rintro ⟨hhour, hminute, hsecond, hfraction, hle, hle', hle''⟩
    exact .intro (Part.dropWhile_iff.1 hhour) hminute hsecond hfraction hle hle' hle''
  · rintro ⟨hhour, hminute, hsecond, hfraction, hle, hle', hle''⟩
    exact .intro (Part.dropWhile_iff.2 hhour) hminute hsecond hfraction hle hle' hle''

/-- A part starts with a blank or a digit. -/
theorem Part.head {n : Nat} {text : List Char} (h : Part n text rest) {c : Char}
    (htext : text = c :: cs) : Text.isBlank c = true ∨ c.isDigit = true := by
  obtain ⟨hbs, hdigits⟩ := h
  rename_i bs cs'
  cases bs with
  | nil =>
    obtain ⟨d, tail, rfl, hd⟩ := hdigits.head
    cases htext
    exact .inr hd
  | cons b bs =>
    cases htext
    exact .inl (hbs _ List.mem_cons_self)

/-- A time of the day starts with a blank or a digit. -/
theorem ClockText.head {k : Nat} {c : Char} (h : ClockText k (c :: cs) rest) :
    Text.isBlank c = true ∨ c.isDigit = true := by
  obtain ⟨hhour, -, -, -, -, -, -⟩ := h
  exact hhour.head rfl

/-! ## Texts without an offset -/

theorem momentOf_letter_iff {n : Int} : momentOf (Reader.char 'T') cs = some n ↔
    ∃ d k mid, DateText d cs ('T' :: mid) ∧ ClockText k mid [] ∧ n = instant d k := by
  unfold momentOf
  simp only [Reader.whole_eq_some_iff, Reader.run_bind_eq_some_iff, Reader.run_date_iff,
    Reader.run_char_iff, Reader.run_clock_iff, Reader.run_pure_eq_some_iff]
  constructor
  · rintro ⟨d, _, hdate, _, mid, rfl, k, _, hclock, rfl, rfl⟩
    exact ⟨d, k, mid, hdate, hclock, rfl⟩
  · rintro ⟨d, k, mid, hdate, hclock, rfl⟩
    exact ⟨d, _, hdate, (), mid, rfl, k, _, hclock, rfl, rfl⟩

theorem momentOf_blanks_iff {n : Int} : momentOf Reader.blanks cs = some n ↔
    ∃ d k mid, DateText d cs mid ∧ ClockText k mid [] ∧ n = instant d k := by
  unfold momentOf
  simp only [Reader.whole_eq_some_iff, Reader.run_bind_eq_some_iff, Reader.run_date_iff,
    Reader.run_blanks, Reader.run_clock_iff, Reader.run_pure_eq_some_iff]
  constructor
  · rintro ⟨d, mid, hdate, _, _, ⟨⟩, k, _, hclock, rfl, rfl⟩
    exact ⟨d, k, mid, hdate, ClockText.dropWhile_iff.1 hclock, rfl⟩
  · rintro ⟨d, k, mid, hdate, hclock, rfl⟩
    exact ⟨d, mid, hdate, (), _, rfl, k, _, ClockText.dropWhile_iff.2 hclock, rfl, rfl⟩

/-- **A text without an offset is read as the moment that it says in universal time**, and no other
text is. -/
theorem plainText_iff {n : Int} : PlainText n cs ↔
    momentOf Reader.blanks cs = some n ∨ momentOf (Reader.char 'T') cs = some n := by
  rw [momentOf_blanks_iff, momentOf_letter_iff]
  constructor
  · rintro (⟨hdate, hclock⟩ | ⟨hdate, hclock⟩)
    · exact .inl ⟨_, _, _, hdate, hclock, rfl⟩
    · exact .inr ⟨_, _, _, hdate, hclock, rfl⟩
  · rintro (⟨d, k, mid, hdate, hclock, rfl⟩ | ⟨d, k, mid, hdate, hclock, rfl⟩)
    · exact .spaced hdate hclock
    · exact .lettered hdate hclock

/-- Both kinds of texts without an offset differ behind the date. -/
theorem not_spaced_of_lettered {n m : Int} (h : momentOf (Reader.char 'T') cs = some n) :
    momentOf Reader.blanks cs ≠ some m := by
  intro h'
  obtain ⟨d, k, mid, hdate, hclock, -⟩ := momentOf_letter_iff.1 h
  obtain ⟨d', k', mid', hdate', hclock', -⟩ := momentOf_blanks_iff.1 h'
  obtain ⟨-, rfl⟩ := hdate.unique hdate'
  exact absurd hclock'.head (by decide)

/-! ## How late it is -/

theorem ofDigitChars_lt {ds : List Char} (hds : ∀ c ∈ ds, c.isDigit = true) {n m : Nat}
    (h : n < m) : Nat.ofDigitChars 10 ds n < m * 10 ^ ds.length := by
  induction ds generalizing n m with
  | nil => simpa using h
  | cons c ds ih =>
    rw [List.forall_mem_cons] at hds
    obtain ⟨hlower, hupper⟩ : 48 ≤ c.toNat ∧ c.toNat ≤ 57 := Char.isDigit_iff_toNat.1 hds.1
    have hnext : 10 * n + (c.toNat - '0'.toNat) < 10 * m := by
      change 10 * n + (c.toNat - 48) < 10 * m
      omega
    rw [Nat.ofDigitChars_cons, List.length_cons, Nat.pow_succ', ← Nat.mul_assoc, Nat.mul_comm m]
    exact ih hds.2 hnext

/-- A number is below the power of ten of its digits. -/
theorem Digits.lt {least most n : Nat} (h : Digits least most n cs rest) : n < 10 ^ most := by
  obtain ⟨hnumeral, -, hmost, -⟩ := h
  rename_i ds
  have hlt := ofDigitChars_lt hnumeral.isDigit Nat.one_pos
  rw [← hnumeral.value, Nat.one_mul] at hlt
  exact Nat.lt_of_lt_of_le hlt (Nat.pow_le_pow_right (by decide) hmost)

/-- A part of a second is less than a second. -/
theorem Fraction.lt {f : Nat} (h : Fraction f cs rest) : f < 1000000000 := by
  cases h with
  | none => decide
  | @places n ds _ digits counted ends =>
    have hle : (ds.take 9).length ≤ 9 := List.length_take_le 9 ds
    have hlt := ofDigitChars_lt counted.isDigit Nat.one_pos
    rw [← counted.value, Nat.one_mul] at hlt
    have hpow : 10 ^ (ds.take 9).length * 10 ^ (9 - (ds.take 9).length) = 10 ^ 9 := by
      rw [← Nat.pow_add, Nat.add_sub_cancel' hle]
    calc n * 10 ^ (9 - (ds.take 9).length)
        < 10 ^ (ds.take 9).length * 10 ^ (9 - (ds.take 9).length) :=
          Nat.mul_lt_mul_of_pos_right hlt (Nat.pow_pos (by decide))
      _ = 10 ^ 9 := hpow

theorem ClockText.lt {k : Nat} (h : ClockText k cs rest) : k < 86401000000000 := by
  obtain ⟨-, -, -, hfraction, hle, hle', hle''⟩ := h
  have hlt := hfraction.lt
  omega

theorem Offset.bounds {off : Int} (h : Offset off cs rest) : -1440 < off ∧ off < 1440 := by
  cases h <;> omega

/-- A moment in universal time belongs to a date that is kept. -/
theorem PlainText.near {n : Int} (h : PlainText n cs) : ∃ d : Date, d.isKept = true ∧
    d.days * 86400000000000 ≤ n ∧ n < (d.days + 2) * 86400000000000 := by
  obtain ⟨d, k, kept, hlt, rfl⟩ : ∃ d k, d.isKept = true ∧ k < 86401000000000 ∧ n = instant d k := by
    rcases h with ⟨⟨kept, -, -, -⟩, hclock⟩ | ⟨⟨kept, -, -, -⟩, hclock⟩
    · exact ⟨_, _, kept, hclock.lt, rfl⟩
    · exact ⟨_, _, kept, hclock.lt, rfl⟩
  refine ⟨d, kept, ?_⟩
  rw [instant]
  omega

/-! ## Texts with an offset -/

/-- A year of four digits is kept. -/
theorem Digits.isKept {d : Date} {y : Nat} (h : Digits 4 4 y cs rest) (hy : d.year = y) :
    d.isKept = true := by
  have hlt := h.lt
  rw [Date.isKept_iff]
  omega

/-- **A text in the profile of RFC 3339 is read as the moment that it says**, and no other text is. -/
theorem zonedOf_iff {n : Int} : zonedOf cs = some n ↔ ZonedText n cs := by
  unfold zonedOf Reader.zoned
  simp only [Reader.whole_eq_some_iff, Reader.run_bind_eq_some_iff, Reader.run_char_iff,
    Reader.run_number_iff Nat.two_pos, Reader.run_discard_iff, Reader.run_charThat_iff,
    Reader.run_fraction_iff, Reader.run_offset_iff, Reader.run_lift_eq_some_iff,
    Reader.run_pure_eq_some_iff, Bool.or_eq_true, decide_eq_true_eq, or_assoc]
  constructor
  · rintro ⟨ds, _, hyear, _, months, rfl, mo, _, ⟨hmonth, -⟩, _, days, rfl, dd, _, ⟨hday, -⟩, _, hours,
      ⟨between, rfl, hbetween⟩, h, _, ⟨hhour, -, hle⟩, _, minutes, rfl, m, _, ⟨hminute, -, hle'⟩, _,
      seconds, rfl, s, fraction, ⟨hsecond, -, hle''⟩, f, zone, hfraction, off, _, hoffset, d, _,
      ⟨hdate, rfl⟩, rfl, rfl⟩
    obtain ⟨-, hy, rfl, rfl⟩ := Reader.of?_eq_some_iff.1 hdate
    exact .intro ((Reader.run_digitsValue_iff (by decide)).1 ⟨ds, hyear, rfl⟩) hy hmonth hday hbetween
      hhour hminute hsecond hfraction hoffset hle hle' hle''
  · rintro ⟨hyear, hy, hmonth, hday, hbetween, hhour, hminute, hsecond, hfraction, hoffset, hle, hle',
      hle''⟩
    obtain ⟨ds, hds, hvalue⟩ := (Reader.run_digitsValue_iff (by decide)).2 hyear
    have hdate := Reader.of?_eq_some_iff.2
      ⟨hyear.isKept hy, hy.trans (congrArg _ hvalue.symm), rfl, rfl⟩
    exact ⟨ds, _, hds, (), _, rfl, _, _, ⟨hmonth, Date.month_valid _⟩, (), _, rfl, _, _,
      ⟨hday, (Date.day_valid _).1, Reader.day_le _⟩, (), _, ⟨_, rfl, hbetween⟩, _, _,
      ⟨hhour, Nat.zero_le _, hle⟩, (), _, rfl, _, _, ⟨hminute, Nat.zero_le _, hle'⟩, (), _, rfl, _, _,
      ⟨hsecond, Nat.zero_le _, hle''⟩, _, _, hfraction, _, _, hoffset, _, _, ⟨hdate, rfl⟩, rfl, rfl⟩

/-- A moment with an offset is near to a date whose year has four digits. -/
theorem ZonedText.near {n : Int} (h : ZonedText n cs) : ∃ d : Date, 0 ≤ d.year ∧ d.year ≤ 9999 ∧
    (d.days - 1) * 86400000000000 ≤ n ∧ n < (d.days + 3) * 86400000000000 := by
  obtain ⟨hyear, hy, -, -, -, -, -, -, hfraction, hoffset, hle, hle', hle''⟩ := h
  have hlt := hyear.lt
  have hlt' := hfraction.lt
  have hbounds := hoffset.bounds
  refine ⟨_, (Int.natCast_nonneg _).trans hy.ge, hy.le.trans (by omega), ?_⟩
  rw [instant]
  push_cast
  omega

/-- Digits of a fixed number are a part, and so is a year of four. -/
theorem Digits.part {n : Nat} (h : Digits 2 2 n cs rest) : Part n cs rest := by
  obtain ⟨hnumeral, hle, hmost, hends⟩ := h
  have hpart := Part.intro blank_nil (.intro hnumeral (by omega) hmost hends)
  exact hpart

theorem Digits.year {n : Nat} (h : Digits 4 4 n cs rest) : Year n cs rest := by
  obtain ⟨hnumeral, hle, hmost, hends⟩ := h
  have hyear := Year.plain blank_nil (.intro hnumeral (by omega) hmost hends)
  exact hyear

theorem Offset.ne_nil {i : Int} (h : Offset i cs rest) : cs ≠ [] := by
  cases h <;> exact List.cons_ne_nil _ _

/-- A text with an offset starts with a digit. -/
theorem ZonedText.head {n : Int} {c : Char} (h : ZonedText n (c :: cs)) : c.isDigit = true := by
  obtain ⟨hyear, -, -, -, -, -, -, -, -, -, -, -, -⟩ := h
  obtain ⟨_, _, hcs, hdigit⟩ := hyear.head
  cases hcs
  exact hdigit

/-- A text with an offset starts with a date and a time of the day, and goes on. -/
theorem ZonedText.starts {n : Int} (h : ZonedText n cs) :
    ∃ d k between mid zone, DateText d cs (between :: mid) ∧
      (between = 'T' ∨ between = 't' ∨ between = ' ') ∧ ClockText k mid zone ∧ zone ≠ [] := by
  obtain ⟨hyear, hy, hmonth, hday, hbetween, hhour, hminute, hsecond, hfraction, hoffset, hle, hle',
    hle''⟩ := h
  exact ⟨_, _, _, _, _, .intro (hyear.isKept hy) (hy ▸ hyear.year) hmonth.part hday.part, hbetween,
    .intro hhour.part hminute.part hsecond.part hfraction hle hle' hle'', hoffset.ne_nil⟩

/-- A text that goes on behind the time of the day is not one without an offset. -/
theorem not_plainText_of_zone {m : Int} {d : Date} {k : Nat} {between : Char} {mid zone : List Char}
    (hdate : DateText d cs (between :: mid))
    (hbetween : between = 'T' ∨ between = 't' ∨ between = ' ') (hclock : ClockText k mid zone)
    (hzone : zone ≠ []) : ¬ PlainText m cs := by
  rintro (⟨hdate', hclock'⟩ | ⟨hdate', hclock'⟩)
  · obtain ⟨-, rfl⟩ := hdate.unique hdate'
    rcases hbetween with rfl | rfl | rfl
    · exact absurd hclock'.head (by decide)
    · exact absurd hclock'.head (by decide)
    · rw [← ClockText.dropWhile_iff, List.dropWhile_cons_of_pos (by decide),
        ClockText.dropWhile_iff] at hclock'
      exact hzone (hclock.unique hclock').2
  · obtain ⟨-, hmid⟩ := hdate.unique hdate'
    cases hmid
    exact hzone (hclock.unique hclock').2

/-- **No text is of both kinds**: an offset is no part of a time of the day. -/
theorem ZonedText.not_plainText {n m : Int} (h : ZonedText n cs) : ¬ PlainText m cs := by
  obtain ⟨d, k, between, mid, zone, hdate, hbetween, hclock, hzone⟩ := h.starts
  exact not_plainText_of_zone hdate hbetween hclock hzone

end

end TableService.Calendar
