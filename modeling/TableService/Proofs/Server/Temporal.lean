/-
  Dates, times and moments of PostgreSQL that are read and then written.

  * `Shows`, `columnJson_temporal`: the texts that columns are shown as.
  * `temporal_again`: which of these texts are sent as the bytes that were read.  All are for dates and
    for moments without a zone; with a zone those of years in four digits are, since no other year is
    read with an offset; times of the day are, but for the midnight that ends a day.
-/
import TableService.Proofs.Server.Moments

namespace TableService

namespace PostgresType

open Calendar

/-- The types of dates, times and moments. -/
inductive Temporal : PostgresType → Prop
  | timestamp : Temporal .timestamp
  | timestamptz : Temporal .timestamptz
  | date : Temporal .date
  | time : Temporal .time

/-! ## Reading -/

/-- The text that bytes are shown as. -/
inductive Shows (raw : List UInt8) : PostgresType → List Char → Prop
  | timestamp (length : raw.length = 8) (kept : (momentDate (signed raw)).isKept = true) :
      Shows raw .timestamp (momentText ' ' (signed raw))
  | timestamptz (length : raw.length = 8) (kept : (momentDate (signed raw)).isKept = true) :
      Shows raw .timestamptz (momentText 'T' (signed raw) ++ zeroOffset)
  | date (length : raw.length = 4) (kept : (Date.ofDays (signed raw)).isKept = true) :
      Shows raw .date (Date.ofDays (signed raw)).text
  | time (length : raw.length = 8) : Shows raw .time (clockText (momentClock (signed raw)))

section
variable {raw : List UInt8}

theorem moment?_eq_some_iff {i : Int} : moment? raw = some i ↔
    raw.length = 8 ∧ (momentDate (signed raw)).isKept = true ∧ signed raw = i := by
  rw [moment?, Option.ite_none_right_eq_some, Option.some.injEq, and_assoc]

theorem date?_eq_some_iff {d : Date} : date? raw = some d ↔
    raw.length = 4 ∧ (Date.ofDays (signed raw)).isKept = true ∧ Date.ofDays (signed raw) = d := by
  rw [date?, Option.ite_none_right_eq_some, Option.some.injEq, and_assoc]

theorem getD_null_eq_string {o : Option Json} {s : String} :
    o.getD .null = .string s ↔ o = some (.string s) := by
  cases o with
  | none => exact ⟨nofun, nofun⟩
  | some v => rw [Option.getD_some, Option.some.injEq]

/-- **What columns of these types are shown as.** -/
theorem columnJson_temporal {t : PostgresType} (ht : Temporal t) {s : String} :
    columnJson t (some raw) = .string s ↔ ∃ cs, Shows raw t cs ∧ s = String.ofList cs := by
  rw [columnJson, Option.bind_some, getD_null_eq_string]
  constructor
  · intro h
    cases ht with
    | timestamp =>
      obtain ⟨i, hi, htext⟩ := Option.bind_eq_some_iff.1 h
      obtain ⟨hlength, hkept, rfl⟩ := moment?_eq_some_iff.1 hi
      cases htext
      exact ⟨_, .timestamp hlength hkept, rfl⟩
    | timestamptz =>
      obtain ⟨i, hi, htext⟩ := Option.bind_eq_some_iff.1 h
      obtain ⟨hlength, hkept, rfl⟩ := moment?_eq_some_iff.1 hi
      cases htext
      exact ⟨_, .timestamptz hlength hkept, rfl⟩
    | date =>
      obtain ⟨d, hd, htext⟩ := Option.bind_eq_some_iff.1 h
      obtain ⟨hlength, hkept, rfl⟩ := date?_eq_some_iff.1 hd
      cases htext
      exact ⟨_, .date hlength hkept, rfl⟩
    | time =>
      rw [decode?] at h
      split_ifs at h with hlength
      cases h
      exact ⟨_, .time hlength, rfl⟩
  · rintro ⟨_, hshows, rfl⟩
    cases hshows with
    | timestamp hlength hkept | timestamptz hlength hkept =>
      rw [decode?, moment?_eq_some_iff.2 ⟨hlength, hkept, rfl⟩]
      rfl
    | date hlength hkept =>
      rw [decode?, date?_eq_some_iff.2 ⟨hlength, hkept, rfl⟩]
      rfl
    | time hlength =>
      rw [decode?, if_pos hlength]
      rfl

/-! ## Writing -/

theorem microseconds_mul (micros : Int) : microseconds (1000 * micros) = micros :=
  Int.mul_tdiv_cancel_left micros (by decide)

/-- A moment is written again as it was read, if its text says it. -/
theorem timestamp_again {cs : List Char} (hlength : raw.length = 8)
    (htrim : (Text.trim (String.ofList cs)).toList = cs) (h : MomentText (1000 * signed raw) cs) :
    PostgresType.timestamp.bytes? (stringJson cs) = some raw := by
  refine timestamp_bytes?.2 ⟨_, _, rfl, htrim.symm ▸ h, ?_⟩
  rw [momentBytes, microseconds_mul, ← hlength, bigEndian_signed]

/-- A text that says no moment is refused. -/
theorem timestamp_refused {cs : List Char}
    (htrim : (Text.trim (String.ofList cs)).toList = cs)
    (h : ∀ n, ¬ ZonedText n cs ∧ ¬ PlainText n cs) :
    PostgresType.timestamp.bytes? (stringJson cs) = none := by
  refine Option.eq_none_iff_forall_ne_some.2 fun raw hraw => ?_
  obtain ⟨s, n, hs, hn, -⟩ := timestamp_bytes?.1 hraw
  cases hs
  rw [htrim] at hn
  exact hn.elim (h n).1 (h n).2

theorem trim_momentText (between : Char) (micros : Int) :
    (Text.trim (String.ofList (momentText between micros))).toList = momentText between micros :=
  trim_moment between (visible_clockText _) (by simp [clockText])

theorem trim_zoned (micros : Int) :
    (Text.trim (String.ofList (momentText 'T' micros ++ zeroOffset))).toList =
      momentText 'T' micros ++ zeroOffset := by
  rw [momentText, List.append_assoc, List.cons_append]
  exact trim_moment 'T' ((visible_clockText _).append visible_zeroOffset) (by simp [clockText])

theorem date_again (hlength : raw.length = 4) (kept : (Date.ofDays (signed raw)).isKept = true) :
    PostgresType.date.bytes? (stringJson (Date.ofDays (signed raw)).text) = some raw := by
  have hdate : dateOf (Date.ofDays (signed raw)).text = some (Date.ofDays (signed raw)) := by
    have htext : DateText _ ((Date.ofDays (signed raw)).text ++ []) [] := date_text kept
    rw [List.append_nil] at htext
    exact Reader.whole_eq_some_iff.2 (Reader.run_date_iff.2 htext)
  rw [bytes?, trimmed?_stringJson (visible_dateText _)]
  simp only [Option.bind_eq_bind, Option.bind_some, hdate, Date.days_ofDays]
  rw [← hlength, bigEndian_signed]
  rfl

/-- A time is written as the time since midnight that it is shown as. -/
theorem time_bytes? (i : Int) : PostgresType.time.bytes? (stringJson (clockText (momentClock i))) =
    some (bigEndian 8 (i % dayLength)) := by
  have hclock : clockOf (clockText (momentClock i)) = some (1000 * momentClock i) :=
    Reader.whole_eq_some_iff.2 (Reader.run_clock_iff.2 (clock_text_nil (momentClock_lt i)))
  have hmicros : momentBytes (1000 * momentClock i : Nat) = bigEndian 8 (i % dayLength) := by
    have hnonneg : 0 ≤ i % dayLength := Int.emod_nonneg i (by decide)
    rw [momentBytes, Nat.cast_mul, Nat.cast_ofNat, microseconds_mul, momentClock,
      Int.toNat_of_nonneg hnonneg]
  rw [bytes?, trimmed?_stringJson (visible_clockText _)]
  simp only [Option.bind_eq_bind, Option.bind_some, hclock, hmicros]
  rfl

/-- What is left after whole days are the same bytes only before the end of the first. -/
theorem bigEndian_emod (hlength : raw.length = 8) :
    bigEndian 8 (signed raw % dayLength) = raw ↔ 0 ≤ signed raw ∧ signed raw < dayLength := by
  have hnonneg : 0 ≤ signed raw % dayLength := Int.emod_nonneg _ (by decide)
  have hlt : signed raw % dayLength < dayLength := Int.emod_lt_of_pos _ (by decide)
  constructor
  · intro hraw
    have hrange : InRange 8 (signed raw % dayLength) := by
      unfold dayLength at *
      exact inRange_eight.2 (by omega)
    have hsigned := signed_bigEndian hrange.1 hrange.2
    rw [hraw] at hsigned
    omega
  · rintro ⟨hfirst, hlast⟩
    rw [Int.emod_eq_of_lt hfirst hlast, ← hlength, bigEndian_signed]

end

/-- Bytes that are sent again as they were read: those of a moment with a zone in a year of four digits,
and those of a time before the end of the day. -/
def Survives : PostgresType → List UInt8 → Prop
  | .timestamptz, raw =>
    0 ≤ (momentDate (signed raw)).year ∧ (momentDate (signed raw)).year ≤ 9999
  | .time, raw => 0 ≤ signed raw ∧ signed raw < dayLength
  | _, _ => True

/-- **Which dates and times are sent again as they were read.**  The text that a column of such a type
is shown as is sent as the bytes that were read exactly if these are bytes that survive: all of a date
and of a moment without a zone.  A moment with a zone in a year that is not written in four digits is
refused, since the sign in front of the year is not read with an offset behind the time; a time of the
day is sent as what is left of it after whole days, which is the first midnight of a day where the
bytes are those of its last. -/
theorem temporal_again {t : PostgresType} (ht : Temporal t) {raw : List UInt8} {s : String}
    (h : columnJson t (some raw) = .string s) :
    (encode? t (.string s) = some (some raw) ↔ Survives t raw) ∧
    (t = .timestamptz → ¬ Survives t raw → encode? t (.string s) = none) ∧
    (t = .time → encode? t (.string s) = some (some (bigEndian 8 (signed raw % dayLength)))) := by
  obtain ⟨cs, hshows, rfl⟩ := (columnJson_temporal ht).1 h
  have hsent : encode? t (.string (String.ofList cs)) = (t.bytes? (stringJson cs)).map some := rfl
  rw [hsent]
  cases hshows with
  | timestamp hlength kept =>
    have hsaid := plainText_momentText kept (.inl rfl)
    rw [timestamp_again hlength (trim_momentText ' ' _) (.inr hsaid)]
    exact ⟨iff_of_true rfl trivial, nofun, nofun⟩
  | timestamptz hlength kept =>
    rw [timestamptz_bytes?]
    by_cases hyear : Survives .timestamptz raw
    · have hsaid := zonedText_momentText hyear.1 hyear.2
      rw [timestamp_again hlength (trim_zoned _) (.inl hsaid)]
      exact ⟨iff_of_true rfl hyear, fun _ hnot => absurd hyear hnot, nofun⟩
    · rw [timestamp_refused (trim_zoned _) fun n => momentText_signed kept hyear]
      exact ⟨iff_of_false nofun hyear, fun _ _ => rfl, nofun⟩
  | date hlength kept =>
    rw [date_again hlength kept]
    exact ⟨iff_of_true rfl trivial, nofun, nofun⟩
  | time hlength =>
    rw [time_bytes?]
    refine ⟨?_, nofun, fun _ => rfl⟩
    rw [Option.map_some, Option.some.injEq, Option.some.injEq]
    exact bigEndian_emod hlength

/-- The first moment of the year 2000 with a zone survives, and so does the last microsecond of a day. -/
theorem millennium_again : Temporal .timestamptz ∧ Temporal .time ∧
    columnJson .timestamptz (some [0, 0, 0, 0, 0, 0, 0, 0]) = .string "2000-01-01T00:00:00+00:00" ∧
    encode? .timestamptz (.string "2000-01-01T00:00:00+00:00") = some (some [0, 0, 0, 0, 0, 0, 0, 0]) ∧
    columnJson .time (some [0, 0, 0, 0x14, 0x1D, 0xD7, 0x5F, 0xFF]) = .string "23:59:59.999999" ∧
    encode? .time (.string "23:59:59.999999") =
      some (some [0, 0, 0, 0x14, 0x1D, 0xD7, 0x5F, 0xFF]) := by
  have hmoment : columnJson .timestamptz (some [0, 0, 0, 0, 0, 0, 0, 0]) =
      .string "2000-01-01T00:00:00+00:00" :=
    rfl
  have htime : columnJson .time (some [0, 0, 0, 0x14, 0x1D, 0xD7, 0x5F, 0xFF]) =
      .string "23:59:59.999999" :=
    rfl
  obtain ⟨hmoment', -⟩ := temporal_again .timestamptz hmoment
  obtain ⟨htime', -⟩ := temporal_again .time htime
  refine ⟨.timestamptz, .time, hmoment, hmoment'.2 ?_, htime, htime'.2 ?_⟩
  · unfold Survives
    decide +kernel
  · unfold Survives
    decide +kernel

/-- **Not all texts of columns are sent as the bytes that were read.**  The first moment of the year
10000 is refused with a zone, as it is shown; without one the same bytes survive.  The midnight that
ends a day is shown and sent as that which begins it. -/
theorem temporal_not_again :
    (columnJson .timestamptz (some [0x03, 0x80, 0xE7, 0x0B, 0x91, 0x3B, 0x80, 0x00]) =
        .string "+10000-01-01T00:00:00+00:00" ∧
      encode? .timestamptz (.string "+10000-01-01T00:00:00+00:00") = none) ∧
    (columnJson .timestamp (some [0x03, 0x80, 0xE7, 0x0B, 0x91, 0x3B, 0x80, 0x00]) =
        .string "+10000-01-01 00:00:00" ∧
      encode? .timestamp (.string "+10000-01-01 00:00:00") =
        some (some [0x03, 0x80, 0xE7, 0x0B, 0x91, 0x3B, 0x80, 0x00])) ∧
    (columnJson .time (some [0, 0, 0, 0x14, 0x1D, 0xD7, 0x60, 0x00]) = .string "00:00:00" ∧
      encode? .time (.string "00:00:00") = some (some [0, 0, 0, 0, 0, 0, 0, 0])) := by
  exact ⟨⟨rfl, by decide +kernel⟩, ⟨rfl, by decide +kernel⟩, rfl, by decide +kernel⟩

end PostgresType
end TableService
