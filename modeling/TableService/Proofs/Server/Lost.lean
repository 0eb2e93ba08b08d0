/-
  Values of columns that are read as null.

  * `Sent`: the bytes that stand for a value of a type, among them those of infinite numbers and dates and
    of what is no number.
  * `Lost`: the values that are too large or too far for what they are decoded to.
  * `null_iff_lost`: a value is read as null exactly if it is lost, and nothing tells it from a column
    without a value.
-/
import TableService.Proofs.Calendar.Days
import TableService.Proofs.Number.Single
import TableService.Proofs.Server.Kept
import TableService.Proofs.Server.Overflow
import TableService.Proofs.Server.Temporal

namespace TableService

namespace PostgresType

open Calendar

/-! ## Values -/

/-- The bytes of the values of a type, if all have as many. -/
def width? : PostgresType → Option Nat
  | .bool => some 1
  | .int2 => some 2
  | .int4 | .float4 | .date => some 4
  | .int8 | .float8 | .timestamp | .timestamptz | .time => some 8
  | .uuid => some 16
  | _ => none

/-- A numeral without digits, which a mark tells from zero. -/
def marked (mark : Nat) (weight places : Int) : List UInt8 :=
  bigEndian 2 0 ++ bigEndian 2 weight ++ bigEndian 2 mark ++ bigEndian 2 places

/-- The marks of infinite numbers, which are read as zero. -/
def infinityMarks : List Nat := [0xD000, 0xF000]

/-- The bytes of a value that is not null. -/
inductive Sent : PostgresType → List UInt8 → Prop
  | wide {t : PostgresType} {width : Nat} {raw : List UInt8} (type : t.width? = some width)
      (length : raw.length = width) : Sent t raw
  | bytea (raw : List UInt8) : Sent .bytea raw
  | numeral {n : PostgresNumeric} (fits : n.Fits) (groups : ∀ g ∈ n.groups, g < 10000) :
      Sent .numeric n.bytes
  | nan (weight places : Int) : Sent .numeric (marked PostgresNumeric.nanMark weight places)
  | infinite {mark : Nat} (mark_mem : mark ∈ infinityMarks) (weight places : Int) :
      Sent .numeric (marked mark weight places)

/-- The bytes of a numeral that has no decimal. -/
inductive LostNumeral : List UInt8 → Prop
  | large {n : PostgresNumeric} (fits : n.Fits) (groups : ∀ g ∈ n.groups, g < 10000)
      (le : (0x1000000000000000000000000 : ℚ) - 1 / 2 ≤ n.magnitude) : LostNumeral n.bytes
  | nan (weight places : Int) : LostNumeral (marked PostgresNumeric.nanMark weight places)

/-- The value of the bytes is lost: a double that is infinite or no number, a numeral that is no number
or so large that it is rounded to `2 ^ 96` or beyond, a date or a moment before the year -262143 or
after the year 262142. -/
def Lost : PostgresType → List UInt8 → Prop
  | .float4, raw => unsigned raw % 0x80000000 / 0x800000 = 255
  | .float8, raw => unsigned raw % 0x8000000000000000 / 0x10000000000000 = 2047
  | .numeric, raw => LostNumeral raw
  | .date, raw => signed raw < Date.newYear (-262143) ∨ Date.newYear 262143 ≤ signed raw
  | .timestamp, raw | .timestamptz, raw => signed raw < Date.newYear (-262143) * dayLength ∨
      Date.newYear 262143 * dayLength ≤ signed raw
  | _, _ => False

/-! ## Reading -/

section
variable {t : PostgresType} {raw : List UInt8}

theorem columnJson_of_decode? {j : Json} (h : t.decode? raw = some j) :
    columnJson t (some raw) = j := by
  rw [columnJson, Option.bind_some, h, Option.getD_some]

theorem columnJson_of_none (h : t.decode? raw = none) : columnJson t (some raw) = .null := by
  rw [columnJson, Option.bind_some, h, Option.getD_none]

/-- A double is null exactly if it is not finite. -/
theorem ofDouble_eq_null_iff (x : Double) : Json.ofDouble x = .null ↔ ¬ x.isFinite = true := by
  rw [Json.ofDouble]
  split_ifs with h
  · exact iff_of_false nofun (not_not_intro h)
  · exact iff_of_true rfl h

/-- Bytes are a number in the range of their width. -/
theorem inRange_signed (raw : List UInt8) : InRange raw.length (signed raw) := by
  have hlt := unsigned_lt raw
  unfold InRange signed
  simp only [Nat.pow_eq]
  split_ifs <;> omega

/-- A whole number is never lost. -/
theorem integer_ne_null {width : Nat} (hwidth : width ≤ 8) (hlength : raw.length = width)
    (hdecode : t.decode? raw = integerJson? width raw) : columnJson t (some raw) ≠ .null := by
  subst hlength
  obtain ⟨j, hj, hne, -⟩ := integer_passes hwidth (inRange_signed raw)
  rw [bigEndian_signed] at hj
  rwa [columnJson_of_decode? (hdecode.trans hj)]

/-- The moments whose years are kept follow one another. -/
theorem moment_kept_iff (micros : Int) : (momentDate micros).isKept = true ↔
    Date.newYear (-262143) * dayLength ≤ micros ∧ micros < Date.newYear 262143 * dayLength := by
  have hpos : (0 : Int) < dayLength := by decide
  rw [momentDate, Date.isKept_ofDays_iff, Int.le_ediv_iff_mul_le hpos, Int.ediv_lt_iff_lt_mul hpos]

/-- What is read only from one number on and up to another. -/
theorem kept_eq_none_iff {α : Type} {p kept : Prop} [Decidable (p ∧ kept)] {first last i : Int} {a : α}
    (hp : p) (hkept : kept ↔ first ≤ i ∧ i < last) :
    (if p ∧ kept then some a else none) = none ↔ i < first ∨ last ≤ i := by
  by_cases h : kept
  · obtain ⟨hlower, hupper⟩ := hkept.1 h
    rw [if_pos ⟨hp, h⟩]
    exact iff_of_false (Option.some_ne_none a) (by omega)
  · rw [if_neg fun hboth => h hboth.2]
    rw [hkept] at h
    exact iff_of_true rfl (by omega)

theorem moment?_eq_none_iff (hlength : raw.length = 8) :
    moment? raw = none ↔ signed raw < Date.newYear (-262143) * dayLength ∨
      Date.newYear 262143 * dayLength ≤ signed raw :=
  kept_eq_none_iff hlength (moment_kept_iff (signed raw))

theorem date?_eq_none_iff (hlength : raw.length = 4) :
    date? raw = none ↔ signed raw < Date.newYear (-262143) ∨ Date.newYear 262143 ≤ signed raw :=
  kept_eq_none_iff hlength (Date.isKept_ofDays_iff (signed raw))

/-- A text that is made of what is read is null exactly if nothing is read. -/
theorem stringJson_eq_null_iff {α : Type} {o : Option α} {text : α → List Char}
    (hdecode : t.decode? raw = o.bind fun a => some (stringJson (text a))) :
    columnJson t (some raw) = .null ↔ o = none := by
  cases o with
  | none => exact iff_of_true (columnJson_of_none hdecode) rfl
  | some a =>
    rw [columnJson_of_decode? hdecode]
    exact iff_of_false nofun (Option.some_ne_none a)

/-- **Which values of a width are read as null.** -/
theorem wide_null_iff {width : Nat} (htype : t.width? = some width) (hlength : raw.length = width) :
    columnJson t (some raw) = .null ↔ Lost t raw := by
  cases t with
  | bool =>
    cases htype
    have hdecode : decode? .bool raw = some (.bool (unsigned raw != 0)) := if_pos hlength
    rw [columnJson_of_decode? hdecode]
    exact iff_of_false nofun id
  | int2 | int4 | int8 =>
    cases htype
    exact iff_of_false (integer_ne_null (by decide) hlength rfl) id
  | float4 =>
    cases htype
    have hdecode : decode? .float4 raw = some (.ofDouble (.ofSingleBits (unsigned raw))) :=
      if_pos hlength
    rw [columnJson_of_decode? hdecode, ofDouble_eq_null_iff, Double.isFinite_ofSingleBits_iff,
      not_not, Lost]
  | float8 =>
    cases htype
    have hdecode : decode? .float8 raw = some (.ofDouble ⟨(unsigned raw).toUInt64⟩) :=
      if_pos hlength
    have hlt : unsigned raw < 256 ^ 8 := (unsigned_lt raw).trans_eq (by rw [hlength])
    have hbits : (unsigned raw).toUInt64.toNat = unsigned raw := UInt64.toNat_ofNat_of_lt' hlt
    rw [columnJson_of_decode? hdecode, ofDouble_eq_null_iff, Double.isFinite_iff, not_not, hbits,
      Lost]
  | timestamp | timestamptz =>
    cases htype
    exact (stringJson_eq_null_iff rfl).trans (moment?_eq_none_iff hlength)
  | date =>
    cases htype
    exact (stringJson_eq_null_iff rfl).trans (date?_eq_none_iff hlength)
  | time =>
    cases htype
    have hdecode : decode? .time raw =
        some (stringJson (clockText (momentClock (signed raw)))) := if_pos hlength
    rw [columnJson_of_decode? hdecode]
    exact iff_of_false nofun id
  | uuid =>
    cases htype
    have huuid : Uuid.ofBytes? raw = some ⟨raw, hlength⟩ := dif_pos hlength
    refine iff_of_false (mt (stringJson_eq_null_iff rfl).1 ?_) id
    rw [huuid]
    exact Option.some_ne_none _
  | bytea | json | jsonb | numeric | text | other => cases htype

/-! ## Numerals -/

/-- A numeral is read as null exactly if there is no decimal for it. -/
theorem numeric_null_iff : columnJson .numeric (some raw) = .null ↔
    (PostgresNumeric.ofBytes? raw).bind PostgresNumeric.decimal? = none := by
  have hdecode : decode? .numeric raw =
      ((PostgresNumeric.ofBytes? raw).bind PostgresNumeric.decimal?).map decimalJson := by
    rw [decode?, Option.map_eq_bind, Option.bind_assoc]
    rfl
  cases hd : (PostgresNumeric.ofBytes? raw).bind PostgresNumeric.decimal? with
  | none => exact iff_of_true (columnJson_of_none (by rw [hdecode, hd, Option.map_none])) rfl
  | some d =>
    rw [columnJson_of_decode? (j := decimalJson d) (by rw [hdecode, hd, Option.map_some])]
    exact iff_of_false (decimalJson_ne_null d) (Option.some_ne_none d)

theorem numeral_null_iff {n : PostgresNumeric} (hfits : n.Fits) (hgroups : ∀ g ∈ n.groups, g < 10000) :
    columnJson .numeric (some n.bytes) = .null ↔
      (0x1000000000000000000000000 : ℚ) - 1 / 2 ≤ n.magnitude := by
  rw [numeric_null_iff, PostgresNumeric.ofBytes?_bytes hfits hgroups, Option.bind_some,
    PostgresNumeric.decimal?_eq_none_iff hgroups]

theorem words?_marked (mark : Nat) (weight places : Int) :
    PostgresNumeric.words? 4 (marked mark weight places) =
      some [0, (weight % 0x10000).toNat, ((mark : Int) % 0x10000).toNat, (places % 0x10000).toNat] := by
  have hend : marked mark weight places = bigEndian 2 0 ++ (bigEndian 2 weight ++
      (bigEndian 2 mark ++ (bigEndian 2 places ++ []))) := by
    simp only [marked, List.append_assoc, List.append_nil]
  rw [hend, PostgresNumeric.words?_append, PostgresNumeric.words?_append,
    PostgresNumeric.words?_append, PostgresNumeric.words?_append]
  rfl

/-- What is no number is not read. -/
theorem nan_null (weight places : Int) :
    columnJson .numeric (some (marked PostgresNumeric.nanMark weight places)) = .null := by
  have hread : PostgresNumeric.ofBytes? (marked PostgresNumeric.nanMark weight places) = none := by
    unfold PostgresNumeric.ofBytes?
    rw [words?_marked]
    rfl
  rw [numeric_null_iff, hread, Option.bind_none]

/-- An infinite number is read as zero. -/
theorem infinite_not_null {mark : Nat} (hmark : mark ∈ infinityMarks) (weight places : Int) :
    columnJson .numeric (some (marked mark weight places)) ≠ .null := by
  have hread : PostgresNumeric.ofBytes? (marked mark weight places) =
      some ⟨[], signed (bytesOfNat 2 (weight % 0x10000).toNat), false, (places % 0x10000).toNat⟩ := by
    unfold PostgresNumeric.ofBytes?
    rw [words?_marked]
    rcases List.mem_pair.1 hmark with rfl | rfl <;> rfl
  rw [Ne, numeric_null_iff, hread, Option.bind_some,
    PostgresNumeric.decimal?_eq_none_iff (List.forall_mem_nil _), PostgresNumeric.magnitude,
    PostgresNumeric.groupsValue]
  norm_num

theorem lostNumeral_null (h : LostNumeral raw) : columnJson .numeric (some raw) = .null := by
  cases h with
  | large hfits hgroups hle => exact (numeral_null_iff hfits hgroups).2 hle
  | nan weight places => exact nan_null weight places

end

/-- **A value is read as null exactly if it is lost**: whole numbers, truth values, bytes, times of the day
and identifiers never are, and all other values are kept unless they are too large, too far or no
numbers. -/
theorem null_iff_lost {t : PostgresType} {raw : List UInt8} (h : Sent t raw) :
    columnJson t (some raw) = .null ↔ Lost t raw := by
  cases h with
  | wide htype hlength => exact wide_null_iff htype hlength
  | bytea =>
    rw [columnJson_of_decode? (j := .ofBytes raw) rfl]
    exact iff_of_false nofun id
  | numeral hfits hgroups =>
    exact ⟨fun hnull => .large hfits hgroups ((numeral_null_iff hfits hgroups).1 hnull),
      lostNumeral_null⟩
  | nan weight places => exact iff_of_true (nan_null weight places) (.nan weight places)
  | infinite hmark weight places =>
    exact iff_of_false (infinite_not_null hmark weight places) fun hlost =>
      infinite_not_null hmark weight places (lostNumeral_null hlost)

/-- A numeral with the number `2 ^ 96`. -/
def tooLarge : PostgresNumeric := ⟨[7, 9228, 1625, 1426, 4337, 5935, 4395, 336], 7, false, 0⟩

/-- The number is lost, as a decimal has 96 bits. -/
theorem tooLarge_lost : Sent .numeric tooLarge.bytes ∧ Lost .numeric tooLarge.bytes ∧
    columnJson .numeric (some tooLarge.bytes) = .null := by
  have hfits : tooLarge.Fits := ⟨by decide, by decide, by decide, by decide⟩
  have hsent : Sent .numeric tooLarge.bytes := .numeral hfits (by decide)
  have hlost : Lost .numeric tooLarge.bytes := .large hfits (by decide) (by
    norm_num [tooLarge, PostgresNumeric.magnitude, PostgresNumeric.groupsValue])
  exact ⟨hsent, hlost, (null_iff_lost hsent).2 hlost⟩

/-- The moment that stands for infinity. -/
def endOfTime : List UInt8 := [0x7F, 0xFF, 0xFF, 0xFF, 0xFF, 0xFF, 0xFF, 0xFF]

/-- Values that are there are read as null: a number of 29 digits, and the moment that is later than all
others. -/
theorem value_read_as_null :
    (Sent .numeric tooLarge.bytes ∧ columnJson .numeric (some tooLarge.bytes) = .null) ∧
    Sent .timestamp endOfTime ∧ columnJson .timestamp (some endOfTime) = .null := by
  refine ⟨⟨.numeral ⟨by decide, by decide, by decide, by decide⟩ (by decide), ?_⟩,
    .wide rfl rfl, ?_⟩
  · rfl
  · rfl

end PostgresType

end TableService
