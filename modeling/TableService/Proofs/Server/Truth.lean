/-
  Numbers as truth values of PostgreSQL.

  * `decimalOf?_zero_iff`, `doubleOf?_number`: as a decimal or as a double, a number is zero exactly if
    it is zero.
  * `truth_sent`: which truth value is sent for a number, beside what is sent of it for the types of
    numbers.  It is that of the number only for zero and for whole numbers that have 64 bits with sign;
    for all other numbers it is false.
-/
import TableService.Proofs.Number.Zero
import TableService.Proofs.Server.Integers

namespace TableService

/-- The number is a whole one of 64 bits with sign. -/
def JsonNumber.IsLong : JsonNumber → Prop
  | .int i _ _ => i < 0x8000000000000000
  | .double _ _ => False

namespace PostgresType

/-! ## As a number -/

theorem decimalOf?_number (n : JsonNumber) :
    decimalOf? (.number n) = decimalOf?.ofNumeral n.text := by
  rw [decimalOf?, Json.render, String.toList_ofList, Json.chars]

/-- **A number is zero as a decimal exactly if it is zero.** -/
theorem decimalOf?_zero_iff {n : JsonNumber} {d : Decimal} (h : decimalOf? (.number n) = some d) :
    d.coefficient = 0 ↔ n.IsZero := by
  rw [decimalOf?_number] at h
  constructor
  · intro hd
    by_contra hn
    have hleads := n.leads_text hn
    rw [decimalOf?.ofNumeral, Option.orElse_eq_orElse, Option.orElse_eq_or,
      Option.or_eq_some_iff] at h
    rcases h with h | ⟨-, h⟩
    · exact Decimal.ofText?_ne_zero hleads h hd
    · exact Decimal.ofScientific?_ne_zero hleads h hd
  · intro hn
    cases n with
    | int i lower upper =>
      obtain rfl : i = 0 := hn
      cases h
      rfl
    | double x finite =>
      obtain ⟨s, e, hv⟩ := Double.finite_of_isZero hn
      have htext : (JsonNumber.double x finite).text = if s then "-0.0".toList else "0.0".toList := by
        rw [JsonNumber.text, Double.jsonText, hv]
        cases s <;> rfl
      rw [htext] at h
      cases s <;> cases h <;> rfl

theorem doubleOf?_number (n : JsonNumber) :
    ∃ x, doubleOf? (.number n) = some x ∧ (x.isZero = true ↔ n.IsZero) := by
  cases n with
  | int i lower upper =>
    refine ⟨.ofInt i, rfl, Double.isZero_ofInt ?_⟩
    have hlog : i.natAbs.log2 < 65 := by
      by_cases hi : i.natAbs = 0
      · rw [hi]
        decide
      · exact (Nat.log2_lt hi).2 (by omega)
    omega
  | double x finite => exact ⟨x, rfl, Iff.rfl⟩

/-- A whole number has eight bytes exactly if it has 64 bits with sign. -/
theorem saysInteger_number {n : JsonNumber} :
    (∃ i, (Json.number n).SaysInteger i ∧ InRange 8 i) ↔ n.IsLong := by
  simp only [inRange_eight]
  cases n with
  | int i lower upper =>
    constructor
    · rintro ⟨j, hj, hrange⟩
      cases hj
      change i < 0x8000000000000000
      omega
    · intro h
      change i < 0x8000000000000000 at h
      exact ⟨i, .number i lower upper, by omega⟩
  | double x finite => exact ⟨nofun, nofun⟩

/-! ## As a truth value -/

theorem boolOf?_number (n : JsonNumber) :
    ∃ b, boolOf? (.number n) = some b ∧ (b = true ↔ n.IsLong ∧ ¬ n.IsZero) := by
  cases n with
  | int i lower upper =>
    refine ⟨_, rfl, ?_⟩
    rw [bne_iff_ne, long?, JsonNumber.IsLong, JsonNumber.IsZero]
    split_ifs with h
    · exact (and_iff_right h.2).symm
    · exact ⟨fun hne => absurd rfl hne, fun hlong => absurd ⟨lower, hlong.1⟩ h⟩
  | double x finite =>
    refine ⟨false, rfl, ?_, fun h => absurd h.1 id⟩
    rintro ⟨⟩

/-- **Which truth value is sent for a number.**  One is sent for every number: true exactly if the
number is a whole one of 64 bits with sign and not zero.  For the types of numbers the same number is
sent as zero exactly if it is zero: as eight bytes, which exist exactly if it is a whole number of 64
bits with sign, as a double, and as a decimal if it is one.  So the truth value agrees with all of them
exactly if the number is zero or a whole one of 64 bits with sign; false is sent for a fraction, for any
other number that is written as a double, and for whole numbers from `2 ^ 63` on. -/
theorem truth_sent (n : JsonNumber) :
    (∃ b, encode? .bool (.number n) = some (some [if b then 1 else 0]) ∧
      (b = true ↔ n.IsLong ∧ ¬ n.IsZero) ∧ ((b = true ↔ ¬ n.IsZero) ↔ n.IsZero ∨ n.IsLong)) ∧
    ((∃ raw, encode? .int8 (.number n) = some (some raw)) ↔ n.IsLong) ∧
    (∀ raw, encode? .int8 (.number n) = some (some raw) → (signed raw = 0 ↔ n.IsZero)) ∧
    (∃ x : Double, encode? .float8 (.number n) = some (some (bigEndian 8 x.bits.toNat)) ∧
      (x.isZero = true ↔ n.IsZero)) ∧
    ∀ raw, encode? .numeric (.number n) = some (some raw) →
      ∃ d, Means raw .numeric (.numeric d) ∧ (d.value = 0 ↔ n.IsZero) := by
  have hint8 {raw : List UInt8} : encode? .int8 (.number n) = some (some raw) ↔
      ∃ i, (Json.number n).SaysInteger i ∧ InRange 8 i ∧ raw = bigEndian 8 i := by
    rw [encode?_eq_some_iff, IsInteger.int8.bytes?_eq_some_iff]
    exact and_iff_right nofun
  refine ⟨?_, ?_, fun raw hraw => ?_, ?_, fun raw hraw => ?_⟩
  · obtain ⟨b, hb, htrue⟩ := boolOf?_number n
    refine ⟨b, encode?_eq_some_iff.2 ⟨nofun, ?_⟩, htrue, ?_⟩
    · rw [bytes?, hb, Option.map_some]
    · rw [htrue]
      tauto
  · rw [← saysInteger_number]
    constructor
    · rintro ⟨raw, hraw⟩
      obtain ⟨i, hi, hrange, -⟩ := hint8.1 hraw
      exact ⟨i, hi, hrange⟩
    · rintro ⟨i, hi, hrange⟩
      exact ⟨_, hint8.2 ⟨i, hi, hrange, rfl⟩⟩
  · obtain ⟨i, hi, hrange, rfl⟩ := hint8.1 hraw
    cases hi
    rw [signed_bigEndian hrange.1 hrange.2]
    exact Iff.rfl
  · obtain ⟨x, hx, hzero⟩ := doubleOf?_number n
    refine ⟨x, encode?_eq_some_iff.2 ⟨nofun, ?_⟩, hzero⟩
    rw [bytes?, hx, Option.map_some]
  · obtain ⟨-, hbytes⟩ := encode?_eq_some_iff.1 hraw
    obtain ⟨d, hd, rfl⟩ := Option.map_eq_some_iff.1 hbytes
    obtain ⟨hdenotes, hfits⟩ := PostgresNumeric.denotes_ofDecimal d
    exact ⟨d, ⟨_, hdenotes, hfits, rfl⟩, (d.value_eq_zero_iff).trans (decimalOf?_zero_iff hd)⟩

/-- One half. -/
def half : JsonNumber := .double ⟨0x3FE0000000000000⟩ (by decide)

/-- The least whole number that does not have 64 bits with sign. -/
def tooLong : JsonNumber := .int 0x8000000000000000 (by decide) (by decide)

/-- **Numbers other than zero are sent as false**: one half, which is sent as such for a double, and the
least whole number that does not have 64 bits with sign, which is refused as a whole number. -/
theorem sent_as_false :
    (¬ half.IsZero ∧ encode? .bool (.number half) = some (some [0]) ∧
      encode? .float8 (.number half) = some (some [0x3F, 0xE0, 0, 0, 0, 0, 0, 0])) ∧
    (¬ tooLong.IsZero ∧ encode? .bool (.number tooLong) = some (some [0]) ∧
      encode? .int8 (.number tooLong) = none) := by
  refine ⟨⟨?_, by decide +kernel, by decide +kernel⟩, ?_, by decide +kernel, by decide +kernel⟩
  · unfold JsonNumber.IsZero half
    decide +kernel
  · unfold JsonNumber.IsZero tooLong
    decide

end PostgresType
end TableService
