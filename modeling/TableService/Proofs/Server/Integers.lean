/-
  Whole numbers as parameters of PostgreSQL.

  * `Json.SaysInteger`: the whole number that a value says: a number without a fraction itself, a truth
    value one or zero, a string what its digits spell.
  * `integers_encoded`: a value is sent for a type of whole numbers exactly if it says one in the range
    of the type, and then in the complement form, from which the number is read back.
-/
import TableService.Proofs.Number.BigEndian
import TableService.Proofs.Server.Kept

namespace TableService

/-- The whole number that a value says. -/
inductive Json.SaysInteger : Json → Int → Prop
  | number (i : Int) (lower upper) : SaysInteger (.number (.int i lower upper)) i
  | truth (b : Bool) : SaysInteger (.bool b) (if b then 1 else 0)
  /-- The text without blanks at its ends is digits, with or without a sign. -/
  | text {s : String} {cs : List Char} {i : Int} (trimmed : Text.trim s = String.ofList cs)
      (signed : IsSignedNumeral cs i) : SaysInteger (.string s) i

namespace PostgresType

/-- A parameter that is not null has bytes. -/
theorem encode?_eq_some_iff {t : PostgresType} {v : Json} {raw : List UInt8} :
    encode? t v = some (some raw) ↔ v ≠ .null ∧ t.bytes? v = some raw := by
  cases v with
  | null => simp [encode?]
  | bool | number | string | array | object => simp [encode?]

theorem encode?_eq_none_iff {t : PostgresType} {v : Json} :
    encode? t v = none ↔ v ≠ .null ∧ t.bytes? v = none := by
  cases v with
  | null => simp [encode?]
  | bool | number | string | array | object => simp [encode?]

/-! ## Reading -/

/-- Eight bytes hold the numbers of 64 bits with sign. -/
theorem inRange_eight {i : Int} :
    InRange 8 i ↔ -0x8000000000000000 ≤ i ∧ i < 0x8000000000000000 := by
  have hpow : (Nat.pow 256 8 : Nat) = 0x10000000000000000 := by norm_num
  rw [InRange, hpow]
  omega

theorem long?_eq_some_iff {i j : Int} : long? i = some j ↔ i = j ∧ InRange 8 i := by
  rw [long?, Option.ite_none_right_eq_some, Option.some.injEq, inRange_eight, and_comm]

/-- **A value is read as the whole number that it says**, if this has 64 bits. -/
theorem integerOf?_eq_some_iff {v : Json} {i : Int} :
    integerOf? v = some i ↔ v.SaysInteger i ∧ InRange 8 i := by
  cases v with
  | bool b =>
    rw [integerOf?, Option.some.injEq]
    constructor
    · rintro rfl
      refine ⟨.truth b, ?_⟩
      unfold InRange
      cases b <;> decide
    · rintro ⟨⟨⟩, -⟩
      rfl
  | number n =>
    cases n with
    | int j lower upper =>
      rw [integerOf?, long?_eq_some_iff]
      constructor
      · rintro ⟨rfl, h⟩
        exact ⟨.number j lower upper, h⟩
      · rintro ⟨⟨⟩, h⟩
        exact ⟨rfl, h⟩
    | double x finite =>
      constructor
      · rintro ⟨⟩
      · rintro ⟨⟨⟩, -⟩
  | string s =>
    have hread : integerOf? (.string s) =
        (integerOf (Text.stripBoth Text.isBlank s.toList)).bind long? := rfl
    rw [hread, Option.bind_eq_some_iff]
    constructor
    · rintro ⟨j, hj, hlong⟩
      obtain ⟨rfl, h⟩ := long?_eq_some_iff.1 hlong
      exact ⟨.text rfl (integerOf_eq_some_iff.1 hj), h⟩
    · rintro ⟨htext, h⟩
      cases htext with
      | text htrimmed hsigned =>
        refine ⟨i, ?_, long?_eq_some_iff.2 ⟨rfl, h⟩⟩
        rw [String.ofList_injective htrimmed]
        exact integerOf_eq_some_iff.2 hsigned
  | null | array | object =>
    constructor
    · rintro ⟨⟩
    · rintro ⟨⟨⟩, -⟩

/-! ## Writing -/

/-- A type of whole numbers, and the number of its bytes. -/
inductive IsInteger : PostgresType → Nat → Prop
  | int2 : IsInteger .int2 2
  | int4 : IsInteger .int4 4
  | int8 : IsInteger .int8 8

section
variable {t : PostgresType} {width : Nat} (h : IsInteger t width)
include h

theorem IsInteger.width_le : width ≤ 8 := by
  cases h <;> decide

theorem IsInteger.bytes? (v : Json) : t.bytes? v = (integerOf? v).bind (integerBytes? width) := by
  cases h <;> rfl

theorem IsInteger.columnJson (raw : List UInt8) :
    columnJson t (some raw) = (integerJson? width raw).getD .null := by
  cases h <;> rfl

/-- What is in the range of a type has 64 bits. -/
theorem IsInteger.inRange {i : Int} (hi : InRange width i) : InRange 8 i := by
  have hpow : Nat.pow 256 width ≤ Nat.pow 256 8 := Nat.pow_le_pow_right (by decide) h.width_le
  obtain ⟨hlower, hupper⟩ := hi
  constructor <;> omega

theorem IsInteger.bytes?_eq_some_iff {v : Json} {raw : List UInt8} : t.bytes? v = some raw ↔
    ∃ i, v.SaysInteger i ∧ InRange width i ∧ raw = bigEndian width i := by
  rw [h.bytes?, Option.bind_eq_some_iff]
  constructor
  · rintro ⟨i, hi, hbytes⟩
    unfold integerBytes? at hbytes
    split_ifs at hbytes with hrange
    exact ⟨i, (integerOf?_eq_some_iff.1 hi).1, hrange, (Option.some.inj hbytes).symm⟩
  · rintro ⟨i, hsaid, hrange, rfl⟩
    exact ⟨i, integerOf?_eq_some_iff.2 ⟨hsaid, h.inRange hrange⟩, if_pos hrange⟩

/-- **Whole numbers are sent as they are, or not at all.**  A value is sent for a type of whole numbers
exactly if it says one that is in the range of the type; the bytes are its complement form, and the
column that holds them shows the number again.  Any other value but null is refused: no number is cut
to the width of the type, and a number that is written as a double is not taken for a whole one. -/
theorem integers_encoded (v : Json) :
    (∀ raw, encode? t v = some (some raw) ↔
      ∃ i, v.SaysInteger i ∧ InRange width i ∧ IsComplement width i raw) ∧
    (∀ i raw, InRange width i → IsComplement width i raw →
      ∃ lower upper, columnJson t (some raw) = .number (.int i lower upper)) ∧
    (encode? t v = none ↔ v ≠ .null ∧ ∀ i, v.SaysInteger i → ¬ InRange width i) ∧
    ∀ x finite, v = .number (.double x finite) → encode? t v = none := by
  have hbytes {raw : List UInt8} : t.bytes? v = some raw ↔
      ∃ i, v.SaysInteger i ∧ InRange width i ∧ IsComplement width i raw := by
    simp only [h.bytes?_eq_some_iff, isComplement_iff]
  have hnone : encode? t v = none ↔ v ≠ .null ∧ ∀ i, v.SaysInteger i → ¬ InRange width i := by
    rw [encode?_eq_none_iff]
    refine and_congr_right fun _ => ?_
    rw [Option.eq_none_iff_forall_ne_some]
    constructor
    · intro hno i hi hrange
      exact hno _ (hbytes.2 ⟨i, hi, hrange, isComplement_iff.2 rfl⟩)
    · intro hno raw hraw
      obtain ⟨i, hi, hrange, -⟩ := hbytes.1 hraw
      exact hno i hi hrange
  refine ⟨fun raw => ?_, fun i raw hi hraw => ?_, hnone, ?_⟩
  · rw [encode?_eq_some_iff, hbytes]
    refine and_iff_right_of_imp ?_
    rintro ⟨i, hi, -⟩ rfl
    cases hi
  · obtain rfl := isComplement_iff.1 hraw
    have hlong := inRange_eight.1 (h.inRange hi)
    have hjson : -0x8000000000000000 ≤ i ∧ i < 0x10000000000000000 := by omega
    refine ⟨hjson.1, hjson.2, ?_⟩
    rw [h.columnJson, integerJson?, if_pos (length_bigEndian width i), signed_bigEndian hi.1 hi.2,
      Json.ofInt?, dif_pos hjson]
    rfl
  · rintro x finite rfl
    refine hnone.2 ⟨?_, ?_⟩
    · rintro ⟨⟩
    · rintro i ⟨⟩

end

/-- The least number of two bytes is sent from a text with blanks around it and shown again; the number
after the greatest is refused. -/
theorem least_integer_encoded : IsInteger .int2 2 ∧
    encode? .int2 (.string " -32768\n") = some (some [0x80, 0x00]) ∧
    (∃ lower upper, columnJson .int2 (some [0x80, 0x00]) = .number (.int (-32768) lower upper)) ∧
    encode? .int2 (.number (.int 32768 (by decide) (by decide))) = none := by
  have hrange : InRange 2 (-32768) := by
    unfold InRange
    decide
  have hcomplement : IsComplement 2 (-32768) [0x80, 0x00] := isComplement_iff.2 (by decide)
  have hdigits : ∀ c ∈ "32768".toList, c.isDigit = true := List.all_eq_true.1 (by decide)
  have hnumeral : IsNumeral "32768".toList 32768 := ⟨by decide, hdigits, by decide⟩
  have hsaid : (Json.string " -32768\n").SaysInteger (-32768 : Int) :=
    .text (by decide +kernel) (.minus hnumeral)
  obtain ⟨hsent, hshown, -⟩ := integers_encoded .int2 (.string " -32768\n")
  obtain ⟨-, -, hrefused, -⟩ :=
    integers_encoded .int2 (.number (.int 32768 (by decide) (by decide)))
  refine ⟨.int2, (hsent _).2 ⟨_, hsaid, hrange, hcomplement⟩, hshown _ _ hrange hcomplement,
    hrefused.2 ⟨nofun, ?_⟩⟩
  rintro i ⟨⟩ ⟨-, hupper⟩
  exact absurd hupper (by decide)

end PostgresType
end TableService
