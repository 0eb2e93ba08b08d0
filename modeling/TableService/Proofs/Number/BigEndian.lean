/-
  Bytes and the whole numbers that they are.

  * `bytesOfNat_unsigned`, `bigEndian_signed`: bytes are written again as they were read, without and
    with a sign.
  * `IsComplement`: bytes are the complement form of a number, said without the writer;
    `isComplement_iff`: the writer gives these bytes and no others.
-/
import Mathlib.Data.Int.ModEq
import Mathlib.Data.List.Induction
import Mathlib.Tactic.SplitIfs
import TableService.Number.BigEndian

namespace TableService

theorem unsigned_lt (l : List UInt8) : unsigned l < 256 ^ l.length := by
  induction l using List.reverseRecOn with
  | nil => exact Nat.one_pos
  | append_singleton l b ih =>
    have hb := b.toNat_lt
    rw [unsigned_append, List.length_append, List.length_singleton, pow_succ]
    omega

/-- **Bytes are written again as they were read.** -/
theorem bytesOfNat_unsigned (l : List UInt8) : bytesOfNat l.length (unsigned l) = l := by
  induction l using List.reverseRecOn with
  | nil => rfl
  | append_singleton l b ih =>
    have hb := b.toNat_lt
    have hfront : (256 * unsigned l + b.toNat) / 256 = unsigned l := by omega
    have hlast : (256 * unsigned l + b.toNat) % 256 = b.toNat := by omega
    rw [List.length_append, List.length_singleton, bytesOfNat, unsigned_append, hfront, hlast, ih,
      UInt8.ofNat_toNat]

theorem unsigned_bigEndian (width : Nat) (i : Int) :
    (unsigned (bigEndian width i) : Int) = i % (256 ^ width : Nat) := by
  have hpos : 0 < 256 ^ width := Nat.pow_pos (by decide)
  have hlt := Int.emod_lt_of_pos i (b := (256 ^ width : Nat)) (by omega)
  have hnonneg := Int.emod_nonneg i (b := (256 ^ width : Nat)) (by omega)
  rw [bigEndian, unsigned_bytesOfNat, Nat.pow_eq]
  rw [Nat.mod_eq_of_lt (by omega), Int.toNat_of_nonneg hnonneg]

/-- The number with a sign is that without one, up to the range of the width. -/
theorem signed_modEq (l : List UInt8) : signed l ≡ unsigned l [ZMOD (256 ^ l.length : Nat)] := by
  unfold signed
  split_ifs
  · exact Int.ModEq.rfl
  · exact Int.sub_emod_right _ _

/-- **Bytes are written again as they were read**, also with a sign. -/
theorem bigEndian_signed (l : List UInt8) : bigEndian l.length (signed l) = l := by
  have hlt := unsigned_lt l
  have hmod : signed l % (256 ^ l.length : Nat) = unsigned l := by
    rw [signed_modEq l, Int.emod_eq_of_lt (by omega) (by exact_mod_cast hlt)]
  rw [bigEndian, Nat.pow_eq, hmod, Int.toNat_natCast, bytesOfNat_unsigned]

/-- Bytes are the complement form of a whole number in a width: so many bytes, of which the number,
without a sign, differs from it by a multiple of their range. -/
structure IsComplement (width : Nat) (i : Int) (raw : List UInt8) : Prop where
  length : raw.length = width
  congruent : (unsigned raw : Int) ≡ i [ZMOD (256 ^ width : Nat)]

/-- **A number has one complement form**, and this is what is written. -/
theorem isComplement_iff {width : Nat} {i : Int} {raw : List UInt8} :
    IsComplement width i raw ↔ raw = bigEndian width i := by
  constructor
  · rintro ⟨rfl, hcongruent⟩
    have hlt := unsigned_lt raw
    have hmod : i % (256 ^ raw.length : Nat) = unsigned raw := by
      rw [← hcongruent, Int.emod_eq_of_lt (by omega) (by exact_mod_cast hlt)]
    rw [bigEndian, Nat.pow_eq, hmod, Int.toNat_natCast, bytesOfNat_unsigned]
  · rintro rfl
    refine ⟨length_bigEndian width i, ?_⟩
    rw [unsigned_bigEndian]
    exact Int.mod_modEq i _

end TableService
