/-
  Numbers of single precision as doubles.

  * `value_ofSingleBits`: a finite number is the same as a double.
  * `isFinite_ofSingleBits_iff`, `isFinite_iff`: the patterns of finite numbers are those whose exponent
    bits are not all set.
-/
import TableService.Proofs.Number.Whole

namespace TableService

/-! ## Patterns of 32 bits -/

theorem single_decode_eq (bits : Nat) : binary32.decode bits =
    if bits % 0x80000000 / 0x800000 = 255 then
      if bits % 0x800000 = 0 then .infinite (0x80000000 ≤ bits) else .nan
    else if bits % 0x80000000 / 0x800000 = 0 then
      .finite (0x80000000 ≤ bits) (bits % 0x800000) (-149)
    else .finite (0x80000000 ≤ bits) (0x800000 + bits % 0x800000)
      (-149 + (bits % 0x80000000 / 0x800000 : Nat) - 1) := rfl

/-- Significands and exponents of 24 digits. -/
theorem single_bounds {bits m : Nat} {s : Bool} {e : Int} (h : binary32.decode bits = .finite s m e) :
    m < 2 ^ 24 ∧ -149 ≤ e ∧ e ≤ 104 := by
  rw [single_decode_eq] at h
  split_ifs at h <;> cases h <;> omega

/-! ## Rounding -/

/-- A number of 24 digits is not rounded. -/
theorem round_binaryRatio {m : Nat} {e : Int} (hm : m ≠ 0) (hlt : m < 2 ^ 24) (hlower : -149 ≤ e)
    (hupper : e ≤ 104) (s : Bool) : ∃ k : Nat, Canonical (m * 2 ^ k) (e - k) ∧
      binary64.round s (binaryRatio m e).1 (binaryRatio m e).2 = .finite s (m * 2 ^ k) (e - k) := by
  have hlog : m.log2 < 24 := (Nat.log2_lt hm).2 hlt
  obtain ⟨k, hk⟩ : ∃ k, 52 = m.log2 + k := ⟨52 - m.log2, by omega⟩
  have hfull : 2 ^ 52 ≤ m * 2 ^ k := by
    rw [hk, Nat.pow_add]
    exact Nat.mul_le_mul_right _ (Nat.log2_self_le hm)
  have hsmall : m * 2 ^ k < 2 ^ 53 := by
    rw [show 53 = m.log2 + 1 + k by omega, Nat.pow_add]
    exact Nat.mul_lt_mul_of_pos_right Nat.lt_log2_self (Nat.two_pow_pos k)
  refine ⟨k, ⟨by omega, by omega, hsmall, .inl hfull⟩, ?_⟩
  rcases Int.lt_or_le e 0 with hneg | hpos
  · obtain ⟨b, rfl⟩ : ∃ b : Nat, e = -b := ⟨e.natAbs, by omega⟩
    have hratio : binaryRatio m (-b) = (m, 2 ^ b) := by
      rw [binaryRatio, if_neg (by omega), Int.neg_neg, Int.toNat_natCast, Nat.pow_eq]
    rw [hratio, round_part (by omega) hfull hsmall (by omega)]
    simp only [BinaryValue.finite.injEq, true_and]
    omega
  · obtain ⟨j, rfl⟩ := Int.eq_ofNat_of_zero_le hpos
    have hratio : binaryRatio m j = (m * 2 ^ j, 1) := by
      rw [binaryRatio, if_pos hpos, Int.toNat_natCast, Nat.pow_eq]
    rw [hratio]
    rcases Nat.lt_or_ge j k with hgt | hle
    · obtain ⟨i, rfl⟩ := Nat.exists_eq_add_of_lt hgt
      rw [Nat.add_assoc, Nat.pow_add, ← Nat.mul_assoc] at hfull hsmall ⊢
      rw [round_small (Nat.succ_pos i) hfull hsmall]
      simp only [BinaryValue.finite.injEq, true_and]
      omega
    · obtain ⟨i, rfl⟩ := Nat.exists_eq_add_of_le hle
      rw [Nat.pow_add, ← Nat.mul_assoc, round_mul hfull hsmall (by omega)]
      simp only [BinaryValue.finite.injEq, true_and]
      omega

namespace Double

/-- **A finite number of single precision is the same as a double**: its digits are followed by zeros. -/
theorem value_ofSingleBits {bits m : Nat} {s : Bool} {e : Int}
    (h : binary32.decode bits = .finite s m e) (hm : m ≠ 0) :
    ∃ k : Nat, (ofSingleBits bits).value = .finite s (m * 2 ^ k) (e - k) := by
  obtain ⟨hlt, hlower, hupper⟩ := single_bounds h
  obtain ⟨k, hcanonical, hround⟩ := round_binaryRatio hm hlt hlower hupper s
  refine ⟨k, ?_⟩
  rw [ofSingleBits, h]
  dsimp only
  rw [ofRatio, hround, value_ofValue hcanonical]

theorem value_ofSingleBits_zero {bits : Nat} {s : Bool} {e : Int}
    (h : binary32.decode bits = .finite s 0 e) : (ofSingleBits bits).value = .finite s 0 (-1074) := by
  have hzero : (binaryRatio 0 e).1 = 0 := by
    unfold binaryRatio
    split_ifs <;> simp
  rw [ofSingleBits, h]
  dsimp only
  rw [hzero, ofRatio, BinaryFormat.round, if_pos rfl]
  exact value_ofValue (e := -1074) ⟨by omega, by omega, by omega, .inr rfl⟩

theorem isFinite_of_value {x : Double} {s : Bool} {m : Nat} {e : Int} (h : x.value = .finite s m e) :
    x.isFinite = true := by
  rw [isFinite, h]

/-- The patterns of finite numbers. -/
theorem isFinite_iff (x : Double) :
    x.isFinite = true ↔ x.bits.toNat % 0x8000000000000000 / 0x10000000000000 ≠ 2047 := by
  rw [isFinite, value, decode_eq]
  generalize x.bits.toNat % 0x8000000000000000 / 0x10000000000000 = field
  split_ifs <;> simp_all

/-- **The patterns of single precision that are finite as doubles** are those of finite numbers. -/
theorem isFinite_ofSingleBits_iff (bits : Nat) :
    (ofSingleBits bits).isFinite = true ↔ bits % 0x80000000 / 0x800000 ≠ 255 := by
  have hinfinite : ∀ s, (ofValue (.infinite s)).isFinite = false := by decide
  have hnan : (ofValue .nan).isFinite = false := by decide
  by_cases htop : bits % 0x80000000 / 0x800000 = 255
  · refine iff_of_false (fun hfinite => ?_) fun hne => hne htop
    have hdecode := single_decode_eq bits
    rw [if_pos htop] at hdecode
    rw [ofSingleBits, hdecode] at hfinite
    split_ifs at hfinite
    · rw [hinfinite] at hfinite
      cases hfinite
    · rw [hnan] at hfinite
      cases hfinite
  · refine iff_of_true ?_ htop
    obtain ⟨s, m, e, h⟩ : ∃ s m e, binary32.decode bits = .finite s m e := by
      rw [single_decode_eq, if_neg htop]
      split_ifs <;> exact ⟨_, _, _, rfl⟩
    by_cases hm : m = 0
    · subst hm
      exact isFinite_of_value (value_ofSingleBits_zero h)
    · obtain ⟨k, hvalue⟩ := value_ofSingleBits h hm
      exact isFinite_of_value hvalue

end Double
end TableService
