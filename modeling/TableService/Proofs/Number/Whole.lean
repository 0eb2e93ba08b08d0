/-
  Doubles that denote whole numbers.

  * `Canonical` significands and exponents are those of the format: `value_ofValue` and
    `ofValue_value` go from them to the bit pattern and back.
  * `ofInt_of_toInt?`, `ofInt_idem`: a whole number that a double denotes is rounded to this double
    again.
  * `toInt?_ofInt`: between `2 ^ 63` and `2 ^ 64` rounding to a double gives a multiple of 2048 that
    differs by 1024 at most.
-/
import Mathlib.Tactic.Ring
import Mathlib.Tactic.SplitIfs
import TableService.Number.Double
import TableService.Proofs.Number.Decimal

namespace TableService

/-! ## Bit patterns -/

/-- Significands and exponents of the format of 64 bits. -/
structure Canonical (m : Nat) (e : Int) : Prop where
  lower : -1074 ≤ e
  upper : e ≤ 971
  small : m < 0x20000000000000
  /-- All digits are used unless the exponent is the least. -/
  full : 0x10000000000000 ≤ m ∨ e = -1074

theorem encode_finite (s : Bool) (m : Nat) (e : Int) : binary64.encode (.finite s m e) =
    (if s then 0x8000000000000000 else 0) + if m < 0x10000000000000 then m
      else (e + 1074 + 1).toNat * 0x10000000000000 + (m - 0x10000000000000) := rfl

theorem decode_eq (bits : Nat) : binary64.decode bits =
    if bits % 0x8000000000000000 / 0x10000000000000 = 2047 then
      if bits % 0x10000000000000 = 0 then .infinite (0x8000000000000000 ≤ bits) else .nan
    else if bits % 0x8000000000000000 / 0x10000000000000 = 0 then
      .finite (0x8000000000000000 ≤ bits) (bits % 0x10000000000000) (-1074)
    else .finite (0x8000000000000000 ≤ bits) (0x10000000000000 + bits % 0x10000000000000)
      (-1074 + (bits % 0x8000000000000000 / 0x10000000000000 : Nat) - 1) := rfl

/-- The pattern of a sign, an exponent field and digits. -/
theorem decode_fields {s : Bool} {k f : Nat} (hk : k < 2047) (hf : f < 0x10000000000000) :
    binary64.decode ((if s then 0x8000000000000000 else 0) + (k * 0x10000000000000 + f)) =
      if k = 0 then .finite s f (-1074)
      else .finite s (0x10000000000000 + f) (-1074 + (k : Nat) - 1) := by
  generalize hbits : (if s then 0x8000000000000000 else 0) + (k * 0x10000000000000 + f) = bits
  have hfield : bits % 0x8000000000000000 / 0x10000000000000 = k := by
    split_ifs at hbits <;> omega
  have hdigits : bits % 0x10000000000000 = f := by split_ifs at hbits <;> omega
  have hsign : decide (0x8000000000000000 ≤ bits) = s := by
    cases s <;> simp only [if_true, Bool.false_eq_true, if_false] at hbits <;> simp <;> omega
  rw [decode_eq, hfield, hdigits, hsign, if_neg (by omega)]

theorem decode_encode {s : Bool} {m : Nat} {e : Int} (h : Canonical m e) :
    binary64.decode (binary64.encode (.finite s m e)) = .finite s m e := by
  obtain ⟨hlower, hupper, hsmall, hfull⟩ := h
  rw [encode_finite]
  by_cases hm : m < 0x10000000000000
  · obtain rfl : e = -1074 := hfull.resolve_left (by omega)
    have hparts := decode_fields (s := s) (k := 0) (by omega) hm
    rw [if_pos hm]
    rwa [Nat.zero_mul, Nat.zero_add, if_pos rfl] at hparts
  · rw [if_neg hm, decode_fields (by omega) (by omega), if_neg (by omega)]
    simp only [BinaryValue.finite.injEq, true_and]
    omega

theorem encode_lt {s : Bool} {m : Nat} {e : Int} (h : Canonical m e) :
    binary64.encode (.finite s m e) < 0x10000000000000000 := by
  obtain ⟨hlower, hupper, hsmall, hfull⟩ := h
  rw [encode_finite]
  split_ifs <;> omega

/-! ## Rounding -/

/-- A quotient is rounded by half a unit at most. -/
theorem roundDiv_near (n : Nat) {d : Nat} (hd : 0 < d) :
    2 * n ≤ 2 * (roundDiv n d * d) + d ∧ 2 * (roundDiv n d * d) ≤ 2 * n + d := by
  have hrest : n % d < d := Nat.mod_lt n hd
  have hn : n / d * d + n % d = n := Nat.div_add_mod' n d
  have hnext : (n / d + 1) * d = n / d * d + d := Nat.succ_mul ..
  unfold roundDiv
  dsimp only
  split_ifs <;> omega

/-- The last of the 53 digits of a whole number. -/
theorem unitExponent_whole {n : Nat} (h : n ≠ 0) :
    binary64.unitExponent n 1 = (n.log2 : Int) - 52 := by
  have hle : 2 ^ n.log2 ≤ n := Nat.log2_self_le h
  have hfull : 2 ^ 53 * (unscale n 1 ((n.log2 : Int) - 53)).2 ≤
      (unscale n 1 ((n.log2 : Int) - 53)).1 := by
    unfold unscale
    split_ifs with he
    · obtain ⟨k, hk⟩ : ∃ k, n.log2 = 53 + k := ⟨n.log2 - 53, by omega⟩
      have htoNat : ((n.log2 : Int) - 53).toNat = k := by omega
      simp only [htoNat, Nat.pow_eq, Nat.one_mul]
      rwa [hk, Nat.pow_add] at hle
    · obtain ⟨k, hk⟩ : ∃ k, 53 = n.log2 + k := ⟨53 - n.log2, by omega⟩
      have htoNat : (-((n.log2 : Int) - 53)).toNat = k := by omega
      simp only [htoNat, Nat.pow_eq, Nat.mul_one]
      rw [hk, Nat.pow_add]
      exact Nat.mul_le_mul_right _ hle
  have hone : Nat.log2 1 = 0 := by decide
  have hstart : (n.log2 : Int) - (0 : Nat) - (53 : Nat) = n.log2 - 53 := by omega
  rw [BinaryFormat.unitExponent, hone]
  simp only [binary64, hstart, Nat.pow_eq, if_pos hfull]
  omega

/-- A whole number with more than 53 digits is rounded to a multiple of a power of two. -/
theorem round_large {n k : Nat} (h : n.log2 = 52 + k) (s : Bool) :
    binary64.round s n 1 =
      if roundDiv n (2 ^ k) = 2 ^ 53 then
        if (971 : Int) < k + 1 then .infinite s else .finite s (2 ^ 52) (k + 1)
      else if (971 : Int) < k then .infinite s else .finite s (roundDiv n (2 ^ k)) k := by
  have hn : n ≠ 0 := by
    rintro rfl
    rw [Nat.log2_zero] at h
    omega
  have hunit : binary64.unitExponent n 1 = k := by
    rw [unitExponent_whole hn]
    omega
  have hunscale : unscale n 1 k = (n, 2 ^ k) := by
    rw [unscale, if_pos (by omega), Int.toNat_natCast, Nat.one_mul]
    rfl
  rw [BinaryFormat.round, if_neg hn, hunit]
  simp only [hunscale]
  by_cases hm : roundDiv n (2 ^ k) = 2 ^ 53
  · have hm' : roundDiv n (2 ^ k) = Nat.pow 2 binary64.precision := hm
    rw [if_pos hm, if_pos hm', hm]
    rfl
  · have hm' : roundDiv n (2 ^ k) ≠ Nat.pow 2 binary64.precision := hm
    rw [if_neg hm, if_neg hm']
    rfl

/-- A whole number with more than 53 digits, all others of which are zero, is kept. -/
theorem round_mul {m k : Nat} (hm : 2 ^ 52 ≤ m) (hm' : m < 2 ^ 53) (hk : k ≤ 971) (s : Bool) :
    binary64.round s (m * 2 ^ k) 1 = .finite s m k := by
  have hlog : (m * 2 ^ k).log2 = 52 + k := by
    refine (Nat.log2_eq_iff (by positivity)).2 ⟨?_, ?_⟩
    · rw [Nat.pow_add]
      exact Nat.mul_le_mul_right _ hm
    · rw [Nat.add_right_comm, Nat.pow_add]
      exact Nat.mul_lt_mul_of_pos_right hm' (by positivity)
  rw [round_large hlog, roundDiv_mul (by positivity), if_neg (by omega), if_neg (by omega)]

/-- The digits of a number that has 53 of them with zeros at its end. -/
theorem log2_of_full {q k : Nat} (h : 2 ^ 52 ≤ q * 2 ^ k) (h' : q * 2 ^ k < 2 ^ 53) :
    q ≠ 0 ∧ q.log2 + k = 52 := by
  have hq : q ≠ 0 := by
    rintro rfl
    omega
  obtain ⟨i, hi⟩ : ∃ i, 52 = i + k := by
    have hpow : 2 ^ k < 2 ^ 53 :=
      Nat.lt_of_le_of_lt (Nat.le_mul_of_pos_left _ (Nat.pos_of_ne_zero hq)) h'
    have := (Nat.pow_lt_pow_iff_right (by decide)).1 hpow
    exact ⟨52 - k, by omega⟩
  have hlog : q.log2 = i := by
    refine (Nat.log2_eq_iff hq).2 ⟨?_, ?_⟩
    · rw [hi, Nat.pow_add] at h
      exact Nat.le_of_mul_le_mul_right h (by positivity)
    · rw [show 53 = i + 1 + k by omega, Nat.pow_add] at h'
      exact Nat.lt_of_mul_lt_mul_right h'
  exact ⟨hq, by omega⟩

/-- A whole number with fewer digits is kept, also over a power of two. -/
theorem round_part {q k b : Nat} (hk : 0 < k) (h : 2 ^ 52 ≤ q * 2 ^ k) (h' : q * 2 ^ k < 2 ^ 53)
    (hb : k + b ≤ 1074) (s : Bool) :
    binary64.round s q (2 ^ b) = .finite s (q * 2 ^ k) (-(k + b : Nat)) := by
  obtain ⟨hq, hlog⟩ := log2_of_full h h'
  have hunscale : ∀ j : Nat,
      unscale q (2 ^ b) (-(k + b + j : Nat)) = (q * 2 ^ k * 2 ^ j * 2 ^ b, 2 ^ b) := by
    intro j
    rw [unscale, if_neg (by omega), Int.neg_neg, Int.toNat_natCast, Nat.pow_eq, Nat.add_right_comm,
      Nat.pow_add, Nat.pow_add, Nat.mul_assoc, Nat.mul_assoc, Nat.mul_assoc]
  have hstart : (q.log2 : Int) - Nat.log2 (2 ^ b) - (53 : Nat) = -(k + b + 1 : Nat) := by
    rw [Nat.log2_two_pow]
    omega
  have hfull : 2 ^ 53 * 2 ^ b ≤ q * 2 ^ k * 2 ^ 1 * 2 ^ b := Nat.mul_le_mul_right _ (by omega)
  have hunit : binary64.unitExponent q (2 ^ b) = -(k + b : Nat) := by
    rw [BinaryFormat.unitExponent]
    simp only [binary64, hstart, hunscale, Nat.pow_eq, if_pos hfull]
    omega
  have hround : roundDiv (q * 2 ^ k * 2 ^ 0 * 2 ^ b) (2 ^ b) = q * 2 ^ k := by
    rw [roundDiv_mul (by positivity), pow_zero, Nat.mul_one]
  have hm : q * 2 ^ k ≠ Nat.pow 2 binary64.precision := Nat.ne_of_lt h'
  have hgreatest : ¬ binary64.greatest < -(k + b : Nat) := by
    change ¬ (971 : Int) < _
    omega
  rw [BinaryFormat.round, if_neg hq, hunit]
  have hzero := hunscale 0
  rw [Nat.add_zero] at hzero
  simp only [hzero, hround, if_neg hm, if_neg hgreatest]

/-- A whole number with fewer digits is kept. -/
theorem round_small {q k : Nat} (hk : 0 < k) (h : 2 ^ 52 ≤ q * 2 ^ k) (h' : q * 2 ^ k < 2 ^ 53)
    (s : Bool) : binary64.round s q 1 = .finite s (q * 2 ^ k) (-k) := by
  obtain ⟨-, hlog⟩ := log2_of_full h h'
  exact round_part (b := 0) hk h h' (by omega) s

theorem roundDiv_bounds (n d : Nat) : n / d ≤ roundDiv n d ∧ roundDiv n d ≤ n / d + 1 := by
  unfold roundDiv
  dsimp only
  split_ifs <;> omega

/-- A whole number other than zero is rounded to a finite value that uses all digits, unless it is far
too large. -/
theorem round_whole {n : Nat} (h : n ≠ 0) (hlarge : n.log2 < 1000) (s : Bool) :
    ∃ m e, binary64.round s n 1 = .finite s m e ∧ Canonical m e ∧ m ≠ 0 := by
  have hle : 2 ^ n.log2 ≤ n := Nat.log2_self_le h
  have hlt : n < 2 ^ (n.log2 + 1) := Nat.lt_log2_self
  by_cases hsmall : n.log2 < 52
  · obtain ⟨k, hk⟩ : ∃ k, 52 = n.log2 + k := ⟨52 - n.log2, by omega⟩
    have hlower : 2 ^ 52 ≤ n * 2 ^ k := by
      rw [hk, Nat.pow_add]
      exact Nat.mul_le_mul_right _ hle
    have hupper : n * 2 ^ k < 2 ^ 53 := by
      rw [show 53 = n.log2 + 1 + k by omega, Nat.pow_add]
      exact Nat.mul_lt_mul_of_pos_right hlt (by positivity)
    exact ⟨_, _, round_small (by omega) hlower hupper s,
      ⟨by omega, by omega, by omega, .inl (by omega)⟩, by omega⟩
  · obtain ⟨k, hk⟩ : ∃ k, n.log2 = 52 + k := ⟨n.log2 - 52, by omega⟩
    have hlower : 2 ^ 52 ≤ n / 2 ^ k := by
      rw [Nat.le_div_iff_mul_le (by positivity), ← Nat.pow_add, ← hk]
      exact hle
    have hupper : n / 2 ^ k < 2 ^ 53 := by
      rw [Nat.div_lt_iff_lt_mul (by positivity), ← Nat.pow_add]
      rwa [hk, Nat.add_right_comm] at hlt
    obtain ⟨hbelow, habove⟩ := roundDiv_bounds n (2 ^ k)
    rw [round_large hk]
    by_cases hm : roundDiv n (2 ^ k) = 2 ^ 53
    · rw [if_pos hm, if_neg (by omega)]
      exact ⟨_, _, rfl, ⟨by omega, by omega, by omega, .inl (by omega)⟩, by omega⟩
    · rw [if_neg hm, if_neg (by omega)]
      exact ⟨_, _, rfl, ⟨by omega, by omega, by omega, .inl (by omega)⟩, by omega⟩

namespace Double

theorem value_ofValue {s : Bool} {m : Nat} {e : Int} (h : Canonical m e) :
    (ofValue (.finite s m e)).value = .finite s m e := by
  rw [value, ofValue, Nat.toUInt64, UInt64.toNat_ofNat_of_lt' (encode_lt h), decode_encode h]

/-- What a finite double denotes is canonical, and its bit pattern is that of the value. -/
theorem canonical_value {x : Double} {s : Bool} {m : Nat} {e : Int} (h : x.value = .finite s m e) :
    Canonical m e ∧ ofValue (.finite s m e) = x := by
  obtain ⟨bits⟩ := x
  have hbits := bits.toNat_lt
  rw [value, decode_eq] at h
  generalize hfield : bits.toNat % 0x8000000000000000 / 0x10000000000000 = k at h
  generalize hdigits : bits.toNat % 0x10000000000000 = f at h
  split_ifs at h with htop hzero hleast
  · cases h
    have hsmall : m < 0x10000000000000 := by omega
    refine ⟨⟨by omega, by omega, by omega, .inr rfl⟩, ?_⟩
    refine congrArg Double.mk (UInt64.toNat_inj.1 ?_)
    rw [Nat.toUInt64, UInt64.toNat_ofNat', encode_finite, if_pos hsmall]
    simp only [decide_eq_true_eq]
    split_ifs <;> omega
  · cases h
    refine ⟨⟨by omega, by omega, by omega, .inl (by omega)⟩, ?_⟩
    refine congrArg Double.mk (UInt64.toNat_inj.1 ?_)
    rw [Nat.toUInt64, UInt64.toNat_ofNat', encode_finite]
    simp only [decide_eq_true_eq]
    split_ifs <;> omega

theorem toInt?_eq {x : Double} {s : Bool} {m : Nat} {e : Int} (h : x.value = .finite s m e) :
    x.toInt? = if (binaryRatio m e).1 % (binaryRatio m e).2 = 0 then
      some ((if s then -((binaryRatio m e).1 : Int) else (binaryRatio m e).1) / (binaryRatio m e).2)
      else none := by
  rw [toInt?, signedRatio?, ratio?, h]
  simp only [Option.map_some, Option.bind_eq_bind, Option.bind_some]
  cases s <;> simp

theorem binaryRatio_pos (m : Nat) (e : Int) : 0 < (binaryRatio m e).2 := by
  unfold binaryRatio
  split_ifs
  · exact Nat.one_pos
  · exact Nat.two_pow_pos _

/-- The parts of a double that denotes a whole number. -/
theorem finite_of_toInt? {x : Double} {i : Int} (h : x.toInt? = some i) :
    ∃ s m e, x.value = .finite s m e ∧ i.natAbs * (binaryRatio m e).2 = (binaryRatio m e).1 ∧
      (i ≠ 0 → s = decide (i < 0)) := by
  cases hv : x.value with
  | finite s m e =>
    refine ⟨s, m, e, rfl, ?_⟩
    rw [toInt?_eq hv] at h
    have hpos := binaryRatio_pos m e
    generalize binaryRatio m e = ratio at h hpos
    obtain ⟨n, d⟩ := ratio
    dsimp only at h hpos ⊢
    have hd : (d : Int) ≠ 0 := by omega
    by_cases hdvd : n % d = 0
    · obtain ⟨q, rfl⟩ := Nat.dvd_of_mod_eq_zero hdvd
      rw [if_pos hdvd, Option.some.injEq] at h
      push_cast at h
      cases s with
      | false =>
        rw [if_neg Bool.false_ne_true, Int.mul_ediv_cancel_left _ hd] at h
        refine ⟨?_, fun hi => ?_⟩
        · rw [← h, Int.natAbs_natCast, Nat.mul_comm]
        · exact (decide_eq_false (by omega)).symm
      | true =>
        rw [if_pos rfl, ← Int.mul_neg, Int.mul_ediv_cancel_left _ hd] at h
        refine ⟨?_, fun hi => ?_⟩
        · rw [← h, Int.natAbs_neg, Int.natAbs_natCast, Nat.mul_comm]
        · exact (decide_eq_true (by omega)).symm
    · rw [if_neg hdvd] at h
      cases h
  | infinite s =>
    rw [toInt?, signedRatio?, ratio?, hv] at h
    cases h
  | nan =>
    rw [toInt?, signedRatio?, ratio?, hv] at h
    cases h

/-- **A whole number that a double denotes is rounded to this double again**, unless it is zero,
which two doubles denote. -/
theorem ofInt_of_toInt? {x : Double} {i : Int} (h : x.toInt? = some i) (hi : i ≠ 0) :
    ofInt i = x := by
  obtain ⟨s, m, e, hv, hval, hsign⟩ := finite_of_toInt? h
  obtain ⟨⟨hlower, hupper, hsmall, hfull⟩, hx⟩ := canonical_value hv
  have hround : binary64.round (i < 0) i.natAbs 1 = .finite s m e := by
    rw [hsign hi]
    unfold binaryRatio at hval
    split_ifs at hval with he
    · obtain ⟨k, rfl⟩ := Int.eq_ofNat_of_zero_le he
      rw [Int.toNat_natCast, Nat.mul_one] at hval
      rw [hval]
      exact round_mul (by omega) hsmall (by omega) _
    · obtain ⟨k, hk⟩ : ∃ k : Nat, e = -k := ⟨e.natAbs, by omega⟩
      subst hk
      rw [Int.neg_neg, Int.toNat_natCast] at hval
      have hval : i.natAbs * 2 ^ k = m := hval
      have hpow : 2 ^ k < 2 ^ 53 :=
        Nat.lt_of_le_of_lt (Nat.le_mul_of_pos_left _ (Int.natAbs_pos.2 hi)) (hval ▸ hsmall)
      have hk := (Nat.pow_lt_pow_iff_right (by decide)).1 hpow
      rw [← hval]
      exact round_small (by omega) (by omega) (by omega) _
  rw [ofInt, ofRatio, hround, hx]

/-- The whole number that a rounded one denotes is rounded to the same double. -/
theorem ofInt_idem {i j : Int} (hi : i.natAbs.log2 < 1000) (h : (ofInt i).toInt? = some j) :
    ofInt j = ofInt i := by
  by_cases hj : j = 0
  · subst hj
    by_contra hne
    have hzero : i.natAbs ≠ 0 := by
      intro h
      rw [Int.natAbs_eq_zero.1 h] at hne
      exact hne rfl
    obtain ⟨m, e, hround, hcanonical, hm⟩ := round_whole hzero hi (i < 0)
    have hv : (ofInt i).value = .finite (i < 0) m e := by
      rw [ofInt, ofRatio, hround, value_ofValue hcanonical]
    obtain ⟨s, m', e', hv', hval, -⟩ := finite_of_toInt? h
    cases hv.symm.trans hv'
    rw [Int.natAbs_zero, Nat.zero_mul] at hval
    unfold binaryRatio at hval
    split_ifs at hval
    · exact Nat.mul_ne_zero hm (Nat.two_pow_pos _).ne' hval.symm
    · exact hm hval.symm
  · exact ofInt_of_toInt? h hj

/-- Between `2 ^ 63` and `2 ^ 64`, a whole number is rounded to a multiple of 2048. -/
theorem toInt?_ofInt {i : Int} (lower : 0x8000000000000000 ≤ i) (upper : i < 0x10000000000000000) :
    ∃ j, (ofInt i).toInt? = some j ∧ 2048 ∣ j ∧ (j - i).natAbs ≤ 1024 := by
  obtain ⟨n, rfl⟩ := Int.eq_ofNat_of_zero_le (by omega : 0 ≤ i)
  have hlog : n.log2 = 52 + 11 := (Nat.log2_eq_iff (by omega)).2 ⟨by omega, by omega⟩
  have hsign : decide ((n : Int) < 0) = false := decide_eq_false (by omega)
  obtain ⟨hbelow, habove⟩ := roundDiv_near n (d := 2 ^ 11) (by decide)
  have hround : ∃ m e, binary64.round false n 1 = .finite false m e ∧ Canonical m e ∧
      binaryRatio m e = (roundDiv n (2 ^ 11) * 2048, 1) := by
    rw [round_large hlog]
    by_cases hm : roundDiv n (2 ^ 11) = 2 ^ 53
    · rw [if_pos hm, if_neg (by omega), hm]
      exact ⟨_, _, rfl, ⟨by omega, by omega, by omega, .inl (by omega)⟩, rfl⟩
    · rw [if_neg hm, if_neg (by omega)]
      exact ⟨_, _, rfl, ⟨by omega, by omega, by omega, .inl (by omega)⟩, rfl⟩
  obtain ⟨m, e, hround, hcanonical, hratio⟩ := hround
  have hv : (ofInt n).value = .finite false m e := by
    rw [ofInt, ofRatio, hsign, Int.natAbs_natCast, hround, value_ofValue hcanonical]
  refine ⟨(roundDiv n (2 ^ 11) * 2048 : Nat), ?_, by omega, by omega⟩
  rw [toInt?_eq hv, hratio, if_pos (Nat.mod_one _), if_neg Bool.false_ne_true, Nat.cast_one,
    Int.ediv_one]

end Double
end TableService
