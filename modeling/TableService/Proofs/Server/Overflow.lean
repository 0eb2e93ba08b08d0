/-
  Numerals that are too large for a decimal.

  * `Decimal.fit?_eq_none_iff`: a number has no decimal if it is rounded to `2 ^ 96` or beyond.
  * `PostgresNumeric.decimal?_eq_none_iff`: nor has a numeral, whatever its groups. Only the first group
    after the point matters for this, the others are too small.
-/
import TableService.Proofs.Number.Whole
import TableService.Proofs.Server.Numeric

namespace TableService

/-- A quotient is rounded to less than an even number as long as it is half a unit below it; at half a
unit it goes to the even number. -/
theorem roundDiv_lt_iff {c p b : Nat} (hp : 0 < p) :
    roundDiv c p < 2 * (b + 1) ↔ 2 * c < (4 * b + 3) * p := by
  have hrest : c % p < p := Nat.mod_lt c hp
  have hc : c / p * p + c % p = c := Nat.div_add_mod' c p
  have hbound : (4 * b + 3) * p = 2 * (2 * b * p) + 3 * p := by ring
  obtain ⟨hbelow, habove⟩ := roundDiv_bounds c p
  rw [hbound]
  rcases Nat.lt_trichotomy (c / p) (2 * b + 1) with hlt | heq | hgt
  · have hle : c / p * p ≤ 2 * b * p := Nat.mul_le_mul_right p (by omega)
    exact iff_of_true (by omega) (by omega)
  · -- at half a unit it is the next number that is even
    have hodd : ¬ (2 * b + 1) % 2 = 0 := by omega
    rw [heq, Nat.succ_mul] at hc
    unfold roundDiv
    simp only [heq, if_neg hodd]
    split_ifs <;> constructor <;> intro <;> omega
  · have hle : (2 * b + 2) * p ≤ c / p * p := Nat.mul_le_mul_right p hgt
    rw [Nat.add_mul] at hle
    exact iff_of_false (by omega) (by omega)

namespace Decimal

section
variable {negative : Bool} {c s : Nat}

theorem of?_eq_none (hc : ¬ c < 0x1000000000000000000000000) : of? negative c s = none :=
  dif_neg fun h => hc h.1

theorem negative_of? {d : Decimal} (h : of? negative c s = some d) : d.negative = negative := by
  unfold of? at h
  split_ifs at h
  cases h
  rfl

/-- **A number has no decimal exactly if it is too large**, by half a unit below `2 ^ 96` at least. -/
theorem fit?_eq_none_iff (hs : s ≤ 28) :
    fit? negative c s = none ↔ (2 * 0x1000000000000000000000000 - 1) * 10 ^ s ≤ 2 * c := by
  have hround : ∀ k, roundDiv c (10 ^ k) < 0x1000000000000000000000000 ↔
      2 * c < (2 * 0x1000000000000000000000000 - 1) * 10 ^ k := fun k =>
    roundDiv_lt_iff (b := 0x7FFFFFFFFFFFFFFFFFFFFFFF) (by positivity)
  unfold fit?
  cases hfind : (List.range (s + 1)).find? fun k =>
      decide (c / Nat.pow 10 k < 0x1000000000000000000000000) && decide (s - k ≤ 28) with
  | none =>
    refine iff_of_true rfl ?_
    have hfail := List.find?_eq_none.1 hfind s (List.mem_range.2 (Nat.lt_succ_self s))
    have hlarge : ¬ c / 10 ^ s < 0x1000000000000000000000000 := by simpa using hfail
    rw [Nat.div_lt_iff_lt_mul (by positivity)] at hlarge
    generalize 10 ^ s = p at *
    omega
  | some k =>
    obtain ⟨hholds, hk, -⟩ := List.find?_range_eq_some.1 hfind
    obtain ⟨hfits, hscale⟩ := Bool.and_eq_true_iff.1 hholds
    have hfits : c < 0x1000000000000000000000000 * 10 ^ k :=
      (Nat.div_lt_iff_lt_mul (by positivity)).1 (of_decide_eq_true hfits)
    have hscale : s - k ≤ 28 := of_decide_eq_true hscale
    simp only [Option.bind_eq_bind, Option.bind_some, Nat.pow_eq]
    by_cases hlast : s = k
    · subst hlast
      rw [← Nat.not_lt, ← hround, if_pos (rfl : s = s)]
      split_ifs with hlt
      · rw [of?_eq_some hlt hscale]
        exact iff_of_false (Option.some_ne_none _) (absurd hlt)
      · exact iff_of_true rfl hlt
    · -- with a place to spare the number is far from too large
      have hpow : 10 * 10 ^ k ≤ 10 ^ s := by
        rw [← Nat.pow_succ']
        exact Nat.pow_le_pow_right (by decide) (by have := List.mem_range.1 hk; omega)
      have hsmall : 2 * c < (2 * 0x1000000000000000000000000 - 1) * 10 ^ s := by omega
      refine iff_of_false ?_ (Nat.not_le.2 hsmall)
      have hround := (roundDiv_bounds c (10 ^ k)).2
      have hagain := (roundDiv_bounds (roundDiv c (10 ^ k)) 10).2
      have hfloor := (Nat.div_lt_iff_lt_mul (by positivity)).2 hfits
      rw [if_neg hlast]
      split_ifs with hlt
      · rw [of?_eq_some hlt hscale]
        exact Option.some_ne_none _
      · rw [of?_eq_some (by omega) (by omega)]
        exact Option.some_ne_none _

theorem negative_fit? {d : Decimal} (h : fit? negative c s = some d) : d.negative = negative := by
  unfold fit? at h
  obtain ⟨k, -, h⟩ := Option.bind_eq_some_iff.1 h
  dsimp only at h
  split_ifs at h
  · exact negative_of? h
  · exact negative_of? h

end

/-- The number of a decimal is less than `2 ^ 96`, and at least one less. -/
theorem magnitude_le (d : Decimal) : d.magnitude ≤ 0x1000000000000000000000000 - 1 := by
  have hle : d.magnitude ≤ d.coefficient := div_le_self (by positivity) (one_le_pow₀ (by norm_num))
  have hcast : (d.coefficient : ℚ) + 1 ≤ 0x1000000000000000000000000 := by
    exact_mod_cast d.coefficient_lt
  linarith

section
variable {a b : Decimal} (ha : a.negative = false) (hb : b.negative = false)
include ha hb

/-- **A sum has no decimal exactly if it is too large.** -/
theorem add?_eq_none_iff :
    a.add? b = none ↔ (0x1000000000000000000000000 : ℚ) - 1 / 2 ≤ a.magnitude + b.magnitude := by
  obtain ⟨c, s, hs, hfit, hsum⟩ := add?_eq_fit? ha hb
  rw [hfit, fit?_eq_none_iff hs, hsum, le_div_iff₀ (by positivity), ← @Nat.cast_le ℚ]
  push_cast
  constructor <;> intro h <;> linarith

theorem negative_add? {d : Decimal} (h : a.add? b = some d) : d.negative = false := by
  obtain ⟨c, s, -, hfit, -⟩ := add?_eq_fit? ha hb
  exact negative_fit? (hfit.symm.trans h)

end

/-- A number that is less than one half can be added to any other. -/
theorem exists_add {a b : Decimal} (ha : a.negative = false) (hb : b.negative = false)
    (hsmall : b.magnitude < 1 / 2) : ∃ d, a.add? b = some d ∧ d.negative = false := by
  have hle := a.magnitude_le
  have hadd : a.add? b ≠ none := by
    rw [Ne, add?_eq_none_iff ha hb]
    linarith
  obtain ⟨d, hd⟩ := Option.ne_none_iff_exists'.1 hadd
  exact ⟨d, hd, negative_add? ha hb hd⟩

end Decimal

namespace PostgresNumeric

/-! ## Before the point -/

/-- Groups are not put together if their whole number is too large. -/
theorem foldlM_groups_none {gs : List Nat} {c : Nat}
    (h : 0x1000000000000000000000000 ≤ gs.foldl (fun n g => 10000 * n + g) c)
    (hc : c < 0x1000000000000000000000000) :
    gs.foldlM (fun (d : Decimal) g => do
      Decimal.of? false ((← Decimal.of? false (d.coefficient * 10000) 0).coefficient + g) 0)
        ⟨false, c, 0, hc, by decide⟩ = none := by
  induction gs generalizing c with
  | nil => exact absurd hc (Nat.not_lt.2 h)
  | cons g gs ih =>
    rw [List.foldlM_cons]
    simp only [Option.bind_eq_bind]
    by_cases hshift : c * 10000 < 0x1000000000000000000000000
    · rw [Decimal.of?_eq_some hshift (by decide), Option.bind_some]
      dsimp only
      by_cases hnext : c * 10000 + g < 0x1000000000000000000000000
      · rw [Decimal.of?_eq_some hnext (by decide), Option.bind_some]
        simp only [Nat.mul_comm c 10000] at hnext ⊢
        exact ih h hnext
      · rw [Decimal.of?_eq_none hnext]
        rfl
    · rw [Decimal.of?_eq_none hshift]
      rfl

/-- **A whole number is put together exactly if it fits.** -/
theorem wholeOf?_eq_none_iff {gs : List Nat} {missing : Nat} : wholeOf? gs missing = none ↔
    0x1000000000000000000000000 ≤ wholeValue gs * 10000 ^ missing := by
  by_cases hfits : wholeValue gs * 10000 ^ missing < 0x1000000000000000000000000
  · obtain ⟨d, hd, -⟩ := wholeOf?_exact hfits
    rw [hd]
    exact iff_of_false (Option.some_ne_none _) (Nat.not_le.2 hfits)
  · refine iff_of_true ?_ (Nat.not_lt.1 hfits)
    have hvalue : gs.foldl (fun n g => 10000 * n + g) 0 = wholeValue gs := rfl
    unfold wholeOf?
    rw [Decimal.zero]
    by_cases hwhole : wholeValue gs < 0x1000000000000000000000000
    · rw [foldlM_groups (c := 0) hwhole (by decide)]
      simp only [Option.bind_eq_bind, Option.bind_some, hvalue]
      have hzero : ¬ wholeValue gs = 0 := fun h => hfits (by rw [h, Nat.zero_mul]; decide)
      have hmissing : missing ≠ 0 := by
        rintro rfl
        rw [pow_zero, Nat.mul_one] at hfits
        exact hfits hwhole
      have hpow : Nat.pow 10 (4 * missing - 0) = 10000 ^ missing := by
        rw [Nat.pow_eq, Nat.sub_zero, pow_mul]
        rfl
      rw [if_neg hzero]
      split_ifs
      · rw [Decimal.shift?, if_neg (by dsimp only; omega), if_pos (by omega)]
        dsimp only
        rw [hpow, Decimal.of?_eq_none hfits, Option.map_none]
      · rfl
    · rw [foldlM_groups_none (c := 0) (Nat.not_lt.1 hwhole) (by decide)]
      rfl

/-! ## After the point -/

/-- Groups behind the first after the point are added to any number. -/
theorem addFraction?_small {gs : List Nat} (hgs : ∀ g ∈ gs, g < 10000) {d : Decimal}
    (hd : d.negative = false) {places : Nat} (hplaces : 8 ≤ places) :
    ∃ r, addFraction? d places gs = some r := by
  induction gs generalizing d places with
  | nil => exact ⟨d, rfl⟩
  | cons g gs ih =>
    obtain ⟨hg, hgs⟩ := List.forall_mem_cons.1 hgs
    have hadd : ∀ p : Decimal, p.negative = false → p.magnitude < 1 / 2 →
        ∃ r, (d.add? p).bind (fun d => addFraction? d (places + 4) gs) = some r := by
      intro p hp hsmall
      obtain ⟨e, he, hnonneg⟩ := Decimal.exists_add hd hp hsmall
      rw [he, Option.bind_some]
      exact ih hgs hnonneg (by omega)
    rw [addFraction?]
    by_cases hkept : places ≤ 28
    · have hlt : (g : ℚ) < 10000 := by exact_mod_cast hg
      have hpow : (10 : ℚ) ^ 8 ≤ 10 ^ places := pow_le_pow_right₀ (by norm_num) hplaces
      rw [if_pos hkept, Decimal.of?_eq_some (by omega) hkept]
      refine hadd _ rfl ?_
      rw [Decimal.magnitude, div_lt_iff₀ (by positivity)]
      dsimp only
      linarith
    · rw [if_neg hkept]
      split_ifs
      · rw [Decimal.of?_eq_some (by decide) (by decide)]
        exact hadd _ rfl (by rw [Decimal.magnitude]; norm_num)
      · exact ih hgs hd (by omega)

/-- **The groups after the point are added unless the sum is too large**, where a whole number stands
before them. -/
theorem addFraction?_eq_none_iff {gs : List Nat} (hgs : ∀ g ∈ gs, g < 10000) {d : Decimal}
    (hd : d.negative = false) {k m : Nat} (hm : d.magnitude = m) :
    addFraction? d (4 * (k + 1)) gs = none ↔
      (0x1000000000000000000000000 : ℚ) - 1 / 2 ≤ d.magnitude + groupsValue (-(k : Int) - 1) gs := by
  have hle := d.magnitude_le
  cases gs with
  | nil =>
    rw [addFraction?, groupsValue, add_zero]
    exact iff_of_false (Option.some_ne_none _) (by linarith)
  | cons g gs =>
    obtain ⟨hg, hgs'⟩ := List.forall_mem_cons.1 hgs
    obtain ⟨hvalue, hrest, hlt⟩ := groupsValue_fraction (g := g) hgs' k
    cases k with
    | zero =>
      have hpart : Decimal.of? false g 4 = some ⟨false, g, 4, by omega, by decide⟩ :=
        Decimal.of?_eq_some (by omega) (by decide)
      have hstep : addFraction? d (4 * (0 + 1)) (g :: gs) = none ↔
          d.add? ⟨false, g, 4, by omega, by decide⟩ = none := by
        rw [addFraction?, if_pos (by decide), hpart]
        simp only [Option.bind_eq_bind]
        cases hadd : d.add? ⟨false, g, 4, by omega, by decide⟩ with
        | none => simp
        | some e =>
          obtain ⟨r, hr⟩ := addFraction?_small hgs' (Decimal.negative_add? hd rfl hadd) (le_refl 8)
          simp [hr]
      have hmagnitude : (⟨false, g, 4, by omega, by decide⟩ : Decimal).magnitude = g / 10000 := by
        rw [Decimal.magnitude]
        norm_num
      have hpow : (10 : ℚ) ^ (4 * (0 + 1)) = 10000 := by norm_num
      rw [hstep, Decimal.add?_eq_none_iff hd rfl, hvalue, hmagnitude, hm, hpow]
      rw [hpow] at hlt
      generalize groupsValue (-((0 + 1 : Nat) : Int) - 1) gs = rest at *
      constructor
      · intro h
        linarith
      · -- below the bound there is room for all groups that follow
        intro h
        by_contra hbelow
        have hroom : ((10000 * m + g + 5000 : Nat) : ℚ) <
            (10000 * 0x1000000000000000000000000 : Nat) := by
          push_cast
          linarith
        have hnext : ((10000 * m + g + 5000 + 1 : Nat) : ℚ) ≤
            (10000 * 0x1000000000000000000000000 : Nat) := Nat.cast_le.2 (Nat.cast_lt.1 hroom)
        push_cast at hnext
        linarith
    | succ k =>
      obtain ⟨r, hr⟩ := addFraction?_small hgs hd (show 8 ≤ 4 * (k + 1 + 1) by omega)
      have hbound := groupsValue_lt hgs (-((k + 1 : Nat) : Int))
      rw [zpow_group] at hbound
      have hpow : (1 : ℚ) / 10 ^ (4 * (k + 1)) ≤ 1 / 10 ^ 4 :=
        one_div_le_one_div_of_le (by norm_num) (pow_le_pow_right₀ (by norm_num) (by omega))
      rw [hr]
      refine iff_of_false (Option.some_ne_none _) ?_
      linarith

/-- **A numeral has no decimal exactly if it is too large**, by half a unit below `2 ^ 96` at least. -/
theorem decimal?_eq_none_iff {n : PostgresNumeric} (hn : ∀ g ∈ n.groups, g < 10000) :
    n.decimal? = none ↔ (0x1000000000000000000000000 : ℚ) - 1 / 2 ≤ n.magnitude := by
  have hgroups : ∀ g ∈ n.groups.drop (n.weight + 1).toNat, g < 10000 :=
    fun g hg => hn g (List.mem_of_mem_drop hg)
  have hsum := n.wholePart_add_fraction
  have hfraction : 0 ≤ n.fraction := groupsValue_nonneg _ _
  by_cases hwhole : n.wholePart < 0x1000000000000000000000000
  · obtain ⟨d, hd, hnonneg, hmagnitude⟩ := wholeOf?_exact hwhole
    have hadd := addFraction?_eq_none_iff hgroups hnonneg (k := (-n.weight - 1).toNat) hmagnitude
    rw [hmagnitude] at hadd
    rw [← hsum]
    refine Iff.trans ?_ hadd
    unfold decimal?
    simp only [hd, Option.bind_eq_bind, Option.bind_some, Option.pure_def]
    cases addFraction? d (4 * ((-n.weight - 1).toNat + 1)) (n.groups.drop (n.weight + 1).toNat) <;>
      simp
  · have hnone : wholeOf? (n.groups.take (n.weight + 1).toNat)
        ((n.weight + 1).toNat - n.groups.length) = none :=
      wholeOf?_eq_none_iff.2 (Nat.not_lt.1 hwhole)
    have hcast : (0x1000000000000000000000000 : ℚ) ≤ n.wholePart := by
      exact_mod_cast Nat.not_lt.1 hwhole
    refine iff_of_true ?_ (by linarith)
    unfold decimal?
    simp only [hnone, Option.bind_eq_bind, Option.bind_none]

end PostgresNumeric
end TableService
