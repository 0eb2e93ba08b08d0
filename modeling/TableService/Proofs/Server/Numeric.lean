/-
  Numerals on the wire as the numbers that they denote.

  * `PostgresNumeric.Denotes`: a numeral denotes the number of a decimal, whatever zeros it has, and
    shows all of its places.
  * `decimal?_of_denotes`: such a numeral is decoded to a decimal of the same number.  The groups
    before the point have a number that fits (`wholeOf?_exact`), and adding those after it never
    rounds (`addFraction?_exact`), as every sum on the way is what is left of a decimal that is cut
    (`exists_truncated`).
  * `denotes_ofDecimal`: a decimal is written as a numeral that denotes it.
  * `ofBytes?_bytes`: a numeral is read back from its bytes.
-/
import Mathlib.Algebra.Order.Field.Power
import Mathlib.Data.List.TakeWhile
import TableService.Proofs.Number.Decimal
import TableService.Server.PostgresNumeric

namespace TableService.PostgresNumeric

/-! ## Groups -/

/-- The number of groups of which the first counts `10000 ^ weight`. -/
def groupsValue : Int → List Nat → ℚ
  | _, [] => 0
  | weight, g :: gs => g * 10000 ^ weight + groupsValue (weight - 1) gs

/-- The whole number of groups. -/
def wholeValue (groups : List Nat) : Nat := groups.foldl (fun n g => 10000 * n + g) 0

theorem groupsValue_append (weight : Int) (a b : List Nat) :
    groupsValue weight (a ++ b) = groupsValue weight a + groupsValue (weight - a.length) b := by
  induction a generalizing weight with
  | nil => simp [groupsValue]
  | cons g a ih =>
    have hweight : weight - 1 - a.length = weight - (g :: a).length := by
      rw [List.length_cons]
      omega
    rw [List.cons_append, groupsValue, groupsValue, ih, hweight, add_assoc]

theorem groupsValue_nonneg (weight : Int) (gs : List Nat) : 0 ≤ groupsValue weight gs := by
  induction gs generalizing weight with
  | nil => exact le_rfl
  | cons g gs ih =>
    have := ih (weight - 1)
    unfold groupsValue
    positivity

/-- A power of ten thousand is as many of the power below it. -/
theorem mul_zpow_pred (weight : Int) : (10000 : ℚ) * 10000 ^ (weight - 1) = 10000 ^ weight := by
  rw [zpow_sub_one₀ (by norm_num), mul_comm, inv_mul_cancel_right₀ (by norm_num)]

/-- Groups of four digits are less than one of the weight before them. -/
theorem groupsValue_lt {gs : List Nat} (h : ∀ g ∈ gs, g < 10000) (weight : Int) :
    groupsValue (weight - 1) gs < 10000 ^ weight := by
  induction gs generalizing weight with
  | nil => exact zpow_pos (by norm_num) _
  | cons g gs ih =>
    rw [List.forall_mem_cons] at h
    have hg : (g : ℚ) + 1 ≤ 10000 := by exact_mod_cast h.1
    have hpow : (0 : ℚ) < 10000 ^ (weight - 1) := zpow_pos (by norm_num) _
    calc groupsValue (weight - 1) (g :: gs)
        < g * 10000 ^ (weight - 1) + 10000 ^ (weight - 1) := by
          rw [groupsValue]
          exact add_lt_add_right (ih h.2 _) _
      _ = (g + 1) * 10000 ^ (weight - 1) := by ring
      _ ≤ 10000 * 10000 ^ (weight - 1) := by gcongr
      _ = 10000 ^ weight := mul_zpow_pred weight

theorem wholeValue_append (gs : List Nat) (g : Nat) :
    wholeValue (gs ++ [g]) = 10000 * wholeValue gs + g := by
  rw [wholeValue, List.foldl_append]
  rfl

/-- The number of groups is their whole number, moved to the weight of the last. -/
theorem groupsValue_eq (gs : List Nat) (shift : Int) :
    groupsValue (gs.length + shift - 1) gs = wholeValue gs * 10000 ^ shift := by
  induction gs using List.reverseRecOn generalizing shift with
  | nil => simp [groupsValue, wholeValue]
  | append_singleton gs g ih =>
    have hweight : ((gs ++ [g]).length : Int) + shift - 1 = gs.length + (shift + 1) - 1 := by
      rw [List.length_append, List.length_singleton]
      omega
    have hlast : (gs.length : Int) + (shift + 1) - 1 - gs.length = shift := by omega
    rw [hweight, groupsValue_append, ih, hlast, wholeValue_append, zpow_add_one₀ (by norm_num)]
    simp only [groupsValue]
    push_cast
    ring

/-! ## Numerals -/

/-- The number of a numeral without its sign. -/
def magnitude (n : PostgresNumeric) : ℚ := groupsValue n.weight n.groups

/-- The number of a numeral. -/
def value (n : PostgresNumeric) : ℚ := if n.negative then -n.magnitude else n.magnitude

theorem magnitude_nonneg (n : PostgresNumeric) : 0 ≤ n.magnitude := groupsValue_nonneg _ _

/-- A numeral denotes the number of a decimal, and shows all of its places. -/
structure Denotes (n : PostgresNumeric) (d : Decimal) : Prop where
  group_lt : ∀ g ∈ n.groups, g < 10000
  value : n.value = d.value
  shown : ∃ m : Nat, n.magnitude = m / 10 ^ n.places

theorem Denotes.magnitude {n : PostgresNumeric} {d : Decimal} (h : n.Denotes d) :
    n.magnitude = d.magnitude := by
  have hvalue := h.value
  have hn := n.magnitude_nonneg
  have hd := d.magnitude_nonneg
  unfold PostgresNumeric.value Decimal.value at hvalue
  split_ifs at hvalue <;> linarith

/-! ## Before the point -/

theorem le_foldl_groups (gs : List Nat) (c : Nat) : c ≤ gs.foldl (fun n g => 10000 * n + g) c := by
  induction gs generalizing c with
  | nil => exact le_rfl
  | cons g gs ih => exact le_trans (by omega) (ih (10000 * c + g))

/-- Groups are put together exactly if their whole number fits. -/
theorem foldlM_groups {gs : List Nat} {c : Nat}
    (h : gs.foldl (fun n g => 10000 * n + g) c < 0x1000000000000000000000000)
    (hc : c < 0x1000000000000000000000000) :
    gs.foldlM (fun (d : Decimal) g => do
      Decimal.of? false ((← Decimal.of? false (d.coefficient * 10000) 0).coefficient + g) 0)
        ⟨false, c, 0, hc, by decide⟩ =
      some ⟨false, gs.foldl (fun n g => 10000 * n + g) c, 0, h, by decide⟩ := by
  induction gs generalizing c with
  | nil => rfl
  | cons g gs ih =>
    have hnext : 10000 * c + g < 0x1000000000000000000000000 :=
      lt_of_le_of_lt (le_foldl_groups gs _) h
    rw [List.foldlM_cons]
    simp only [Option.bind_eq_bind]
    rw [Decimal.of?_eq_some (by omega) (by decide), Option.bind_some]
    dsimp only
    rw [Decimal.of?_eq_some (by omega) (by decide), Option.bind_some]
    simp only [Nat.mul_comm c 10000]
    exact ih h hnext

/-- **A whole number that fits is put together exactly.** -/
theorem wholeOf?_exact {gs : List Nat} {missing : Nat}
    (h : wholeValue gs * 10000 ^ missing < 0x1000000000000000000000000) :
    ∃ d, wholeOf? gs missing = some d ∧ d.negative = false ∧
      d.magnitude = (wholeValue gs * 10000 ^ missing : Nat) := by
  have hwhole : wholeValue gs < 0x1000000000000000000000000 :=
    lt_of_le_of_lt (Nat.le_mul_of_pos_right _ (by positivity)) h
  have hfold := foldlM_groups (c := 0) hwhole (by decide)
  have hvalue : gs.foldl (fun n g => 10000 * n + g) 0 = wholeValue gs := rfl
  have hpow : (10 : Nat) ^ (4 * missing) = 10000 ^ missing := by rw [pow_mul]; rfl
  unfold wholeOf?
  rw [Decimal.zero, hfold]
  simp only [Option.bind_eq_bind, Option.bind_some, hvalue]
  by_cases hzero : wholeValue gs = 0
  · rw [if_pos hzero]
    exact ⟨_, rfl, rfl, by simp [Decimal.magnitude, hzero]⟩
  · -- eight missing groups are more than fit
    have hmissing : missing ≤ 7 := by
      by_contra hlt
      have hle : 10000 ^ 8 ≤ 10000 ^ missing := Nat.pow_le_pow_right (by decide) (by omega)
      have hone : 10000 ^ missing ≤ wholeValue gs * 10000 ^ missing :=
        Nat.le_mul_of_pos_left _ (Nat.pos_of_ne_zero hzero)
      have : (10000 : Nat) ^ 8 = 100000000000000000000000000000000 := by norm_num
      omega
    rw [if_neg hzero, if_pos hmissing]
    obtain ⟨d, hd, hnegative, hmagnitude⟩ := Decimal.shift?_exact
      (d := ⟨false, wholeValue gs, 0, hwhole, by decide⟩) (n := 4 * missing) rfl rfl (by omega)
      (by rw [hpow]; exact h)
    refine ⟨d, hd, hnegative, hmagnitude.trans ?_⟩
    rw [← hpow]
    push_cast
    rfl

/-! ## After the point -/

/-- What is left of a decimal when it is cut after some places is a decimal, and the decimal itself
if it has no more places. -/
theorem exists_truncated {m j : Nat} {e : Decimal} (hle : (m : ℚ) / 10 ^ j ≤ e.magnitude)
    (hlt : e.magnitude < (m + 1) / 10 ^ j) :
    (∃ d : Decimal, d.magnitude = m / 10 ^ j) ∧ (e.scale ≤ j → e.magnitude = m / 10 ^ j) := by
  have heq : e.scale ≤ j → e.magnitude = m / 10 ^ j := by
    intro hscale
    rw [Decimal.magnitude_eq hscale] at hle hlt ⊢
    rw [div_le_div_iff_of_pos_right (by positivity)] at hle
    rw [div_lt_div_iff_of_pos_right (by positivity)] at hlt
    have hle' : m ≤ e.coefficient * 10 ^ (j - e.scale) := by exact_mod_cast hle
    have hlt' : e.coefficient * 10 ^ (j - e.scale) < m + 1 := by exact_mod_cast hlt
    rw [show e.coefficient * 10 ^ (j - e.scale) = m by omega]
  refine ⟨?_, heq⟩
  rcases Nat.le_total e.scale j with hscale | hscale
  · exact ⟨e, heq hscale⟩
  · have hm : m ≤ e.coefficient := by
      rw [Decimal.magnitude, div_le_div_iff₀ (by positivity) (by positivity)] at hle
      have hle' : m * 10 ^ e.scale ≤ e.coefficient * 10 ^ j := by exact_mod_cast hle
      have hpow : 10 ^ j ≤ 10 ^ e.scale := Nat.pow_le_pow_right (by decide) hscale
      exact Nat.le_of_mul_le_mul_right (le_trans (Nat.mul_le_mul_left m hpow) hle') (by positivity)
    exact ⟨⟨false, m, j, lt_of_le_of_lt hm e.coefficient_lt, le_trans hscale e.scale_le⟩, rfl⟩

/-- The weight of a group after the point, by its places. -/
theorem zpow_group (k : Nat) : (10000 : ℚ) ^ (-(k : Int)) = 1 / 10 ^ (4 * k) := by
  rw [zpow_neg, zpow_natCast, pow_mul, one_div]
  norm_num

/-- The number of a group after the point and those behind it, which are less than one of it. -/
theorem groupsValue_fraction {g : Nat} {gs : List Nat} (hgs : ∀ g ∈ gs, g < 10000) (k : Nat) :
    groupsValue (-(k : Int) - 1) (g :: gs) =
      g / 10 ^ (4 * (k + 1)) + groupsValue (-((k + 1 : Nat) : Int) - 1) gs ∧
    0 ≤ groupsValue (-((k + 1 : Nat) : Int) - 1) gs ∧
    groupsValue (-((k + 1 : Nat) : Int) - 1) gs < 1 / 10 ^ (4 * (k + 1)) := by
  have hweight : -(k : Int) - 1 = -((k + 1 : Nat) : Int) := by
    push_cast
    ring
  refine ⟨?_, groupsValue_nonneg _ _, ?_⟩
  · rw [groupsValue, hweight, zpow_group, mul_one_div]
  · rw [← zpow_group]
    exact groupsValue_lt hgs _

/-- A number over the places before a group, over those of the group. -/
theorem div_group (m k : Nat) : (m : ℚ) / 10 ^ (4 * k) = (m * 10000 : Nat) / 10 ^ (4 * (k + 1)) :=
  Decimal.div_pow_eq_iff.2 (by rw [Nat.mul_succ, pow_add]; ring)

section
variable {d e : Decimal} {g k m : Nat} {rest : ℚ} (hm : d.magnitude = m / 10 ^ (4 * k))
  (hrest : 0 ≤ rest) (h : d.magnitude + (g / 10 ^ (4 * (k + 1)) + rest) = e.magnitude)
include hm hrest h

/-- A group within the places is added exactly: the sum is what is left of the whole number after the
places of the group. -/
theorem exists_added (hlt : rest < 1 / 10 ^ (4 * (k + 1))) (hg : g < 10000)
    (hd : d.negative = false) (hk : 4 * (k + 1) ≤ 28) :
    ∃ p r, Decimal.of? false g (4 * (k + 1)) = some p ∧ d.add? p = some r ∧ r.negative = false ∧
      r.magnitude = d.magnitude + g / 10 ^ (4 * (k + 1)) ∧
      r.magnitude = (m * 10000 + g : Nat) / 10 ^ (4 * (k + 1)) := by
  have hsum : d.magnitude + g / 10 ^ (4 * (k + 1)) = (m * 10000 + g : Nat) / 10 ^ (4 * (k + 1)) := by
    rw [hm, div_group]
    push_cast
    rw [add_div]
  obtain ⟨⟨t, ht⟩, -⟩ := exists_truncated (m := m * 10000 + g) (j := 4 * (k + 1)) (e := e)
    (by rw [← hsum]; linarith) (by rw [add_div, ← hsum]; linarith)
  obtain ⟨r, hr, hnegative, hmagnitude⟩ := Decimal.add?_exact
    (b := ⟨false, g, 4 * (k + 1), lt_trans hg (by decide), hk⟩) hd rfl (hsum.trans ht.symm)
  exact ⟨_, r, Decimal.of?_eq_some (lt_trans hg (by decide)) hk, hr, hnegative,
    (hmagnitude.trans ht).trans hsum.symm, hmagnitude.trans ht⟩

/-- A group beyond the places is zero, as nothing is left of the number there. -/
theorem group_eq_zero (hbound : g / 10 ^ (4 * (k + 1)) + rest < 1 / 10 ^ (4 * k)) (hk : 28 ≤ 4 * k) :
    g = 0 := by
  have hscale := e.scale_le
  have hpow : (0 : ℚ) < 10 ^ (4 * (k + 1)) := by positivity
  have hg₀ : (0 : ℚ) ≤ g / 10 ^ (4 * (k + 1)) := by positivity
  have hcut : e.magnitude = m / 10 ^ (4 * k) :=
    (exists_truncated (by rw [← hm]; linarith) (by rw [add_div, ← hm]; linarith)).2 (by omega)
  have hzero : (g : ℚ) / 10 ^ (4 * (k + 1)) = 0 := by linarith
  rcases div_eq_zero_iff.1 hzero with hg | hp
  · exact_mod_cast hg
  · exact absurd hp hpow.ne'

end

/-- **Adding the groups after the point never rounds** if the sum is a decimal. -/
theorem addFraction?_exact {gs : List Nat} (hgs : ∀ g ∈ gs, g < 10000) {d e : Decimal} {k m : Nat}
    (hd : d.negative = false) (hm : d.magnitude = m / 10 ^ (4 * k))
    (h : d.magnitude + groupsValue (-(k : Int) - 1) gs = e.magnitude) :
    ∃ r, addFraction? d (4 * (k + 1)) gs = some r ∧ r.negative = false ∧
      r.magnitude = e.magnitude := by
  induction gs generalizing d k m with
  | nil => exact ⟨d, rfl, hd, by rw [← h, groupsValue, add_zero]⟩
  | cons g gs ih =>
    have hbound := groupsValue_lt hgs (-(k : Int))
    rw [List.forall_mem_cons] at hgs
    obtain ⟨hvalue, hrest, hlt⟩ := groupsValue_fraction (g := g) hgs.2 k
    rw [hvalue] at h hbound
    rw [zpow_group] at hbound
    by_cases hk : 4 * (k + 1) ≤ 28
    · obtain ⟨p, r, hp, hr, hnegative, hadded, hmagnitude⟩ :=
        exists_added hm hrest h hlt hgs.1 hd hk
      have hstep : addFraction? d (4 * (k + 1)) (g :: gs) =
          addFraction? r (4 * (k + 1 + 1)) gs := by
        rw [addFraction?, if_pos hk, hp]
        simp only [hr, Option.bind_eq_bind, Option.bind_some]
        rfl
      rw [hstep]
      exact ih hgs.2 hnegative hmagnitude (by rw [hadded, add_assoc, h])
    · obtain rfl := group_eq_zero hm hrest h hbound (by omega)
      have hstep : addFraction? d (4 * (k + 1)) (0 :: gs) =
          addFraction? d (4 * (k + 1 + 1)) gs := by
        rw [addFraction?, if_neg hk, if_neg (by omega)]
        rfl
      rw [hstep]
      refine ih hgs.2 hd (hm.trans (div_group m k)) ?_
      rw [← h, Nat.cast_zero, zero_div, zero_add]

/-! ## Decoding -/

/-- The whole number that a numeral has before its point. -/
def wholePart (n : PostgresNumeric) : Nat :=
  wholeValue (n.groups.take (n.weight + 1).toNat) *
    10000 ^ ((n.weight + 1).toNat - n.groups.length)

/-- The number that a numeral has after its point, of which the first group has so many before it. -/
def fraction (n : PostgresNumeric) : ℚ :=
  groupsValue (-((-n.weight - 1).toNat : Int) - 1) (n.groups.drop (n.weight + 1).toNat)

theorem groupsValue_take (n : PostgresNumeric) :
    groupsValue n.weight (n.groups.take (n.weight + 1).toNat) = n.wholePart := by
  obtain ⟨gs, weight, -, -⟩ := n
  unfold wholePart
  dsimp only
  rcases Int.lt_or_le (weight + 1) 0 with hneg | hpos
  · rw [Int.toNat_of_nonpos hneg.le, List.take_zero]
    simp [groupsValue, wholeValue]
  · obtain ⟨k, hk⟩ := Int.eq_ofNat_of_zero_le hpos
    obtain rfl : weight = k - 1 := by omega
    have hlength : ((gs.take k).length : Int) + (k - gs.length : Nat) - 1 = k - 1 := by
      rw [List.length_take]
      omega
    rw [hk, Int.toNat_natCast, ← hlength, groupsValue_eq, zpow_natCast]
    push_cast
    rfl

theorem groupsValue_drop (n : PostgresNumeric) :
    groupsValue (n.weight - (n.groups.take (n.weight + 1).toNat).length)
      (n.groups.drop (n.weight + 1).toNat) = n.fraction := by
  unfold fraction
  rcases Nat.le_total n.groups.length (n.weight + 1).toNat with hle | hle
  · rw [List.drop_eq_nil_of_le hle]
    rfl
  · rw [List.length_take, Nat.min_eq_left hle]
    congr 1
    omega

/-- The number of a numeral is what it has before its point and after it. -/
theorem wholePart_add_fraction (n : PostgresNumeric) : n.wholePart + n.fraction = n.magnitude := by
  rw [← groupsValue_take, ← groupsValue_drop, ← groupsValue_append, List.take_append_drop]
  rfl

/-- What a numeral of a decimal has before its point fits. -/
theorem Denotes.wholePart_lt {n : PostgresNumeric} {d : Decimal} (h : n.Denotes d) :
    n.wholePart < 0x1000000000000000000000000 := by
  have hfraction : 0 ≤ n.fraction := groupsValue_nonneg _ _
  have hsum := n.wholePart_add_fraction
  have hle : d.magnitude ≤ d.coefficient := div_le_self (by positivity) (one_le_pow₀ (by norm_num))
  have hcast : (n.wholePart : ℚ) ≤ d.coefficient := by
    rw [h.magnitude] at hsum
    linarith
  exact lt_of_le_of_lt (by exact_mod_cast hcast) d.coefficient_lt

/-- **A numeral is decoded to a decimal of its number**, if there is one. -/
theorem decimal?_of_denotes {n : PostgresNumeric} {d : Decimal} (h : n.Denotes d) :
    ∃ e, n.decimal? = some e ∧ e.value = d.value := by
  have hgroups : ∀ g ∈ n.groups.drop (n.weight + 1).toNat, g < 10000 :=
    fun g hg => h.group_lt g (List.mem_of_mem_drop hg)
  obtain ⟨a, ha, hnonneg, hwhole⟩ := wholeOf?_exact h.wholePart_lt
  have hsum : a.magnitude + n.fraction = d.magnitude := by
    rw [← h.magnitude, ← wholePart_add_fraction, hwhole]
    rfl
  obtain ⟨r, hr, -, hmagnitude⟩ := addFraction?_exact
    (m := n.wholePart * 10 ^ (4 * (-n.weight - 1).toNat)) hgroups hnonneg
    (by rw [hwhole, wholePart]; push_cast; field_simp) hsum
  obtain ⟨m, hm⟩ := h.shown
  have hshown : ({ r with negative := n.negative } : Decimal).magnitude = m / 10 ^ n.places := by
    rw [← hm, h.magnitude, ← hmagnitude]
    rfl
  refine ⟨Decimal.round { r with negative := n.negative } n.places, ?_, ?_⟩
  · unfold decimal?
    simp only [ha, hr, Option.bind_eq_bind, Option.bind_some, Option.pure_def]
  · rw [← h.value, Decimal.value, PostgresNumeric.value, Decimal.negative_round,
      Decimal.magnitude_round hshown, hshown, ← hm]

/-! ## Encoding -/

theorem group_lt_groupsOf (n : Nat) : ∀ g ∈ groupsOf n, g < 10000 := by
  induction n using Nat.strongRecOn with
  | ind n ih =>
    unfold groupsOf
    split_ifs with hzero
    · exact List.forall_mem_nil _
    · rw [List.forall_mem_append]
      exact ⟨ih (n / 10000) (by omega), by simp; omega⟩

theorem wholeValue_groupsOf (n : Nat) : wholeValue (groupsOf n) = n := by
  induction n using Nat.strongRecOn with
  | ind n ih =>
    unfold groupsOf
    split_ifs with hzero
    · exact hzero.symm
    · rw [wholeValue_append, ih (n / 10000) (by omega)]
      omega

theorem length_groupsOf_le {n k : Nat} (h : n < 10000 ^ k) : (groupsOf n).length ≤ k := by
  induction k generalizing n with
  | zero =>
    obtain rfl : n = 0 := by simpa using h
    simp [groupsOf]
  | succ k ih =>
    unfold groupsOf
    split_ifs
    · simp
    · rw [List.length_append, List.length_singleton]
      exact Nat.succ_le_succ (ih (by rw [pow_succ] at h; omega))

/-- What is dropped at the end are zeros. -/
theorem dropLastZeros_append (gs : List Nat) :
    ∃ k, gs = dropLastZeros gs ++ List.replicate k 0 := by
  refine ⟨(gs.reverse.takeWhile (· = 0)).length, ?_⟩
  have hzeros : gs.reverse.takeWhile (· = 0) =
      List.replicate (gs.reverse.takeWhile (· = 0)).length 0 :=
    List.eq_replicate_of_mem fun g hg => by simpa using List.mem_takeWhile_imp hg
  rw [dropLastZeros, ← List.reverse_inj, List.reverse_append, List.reverse_reverse,
    List.reverse_replicate, ← hzeros, List.takeWhile_append_dropWhile]

theorem groupsValue_replicate (weight : Int) (k : Nat) :
    groupsValue weight (List.replicate k 0) = 0 := by
  induction k generalizing weight with
  | zero => rfl
  | succ k ih => simp [List.replicate_succ, groupsValue, ih]

/-- Zeros at the end do not count. -/
theorem groupsValue_dropLastZeros (weight : Int) (gs : List Nat) :
    groupsValue weight (dropLastZeros gs) = groupsValue weight gs := by
  obtain ⟨k, hk⟩ := dropLastZeros_append gs
  conv_rhs => rw [hk, groupsValue_append, groupsValue_replicate, add_zero]

theorem dropLastZeros_sublist (gs : List Nat) : (dropLastZeros gs).Sublist gs := by
  obtain ⟨k, hk⟩ := dropLastZeros_append gs
  conv_rhs => rw [hk]
  exact List.sublist_append_left _ _

/-- A numeral has a form on the wire. -/
structure Fits (n : PostgresNumeric) : Prop where
  count : n.groups.length < 0x10000
  lower : -0x8000 ≤ n.weight
  upper : n.weight < 0x8000
  places : n.places < 0x10000

section
variable (d : Decimal)

/-- The groups that a decimal is split into, before zeros are dropped. -/
def rawGroups : List Nat :=
  groupsOf (d.coefficient * Nat.pow 10 (4 * ((d.scale + 3) / 4) - d.scale))

/-- The groups of a decimal that is not zero. -/
def keptGroups : List Nat :=
  if (d.scale + 3) / 4 < (rawGroups d).length then
    (rawGroups d).take ((rawGroups d).length - (d.scale + 3) / 4) ++
      dropLastZeros ((rawGroups d).drop ((rawGroups d).length - (d.scale + 3) / 4))
  else rawGroups d

theorem ofDecimal_eq (h : d.coefficient ≠ 0) : ofDecimal d =
    ⟨keptGroups d, ((rawGroups d).length : Int) - ((d.scale + 3) / 4 : Nat) - 1, d.negative,
      d.scale⟩ := by
  rw [ofDecimal, if_neg h]
  rfl

theorem keptGroups_sublist : (keptGroups d).Sublist (rawGroups d) := by
  unfold keptGroups
  split_ifs
  · conv_rhs => rw [← List.take_append_drop ((rawGroups d).length - (d.scale + 3) / 4) (rawGroups d)]
    exact (dropLastZeros_sublist _).append_left _
  · exact List.Sublist.refl _

theorem groupsValue_keptGroups (weight : Int) :
    groupsValue weight (keptGroups d) = groupsValue weight (rawGroups d) := by
  unfold keptGroups
  split_ifs
  · rw [groupsValue_append, groupsValue_dropLastZeros, ← groupsValue_append, List.take_append_drop]
  · rfl

theorem length_rawGroups_le : (rawGroups d).length ≤ 8 := by
  refine length_groupsOf_le ?_
  have hpow : 10 ^ (4 * ((d.scale + 3) / 4) - d.scale) ≤ 10 ^ 3 :=
    Nat.pow_le_pow_right (by decide) (by omega)
  have hlt := d.coefficient_lt
  calc d.coefficient * 10 ^ (4 * ((d.scale + 3) / 4) - d.scale)
      ≤ d.coefficient * 10 ^ 3 := Nat.mul_le_mul_left _ hpow
    _ < 10000 ^ 8 := by norm_num; omega

/-- The groups of a decimal have its number. -/
theorem groupsValue_rawGroups :
    groupsValue (((rawGroups d).length : Int) - ((d.scale + 3) / 4 : Nat) - 1) (rawGroups d) =
      d.magnitude := by
  have hle : d.scale ≤ 4 * ((d.scale + 3) / 4) := by omega
  have hweight : ((rawGroups d).length : Int) - ((d.scale + 3) / 4 : Nat) - 1 =
      (rawGroups d).length + -((d.scale + 3) / 4 : Nat) - 1 := by omega
  rw [hweight, groupsValue_eq, zpow_group, rawGroups, wholeValue_groupsOf, mul_one_div]
  refine Decimal.div_pow_eq_iff.2 ?_
  show d.coefficient * 10 ^ (4 * ((d.scale + 3) / 4) - d.scale) * 10 ^ d.scale = _
  rw [Nat.mul_assoc, pow_sub_mul_pow _ hle]

/-- **A decimal is written as a numeral that denotes it**, and that has a form on the wire. -/
theorem denotes_ofDecimal : (ofDecimal d).Denotes d ∧ (ofDecimal d).Fits := by
  have hscale := d.scale_le
  by_cases hzero : d.coefficient = 0
  · have hmagnitude : d.magnitude = 0 := by simp [Decimal.magnitude, hzero]
    rw [ofDecimal, if_pos hzero]
    refine ⟨⟨List.forall_mem_nil _, ?_, 0, by simp [PostgresNumeric.magnitude, groupsValue]⟩,
      by decide, by decide, by decide, by decide⟩
    simp [PostgresNumeric.value, PostgresNumeric.magnitude, groupsValue, Decimal.value, hmagnitude]
  · have hmagnitude : (ofDecimal d).magnitude = d.magnitude := by
      rw [ofDecimal_eq d hzero, PostgresNumeric.magnitude]
      exact (groupsValue_keptGroups d _).trans (groupsValue_rawGroups d)
    have hsub := keptGroups_sublist d
    have hlength := length_rawGroups_le d
    have hkept := hsub.length_le
    refine ⟨⟨?_, ?_, d.coefficient, ?_⟩, ?_⟩
    · rw [ofDecimal_eq d hzero]
      exact fun g hg => group_lt_groupsOf _ g (hsub.mem hg)
    · rw [PostgresNumeric.value, hmagnitude, ofDecimal_eq d hzero, Decimal.value]
    · rw [hmagnitude, ofDecimal_eq d hzero, Decimal.magnitude]
    · rw [ofDecimal_eq d hzero]
      constructor <;> dsimp only <;> omega

end

/-! ## Bytes -/

theorem unsigned_word (i : Int) : unsigned (bigEndian 2 i) = (i % 0x10000).toNat := by
  have hlt : (i % 0x10000).toNat < 0x10000 := by omega
  rw [bigEndian, unsigned_bytesOfNat]
  exact Nat.mod_eq_of_lt hlt

/-- A word is read in front of others. -/
theorem words?_append (k : Nat) (i : Int) (rest : List UInt8) :
    words? (k + 1) (bigEndian 2 i ++ rest) = (words? k rest).map ((i % 0x10000).toNat :: ·) := by
  obtain ⟨high, low, hword⟩ : ∃ high low, bigEndian 2 i = [high, low] :=
    List.length_eq_two.1 (length_bigEndian 2 i)
  rw [← unsigned_word, hword]
  rfl

theorem words?_groups {gs : List Nat} (h : ∀ g ∈ gs, g < 10000) :
    words? gs.length (gs.flatMap fun (g : Nat) => bigEndian 2 g) = some gs := by
  induction gs with
  | nil => rfl
  | cons g gs ih =>
    rw [List.forall_mem_cons] at h
    have hg : ((g : Int) % 0x10000).toNat = g := by omega
    rw [List.flatMap_cons, List.length_cons, words?_append, ih h.2, Option.map_some, hg]

/-- **A numeral is read back from its bytes.** -/
theorem ofBytes?_bytes {n : PostgresNumeric} (hn : n.Fits) (h : ∀ g ∈ n.groups, g < 10000) :
    ofBytes? n.bytes = some n := by
  obtain ⟨hcount, hlower, hupper, hplaces⟩ := hn
  have hgroups := words?_groups h
  obtain ⟨groups, weight, negative, places⟩ := n
  dsimp only at *
  have hsize : ((groups.length : Int) % 0x10000).toNat = groups.length := by omega
  have hshown : ((places : Int) % 0x10000).toNat = places := by omega
  have hweight : signed (bytesOfNat 2 (weight % 0x10000).toNat) = weight :=
    @signed_bigEndian 2 _ (by norm_num; omega) (by norm_num; omega)
  have hdrop : (bytes ⟨groups, weight, negative, places⟩).drop 8 =
      groups.flatMap fun (g : Nat) => bigEndian 2 g := by
    refine List.drop_left' ?_
    simp [length_bigEndian]
  have hwords : words? 4 (bytes ⟨groups, weight, negative, places⟩) = some [groups.length,
      (weight % 0x10000).toNat, if negative then negativeMark else 0, places] := by
    unfold bytes
    simp only [List.append_assoc]
    rw [words?_append, words?_append, words?_append, words?_append, hsize, hshown]
    cases negative <;> rfl
  unfold ofBytes?
  rw [hwords]
  simp only [Option.bind_eq_bind, Option.bind_some, hdrop, hgroups, hweight]
  cases negative <;> rfl

end TableService.PostgresNumeric
