/-
  Decimals as the numbers that they denote.

  * `Decimal.magnitude` and `Decimal.value`: the number, without and with its sign.
  * What fits is kept exactly: `magnitude_normalize`, `magnitude_round`, and `add?_exact` for a sum
    that a decimal denotes.
-/
import Mathlib.Algebra.Order.Field.Rat
import Mathlib.Tactic.FieldSimp
import Mathlib.Tactic.Linarith
import Mathlib.Tactic.Positivity
import Mathlib.Tactic.Ring
import TableService.Number.Decimal
import TableService.Proofs.Number.Digits

namespace TableService

/-- What is divided without a rest is not rounded. -/
theorem roundDiv_mul {q p : Nat} (hp : 0 < p) : roundDiv (q * p) p = q := by
  simp [roundDiv, hp]

namespace Decimal

/-! ## Numbers -/

/-- The number without its sign. -/
def magnitude (d : Decimal) : ℚ := d.coefficient / 10 ^ d.scale

/-- The number. -/
def value (d : Decimal) : ℚ := if d.negative then -d.magnitude else d.magnitude

theorem magnitude_nonneg (d : Decimal) : 0 ≤ d.magnitude := by
  unfold magnitude
  positivity

/-- Two quotients by powers of ten are compared by their numerators. -/
theorem div_pow_eq_iff {a b s t : Nat} :
    (a : ℚ) / 10 ^ s = b / 10 ^ t ↔ a * 10 ^ t = b * 10 ^ s := by
  rw [div_eq_div_iff (by positivity) (by positivity)]
  exact_mod_cast Iff.rfl

/-- The decimal of parts that are within the bounds. -/
theorem of?_eq_some {negative : Bool} {c s : Nat} (hc : c < 0x1000000000000000000000000)
    (hs : s ≤ 28) : of? negative c s = some ⟨negative, c, s, hc, hs⟩ := dif_pos ⟨hc, hs⟩

/-! ## Zeros at the end -/

theorem stripZeros_mul (c s : Nat) :
    (stripZeros c s).1 * 10 ^ (s - (stripZeros c s).2) = c := by
  induction s generalizing c with
  | zero => simp [stripZeros]
  | succ s ih =>
    unfold stripZeros
    split_ifs with h
    · have hle := (stripZeros_le (c / 10) s).2
      rw [Nat.succ_sub hle, pow_succ, ← Nat.mul_assoc, ih]
      omega
    · simp

/-- **The number is the same without the zeros at its end.** -/
theorem magnitude_normalize (d : Decimal) : d.normalize.magnitude = d.magnitude := by
  have hle : (stripZeros d.coefficient d.scale).2 ≤ d.scale := (stripZeros_le _ _).2
  refine div_pow_eq_iff.2 ?_
  calc (stripZeros d.coefficient d.scale).1 * 10 ^ d.scale
      = (stripZeros d.coefficient d.scale).1 *
          10 ^ (d.scale - (stripZeros d.coefficient d.scale).2) *
            10 ^ (stripZeros d.coefficient d.scale).2 := by
        rw [Nat.mul_assoc, pow_sub_mul_pow _ hle]
    _ = d.coefficient * 10 ^ (stripZeros d.coefficient d.scale).2 := by rw [stripZeros_mul]

theorem value_normalize (d : Decimal) : d.normalize.value = d.value := by
  have hmagnitude := d.magnitude_normalize
  have hsign : d.normalize.negative = (d.negative && d.coefficient != 0) := rfl
  unfold value
  rw [hmagnitude, hsign]
  by_cases hzero : d.coefficient = 0
  · have : d.magnitude = 0 := by simp [magnitude, hzero]
    simp [this]
  · simp [hzero]

/-! ## Exact results -/

/-- The number over a power of ten that has as many places. -/
theorem magnitude_eq {d : Decimal} {s : Nat} (h : d.scale ≤ s) :
    d.magnitude = (d.coefficient * 10 ^ (s - d.scale) : Nat) / 10 ^ s :=
  div_pow_eq_iff.2 (by rw [Nat.mul_assoc, pow_sub_mul_pow _ h])

/-- A numerator of the number of a decimal is a coefficient with zeros behind it. -/
theorem exists_coefficient {c s : Nat} {d : Decimal} (h : (c : ℚ) / 10 ^ s = d.magnitude) :
    ∃ q < 0x1000000000000000000000000, c = q * 10 ^ (s - d.scale) := by
  rw [magnitude, div_pow_eq_iff] at h
  rcases Nat.le_total d.scale s with hle | hle
  · refine ⟨d.coefficient, d.coefficient_lt, ?_⟩
    rw [← pow_sub_mul_pow _ hle, ← Nat.mul_assoc] at h
    exact Nat.eq_of_mul_eq_mul_right (by positivity) h
  · refine ⟨c, ?_, by rw [Nat.sub_eq_zero_of_le hle, pow_zero, Nat.mul_one]⟩
    rw [← pow_sub_mul_pow _ hle, ← Nat.mul_assoc] at h
    have hc : c * 10 ^ (d.scale - s) = d.coefficient :=
      Nat.eq_of_mul_eq_mul_right (by positivity) h
    exact lt_of_le_of_lt (Nat.le_mul_of_pos_right c (by positivity)) (hc ▸ d.coefficient_lt)

/-- No more places are dropped than it takes to fit. -/
theorem find?_drop {c s m : Nat} (hs : s ≤ 28) (hm : m ≤ s)
    (h : c / 10 ^ m < 0x1000000000000000000000000) :
    ∃ k ≤ m, c / 10 ^ k < 0x1000000000000000000000000 ∧ (List.range (s + 1)).find? (fun k =>
      decide (c / Nat.pow 10 k < 0x1000000000000000000000000) && decide (s - k ≤ 28)) = some k := by
  have hholds : (decide (c / Nat.pow 10 m < 0x1000000000000000000000000) &&
      decide (s - m ≤ 28)) = true :=
    Bool.and_eq_true_iff.2 ⟨decide_eq_true h, decide_eq_true (by omega)⟩
  have hsome : ((List.range (s + 1)).find? fun k =>
      decide (c / Nat.pow 10 k < 0x1000000000000000000000000) && decide (s - k ≤ 28)).isSome :=
    List.find?_isSome.2 ⟨m, List.mem_range.2 (by omega), hholds⟩
  obtain ⟨k, hk⟩ := Option.isSome_iff_exists.1 hsome
  obtain ⟨hfits, -, hfirst⟩ := List.find?_range_eq_some.1 hk
  refine ⟨k, ?_, of_decide_eq_true (Bool.and_eq_true_iff.1 hfits).1, hk⟩
  by_contra hlt
  have hnot := hfirst m (by omega)
  rw [hholds] at hnot
  cases hnot

/-- **A number that a decimal denotes is not rounded to fit.** -/
theorem fit?_exact {c s : Nat} (hs : s ≤ 28) {d : Decimal} (h : (c : ℚ) / 10 ^ s = d.magnitude) :
    ∃ e, fit? false c s = some e ∧ e.negative = false ∧ e.magnitude = d.magnitude := by
  obtain ⟨q, hq, rfl⟩ := exists_coefficient h
  obtain ⟨k, hle, hfits, hk⟩ := find?_drop (m := s - d.scale) hs (by omega)
    (by rwa [Nat.mul_div_cancel _ (by positivity)])
  -- what is dropped are zeros
  have hsplit : q * 10 ^ (s - d.scale) = q * 10 ^ (s - d.scale - k) * 10 ^ k := by
    rw [Nat.mul_assoc, pow_sub_mul_pow _ hle]
  have hround : roundDiv (q * 10 ^ (s - d.scale)) (Nat.pow 10 k) = q * 10 ^ (s - d.scale - k) := by
    rw [hsplit]
    exact roundDiv_mul (by positivity)
  have hlt : q * 10 ^ (s - d.scale - k) < 0x1000000000000000000000000 := by
    rwa [hsplit, Nat.mul_div_cancel _ (by positivity)] at hfits
  refine ⟨⟨false, q * 10 ^ (s - d.scale - k), s - k, hlt, by omega⟩, ?_, rfl, ?_⟩
  · rw [fit?, hk]
    simp only [Option.bind_eq_bind, Option.bind_some, hround, if_pos hlt]
    exact of?_eq_some hlt (by omega)
  · rw [← h]
    refine div_pow_eq_iff.2 ?_
    show q * 10 ^ (s - d.scale - k) * 10 ^ s = q * 10 ^ (s - d.scale) * 10 ^ (s - k)
    rw [hsplit, Nat.mul_assoc _ (10 ^ k), pow_mul_pow_sub _ (by omega)]

/-- A sum is fitted with the places of both parts. -/
theorem add?_eq_fit? {a b : Decimal} (ha : a.negative = false) (hb : b.negative = false) :
    ∃ c s, s ≤ 28 ∧ a.add? b = fit? false c s ∧ a.magnitude + b.magnitude = (c : ℚ) / 10 ^ s := by
  refine ⟨a.coefficient * 10 ^ (max a.scale b.scale - a.scale) +
    b.coefficient * 10 ^ (max a.scale b.scale - b.scale), max a.scale b.scale,
    max_le a.scale_le b.scale_le, ?_, ?_⟩
  · unfold add? numerator
    simp only [ha, hb, Bool.false_eq_true, if_false, Nat.pow_eq]
    generalize max a.scale b.scale = s
    generalize hc : a.coefficient * 10 ^ (s - a.scale) + b.coefficient * 10 ^ (s - b.scale) = c
    have hcast : (a.coefficient * (10 ^ (s - a.scale) : Nat) +
        b.coefficient * (10 ^ (s - b.scale) : Nat) : Int) = c := by
      rw [← hc]
      push_cast
      rfl
    have hsign : decide ((c : Int) < 0) = false := decide_eq_false (by omega)
    rw [hcast, hsign, Int.natAbs_natCast]
  · rw [magnitude_eq (le_max_left a.scale b.scale), magnitude_eq (le_max_right a.scale b.scale),
      ← add_div]
    push_cast
    rfl

/-- **A sum that a decimal denotes is not rounded.** -/
theorem add?_exact {a b d : Decimal} (ha : a.negative = false) (hb : b.negative = false)
    (h : a.magnitude + b.magnitude = d.magnitude) :
    ∃ e, a.add? b = some e ∧ e.negative = false ∧ e.magnitude = d.magnitude := by
  obtain ⟨c, s, hs, hfit, hsum⟩ := add?_eq_fit? ha hb
  rw [hfit]
  exact fit?_exact hs (hsum.symm.trans h)

/-- **A number with no more places than are kept is not rounded.** -/
theorem magnitude_round {d : Decimal} {places m : Nat} (h : d.magnitude = m / 10 ^ places) :
    (d.round places).magnitude = d.magnitude := by
  unfold round
  split_ifs with hlt
  · have hp : 0 < 10 ^ (d.scale - places) := by positivity
    have hc : d.coefficient = m * 10 ^ (d.scale - places) := by
      rw [magnitude, div_pow_eq_iff] at h
      refine Nat.eq_of_mul_eq_mul_right (show 0 < 10 ^ places by positivity) ?_
      rw [h, Nat.mul_assoc, pow_sub_mul_pow _ hlt.le]
    have hround : (d.coefficient + Nat.pow 10 (d.scale - places) / 2) /
        Nat.pow 10 (d.scale - places) = m := by
      rw [hc]
      show (m * 10 ^ (d.scale - places) + 10 ^ (d.scale - places) / 2) / 10 ^ (d.scale - places) = m
      rw [Nat.add_comm, Nat.add_mul_div_right _ _ hp,
        Nat.div_eq_of_lt (Nat.div_lt_self hp (by decide)), Nat.zero_add]
    rw [h, magnitude]
    exact congrArg (fun n : Nat => (n : ℚ) / 10 ^ places) hround
  · rfl

theorem negative_round (d : Decimal) (places : Nat) : (d.round places).negative = d.negative := by
  unfold round
  split_ifs <;> rfl

/-- A whole number is shifted exactly. -/
theorem shift?_exact {d : Decimal} {n : Nat} (hd : d.negative = false) (hs : d.scale = 0)
    (hn : n ≤ 28) (hlt : d.coefficient * 10 ^ n < 0x1000000000000000000000000) :
    ∃ e, d.shift? n = some e ∧ e.negative = false ∧ e.magnitude = d.coefficient * 10 ^ n := by
  unfold shift?
  rw [hs, hd, Nat.sub_zero]
  split_ifs with hzero
  · obtain rfl : n = 0 := by omega
    exact ⟨_, of?_eq_some d.coefficient_lt (by omega), rfl, by simp [magnitude]⟩
  · refine ⟨normalize ⟨false, d.coefficient * 10 ^ n, 0, hlt, by omega⟩, ?_, rfl, ?_⟩
    · rw [show d.coefficient * Nat.pow 10 n = d.coefficient * 10 ^ n from rfl,
        of?_eq_some hlt (by omega), Option.map_some]
    · rw [magnitude_normalize, magnitude]
      push_cast
      rw [pow_zero, div_one]

/-! ## Text -/

namespace Draft

/-- Digits before the point are read to the end if their number fits. -/
theorem finish_whole {negative : Bool} {cs rest : List Char} (hcs : ∀ c ∈ cs, c.isDigit = true)
    {n : Nat} {digits : Bool} (hn : Nat.ofDigitChars 10 cs n < 0x1000000000000000000000000) :
    finish negative ⟨n, 0, false, digits⟩ (cs ++ rest) =
      finish negative ⟨Nat.ofDigitChars 10 cs n, 0, false, digits || !cs.isEmpty⟩ rest := by
  induction cs generalizing n digits with
  | nil => simp
  | cons c cs ih =>
    rw [List.forall_mem_cons] at hcs
    rw [Nat.ofDigitChars_cons] at hn ⊢
    have hpush : (push ⟨n, 0, false, digits⟩ (c.toNat - 48)).coefficient <
        0x1000000000000000000000000 := lt_of_le_of_lt (le_ofDigitChars cs _) hn
    rw [List.cons_append, finish, if_neg (by simp [isFull]), digitValue?_of_isDigit hcs.1]
    simp only [if_pos hpush]
    exact (ih hcs.2 hn).trans (by simp)

/-- Digits after the point are read to the end if there are places for them and their number fits. -/
theorem finish_places {negative : Bool} {cs : List Char} (hcs : ∀ c ∈ cs, c.isDigit = true)
    {n s : Nat} (hs : s + cs.length ≤ 28)
    (hn : Nat.ofDigitChars 10 cs n < 0x1000000000000000000000000) :
    finish negative ⟨n, s, true, true⟩ cs =
      of? negative (Nat.ofDigitChars 10 cs n) (s + cs.length) := by
  induction cs generalizing n s with
  | nil => rfl
  | cons c cs ih =>
    rw [List.forall_mem_cons] at hcs
    rw [Nat.ofDigitChars_cons] at hn ⊢
    rw [List.length_cons] at hs ⊢
    have hdraft : push ⟨n, s, true, true⟩ (c.toNat - 48) =
        ⟨10 * n + (c.toNat - '0'.toNat), s + 1, true, true⟩ := rfl
    have hpush : 10 * n + (c.toNat - '0'.toNat) < 0x1000000000000000000000000 :=
      lt_of_le_of_lt (le_ofDigitChars cs _) hn
    rw [finish, if_neg (by simp [isFull]; omega), digitValue?_of_isDigit hcs.1]
    simp only [hdraft, if_pos hpush]
    rw [ih hcs.2 (by omega) hn, Nat.add_right_comm, Nat.add_assoc]

end Draft

theorem isDigit_paddedDigits {length n : Nat} {c : Char} (h : c ∈ paddedDigits length n) :
    c.isDigit = true := by
  rcases List.mem_append.1 h with h | h
  · rw [List.eq_of_mem_replicate h]
    rfl
  · exact isDigit_of_mem_digitsText h

theorem ofDigitChars_paddedDigits (length n : Nat) :
    Nat.ofDigitChars 10 (paddedDigits length n) 0 = n := by
  have hzeros : ∀ k, Nat.ofDigitChars 10 (List.replicate k '0') 0 = 0 := by
    intro k
    induction k with
    | zero => rfl
    | succ k ih => exact ih
  rw [paddedDigits, Nat.ofDigitChars_append, hzeros, ofDigitChars_digitsText]

theorem le_length_paddedDigits (length n : Nat) : length ≤ (paddedDigits length n).length := by
  rw [paddedDigits, List.length_append, List.length_replicate]
  omega

/-- The parts of a text: digits before the point, and digits after it. -/
theorem finish_parts {negative : Bool} {whole places : List Char} {c : Nat}
    (hwhole : ∀ c ∈ whole, c.isDigit = true) (hplaces : ∀ c ∈ places, c.isDigit = true)
    (hne : whole ≠ []) (hle : places.length ≤ 28)
    (hvalue : Nat.ofDigitChars 10 (whole ++ places) 0 = c) (hc : c < 0x1000000000000000000000000) :
    Draft.start.finish negative (whole ++ if places.length = 0 then [] else '.' :: places) =
      of? negative c places.length := by
  rw [Nat.ofDigitChars_append] at hvalue
  have hwhole' : Nat.ofDigitChars 10 whole 0 < 0x1000000000000000000000000 :=
    lt_of_le_of_lt (le_ofDigitChars places _) (hvalue ▸ hc)
  have hsome : (false || !whole.isEmpty) = true := by
    cases whole with
    | nil => exact absurd rfl hne
    | cons c cs => rfl
  rw [Draft.start, Draft.finish_whole hwhole hwhole', hsome]
  by_cases hzero : places = []
  · subst hzero
    rw [← hvalue]
    rfl
  · have hlength : ¬ places.length = 0 := by simpa using hzero
    have hpoint : Draft.finish negative ⟨Nat.ofDigitChars 10 whole 0, 0, false, true⟩ ('.' :: places) =
        Draft.finish negative ⟨Nat.ofDigitChars 10 whole 0, 0, true, true⟩ places := rfl
    rw [if_neg hlength, hpoint, Draft.finish_places hplaces (by omega) (hvalue ▸ hc), hvalue,
      Nat.zero_add]

/-- The digits of a decimal, those before the point and those after it. -/
theorem text_eq (d : Decimal) : ∃ c cs places, (∀ x ∈ c :: cs, x.isDigit = true) ∧
    (∀ x ∈ places, x.isDigit = true) ∧ places.length = d.scale ∧
    Nat.ofDigitChars 10 (c :: cs ++ places) 0 = d.coefficient ∧
    d.text = (if d.negative then ['-'] else []) ++ (c :: cs) ++
      (if places.length = 0 then [] else '.' :: places) := by
  have hdigits : ∀ c ∈ paddedDigits (d.scale + 1) d.coefficient, c.isDigit = true :=
    fun _ => isDigit_paddedDigits
  have hlength := le_length_paddedDigits (d.scale + 1) d.coefficient
  have hvalue := ofDigitChars_paddedDigits (d.scale + 1) d.coefficient
  unfold text
  generalize paddedDigits (d.scale + 1) d.coefficient = ds at *
  dsimp only
  have hwhole : (ds.take (ds.length - d.scale)).length = ds.length - d.scale := by simp
  have hplaces : (ds.drop (ds.length - d.scale)).length = d.scale := by simp; omega
  have hparts : ds.take (ds.length - d.scale) ++ ds.drop (ds.length - d.scale) = ds :=
    List.take_append_drop _ _
  generalize ds.take (ds.length - d.scale) = whole at *
  generalize ds.drop (ds.length - d.scale) = places at *
  subst hparts
  cases whole with
  | nil =>
    rw [List.length_nil] at hwhole
    omega
  | cons c cs =>
    rw [List.forall_mem_append] at hdigits
    exact ⟨c, cs, places, hdigits.1, hdigits.2, hplaces, hvalue, by rw [hplaces]⟩

/-- **A decimal is read back as it is written.** -/
theorem ofText?_text (d : Decimal) : ofText? d.text = some d := by
  obtain ⟨c, cs, places, hwhole, hplaces, hscale, hvalue, htext⟩ := d.text_eq
  have hsign : signOf d.text =
      (d.negative, (c :: cs) ++ if places.length = 0 then [] else '.' :: places) := by
    rw [htext]
    cases d.negative with
    | true => rfl
    | false => exact signOf_cons (hwhole c List.mem_cons_self) _
  have hfinish := @finish_parts d.negative _ _ _ hwhole hplaces (List.cons_ne_nil _ _)
    (by rw [hscale]; exact d.scale_le) hvalue d.coefficient_lt
  rw [ofText?, hsign]
  dsimp only
  rw [hfinish, hscale, of?_eq_some d.coefficient_lt d.scale_le]

end Decimal
end TableService
