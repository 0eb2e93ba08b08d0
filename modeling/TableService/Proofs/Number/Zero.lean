/-
  Numbers that are zero, as doubles and as decimals.

  * `Double.isZero_ofInt`: only zero is rounded to zero.
  * `LeadsSigned`: how the text of a number starts that is not zero; `JsonNumber.leads_text`: such a
    number is written like this.
  * `Decimal.ofText?_ne_zero`, `Decimal.ofScientific?_ne_zero`: what is read of such a text is not zero,
    also where places are rounded off.
-/
import TableService.Proofs.Json.Literal
import TableService.Proofs.Number.Whole

namespace TableService

/-- The number is zero, of either sign. -/
def JsonNumber.IsZero : JsonNumber → Prop
  | .int i _ _ => i = 0
  | .double x _ => x.isZero = true

/-! ## Doubles -/

/-- **Only zero is rounded to zero.** -/
theorem Double.isZero_ofInt {i : Int} (h : i.natAbs.log2 < 1000) :
    (Double.ofInt i).isZero = true ↔ i = 0 := by
  constructor
  · intro hzero
    by_contra hi
    obtain ⟨m, e, hround, hcanonical, hm⟩ := round_whole (Int.natAbs_ne_zero.2 hi) h (i < 0)
    have hv : (Double.ofInt i).value = .finite (i < 0) m e := by
      rw [ofInt, ofRatio, hround, value_ofValue hcanonical]
    rw [isZero, hv] at hzero
    split at hzero
    · rename_i hfinite
      cases hfinite
      exact hm rfl
    · cases hzero
  · rintro rfl
    decide +kernel

/-- The parts of a finite double that is not zero. -/
theorem Double.finite_of_not_isZero {x : Double} (hfinite : x.isFinite = true)
    (h : x.isZero ≠ true) : ∃ s m e, x.value = .finite s m e ∧ m ≠ 0 := by
  unfold isFinite at hfinite
  unfold isZero at h
  cases hv : x.value with
  | finite s m e =>
    refine ⟨s, m, e, rfl, ?_⟩
    rintro rfl
    rw [hv] at h
    exact h rfl
  | infinite | nan =>
    rw [hv] at hfinite
    cases hfinite

theorem Double.finite_of_isZero {x : Double} (h : x.isZero = true) :
    ∃ s e, x.value = .finite s 0 e := by
  unfold isZero at h
  split at h
  · rename_i s e hv
    exact ⟨s, e, hv⟩
  · cases h

/-! ## Texts -/

/-- A text starts with a digit that is not zero, be it the first or one of the places after a zero. -/
inductive Leads : List Char → Prop
  | whole {d : Char} (hd : d.isDigit = true) (hne : d ≠ '0') (tail : List Char) : Leads (d :: tail)
  | place {d : Char} (hd : d.isDigit = true) (hne : d ≠ '0') {k : Nat} (hk : k ≤ 4)
      (tail : List Char) : Leads ('0' :: '.' :: (List.replicate k '0' ++ d :: tail))

/-- The same behind a minus sign or none. -/
inductive LeadsSigned : List Char → Prop
  | plain {cs : List Char} (h : Leads cs) : LeadsSigned cs
  | minus {cs : List Char} (h : Leads cs) : LeadsSigned ('-' :: cs)

theorem LeadsSigned.signOf {cs : List Char} (h : LeadsSigned cs) : Leads (signOf cs).2 := by
  rcases h with h | h
  · cases h with
    | whole hd hne tail =>
      rw [signOf_cons hd]
      exact .whole hd hne tail
    | place hd hne hk tail => exact .place hd hne hk tail
  · exact h

section
variable {p : Char → Bool} (hp : ∀ c, c.isDigit = true ∨ c = '.' ∨ c = '-' → p c = true)
include hp

/-- What a text starts with is kept when it is cut at something else. -/
theorem Leads.takeWhile {cs : List Char} (h : Leads cs) : Leads (cs.takeWhile p) := by
  cases h with
  | whole hd hne tail =>
    rw [List.takeWhile_cons_of_pos (hp _ (.inl hd))]
    exact .whole hd hne _
  | @place d hd hne k hk tail =>
    have hzeros : ∀ c ∈ List.replicate k '0', p c = true := fun c hc =>
      hp c (.inl (List.eq_of_mem_replicate hc ▸ rfl))
    rw [List.takeWhile_cons_of_pos (hp _ (.inl rfl)), List.takeWhile_cons_of_pos (hp _ (by simp)),
      List.takeWhile_append_of_pos hzeros, List.takeWhile_cons_of_pos (hp _ (.inl hd))]
    exact .place hd hne hk _

theorem LeadsSigned.takeWhile {cs : List Char} (h : LeadsSigned cs) :
    LeadsSigned (cs.takeWhile p) := by
  rcases h with h | h
  · exact .plain (h.takeWhile hp)
  · rw [List.takeWhile_cons_of_pos (hp _ (by simp))]
    exact .minus (h.takeWhile hp)

end

/-- The first digit of a number that is not zero. -/
theorem exists_digitsText {n : Nat} (h : n ≠ 0) :
    ∃ d tail, digitsText n = d :: tail ∧ d.isDigit = true ∧ d ≠ '0' := by
  have hhead := head?_digitsText h
  obtain ⟨d, tail, hds⟩ := List.exists_cons_of_ne_nil (digitsText_ne_nil n)
  refine ⟨d, tail, hds, isDigit_of_mem_digitsText (n := n) (by simp [hds]), ?_⟩
  rintro rfl
  exact hhead (by rw [hds]; rfl)

theorem leads_intText {i : Int} (h : i ≠ 0) : LeadsSigned (intText i) := by
  obtain ⟨d, tail, hds, hd, hne⟩ := exists_digitsText (Int.natAbs_ne_zero.2 h)
  unfold intText
  rw [hds]
  split_ifs
  · exact .minus (.whole hd hne tail)
  · exact .plain (.whole hd hne tail)

/-- A positive decimal is written like this in either notation. -/
theorem leads_scientificText {s : Scientific} (h : s.coefficient ≠ 0) :
    Leads (Double.scientificText s) := by
  obtain ⟨d, tail, hds, hd, hne⟩ := exists_digitsText h
  unfold Double.scientificText
  rw [hds]
  dsimp only
  split_ifs with hpositional
  · exact .whole hd hne _
  · exact .whole hd hne _
  · simp only [Double.isPositional, Bool.and_eq_true, decide_eq_true_eq] at hpositional
    exact .place hd hne (by omega) tail
  all_goals exact .whole hd hne _

/-- **A number that is not zero is written with a first digit that is not zero.** -/
theorem JsonNumber.leads_text {n : JsonNumber} (h : ¬ n.IsZero) : LeadsSigned n.text := by
  cases n with
  | int i lower upper => exact leads_intText h
  | double x finite =>
    obtain ⟨s, m, e, hv, hm⟩ := Double.finite_of_not_isZero finite h
    have hne : (Double.shortest m e).coefficient ≠ 0 := Source.coefficient_shortest hm
    have hleads := leads_scientificText hne
    rw [text, Double.jsonText, hv]
    dsimp only
    rw [if_neg hm]
    split_ifs
    · exact .minus hleads
    · exact .plain hleads

/-! ## Decimals -/

namespace Decimal

theorem value_eq_zero_iff (d : Decimal) : d.value = 0 ↔ d.coefficient = 0 := by
  have hmagnitude : d.magnitude = 0 ↔ d.coefficient = 0 := by
    rw [magnitude, div_eq_zero_iff, Nat.cast_eq_zero]
    exact or_iff_left (by positivity)
  rw [value, ← hmagnitude]
  split_ifs
  · exact neg_eq_zero
  · exact Iff.rfl

theorem coefficient_of? {negative : Bool} {c s : Nat} {d : Decimal} (h : of? negative c s = some d) :
    d.coefficient = c := by
  unfold of? at h
  split_ifs at h
  cases h
  rfl

namespace Draft

variable {negative : Bool} {d : Draft} {r : Decimal}

theorem rounded_ne_zero {c : Char} (h : d.rounded negative c = some r) (hd : d.coefficient ≠ 0) :
    r.coefficient ≠ 0 := by
  unfold rounded at h
  split at h
  · split_ifs at h <;> rw [coefficient_of? h] <;> omega
  · split_ifs at h
    rwa [coefficient_of? h]

/-- A character is read into the number, or the rest is rounded off at it. -/
theorem finish_cons {c : Char} {cs : List Char} (h : d.finish negative (c :: cs) = some r) :
    d.rounded negative c = some r ∨
      ∃ d' : Draft, d'.finish negative cs = some r ∧ d.coefficient ≤ d'.coefficient := by
  rw [finish] at h
  by_cases hfull : d.isFull = true
  · exact .inl (by rwa [if_pos hfull] at h)
  rw [if_neg hfull] at h
  cases hc : digitValue? 10 c with
  | some v =>
    have hpush : (d.push v).coefficient = 10 * d.coefficient + v := rfl
    simp only [hc] at h
    split_ifs at h
    · exact .inr ⟨d.push v, h, by omega⟩
    · exact .inl h
  | none =>
    simp only [hc] at h
    split_ifs at h
    · exact .inr ⟨_, h, Nat.le_refl _⟩
    · exact .inr ⟨d, h, Nat.le_refl _⟩

/-- A number that is not zero stays so, whatever follows. -/
theorem finish_ne_zero {cs : List Char} (h : d.finish negative cs = some r)
    (hd : d.coefficient ≠ 0) : r.coefficient ≠ 0 := by
  induction cs generalizing d with
  | nil =>
    unfold finish at h
    split_ifs at h
    rwa [coefficient_of? h]
  | cons c cs ih =>
    obtain h | ⟨d', h, hle⟩ := finish_cons h
    · exact rounded_ne_zero h hd
    · exact ih h (by omega)

/-- A digit other than zero makes it so. -/
theorem finish_digit_ne_zero {c : Char} {cs : List Char} (hc : c.isDigit = true) (hne : c ≠ '0')
    (hfull : d.isFull = false) (h : d.finish negative (c :: cs) = some r) : r.coefficient ≠ 0 := by
  obtain ⟨hlower, hupper⟩ : 48 ≤ c.toNat ∧ c.toNat ≤ 57 := Char.isDigit_iff_toNat.1 hc
  have hvalue : c.toNat ≠ 48 := fun hzero => hne (Char.toNat_inj.1 hzero)
  have hpush : (d.push (c.toNat - 48)).coefficient = 10 * d.coefficient + (c.toNat - 48) := rfl
  rw [finish, if_neg (by simp [hfull]), digitValue?_of_isDigit hc] at h
  simp only [hpush] at h
  by_cases hfits : 10 * d.coefficient + (c.toNat - 48) < 0x1000000000000000000000000
  · rw [if_pos hfits] at h
    exact finish_ne_zero h (by rw [hpush]; omega)
  · rw [if_neg hfits] at h
    split_ifs at h
    exact rounded_ne_zero h (by omega)

/-- Zeros at the first places change nothing but their number. -/
theorem finish_zeros {k s : Nat} (h : s + k ≤ 28) (cs : List Char) :
    finish negative ⟨0, s, true, true⟩ (List.replicate k '0' ++ cs) =
      finish negative ⟨0, s + k, true, true⟩ cs := by
  induction k generalizing s with
  | zero => rfl
  | succ k ih =>
    have hfull : isFull ⟨0, s, true, true⟩ = false := by
      simp only [isFull, Bool.true_and, decide_eq_false_iff_not]
      omega
    have hstep : finish negative ⟨0, s, true, true⟩ ('0' :: (List.replicate k '0' ++ cs)) =
        finish negative ⟨0, s + 1, true, true⟩ (List.replicate k '0' ++ cs) := by
      rw [finish, hfull]
      rfl
    rw [List.replicate_succ, List.cons_append, hstep, ih (by omega), Nat.add_assoc, Nat.add_comm 1]

/-- **What is read of such a text is not zero**, also when places of it are rounded off. -/
theorem finish_start_ne_zero {cs : List Char} (hcs : Leads cs)
    (h : start.finish negative cs = some r) : r.coefficient ≠ 0 := by
  cases hcs with
  | whole hd hne tail => exact finish_digit_ne_zero hd hne rfl h
  | @place c hc hne k hk tail =>
    have hpoint : start.finish negative ('0' :: '.' :: (List.replicate k '0' ++ c :: tail)) =
        finish negative ⟨0, 0, true, true⟩ (List.replicate k '0' ++ c :: tail) := rfl
    rw [hpoint, finish_zeros (by omega)] at h
    refine finish_digit_ne_zero hc hne ?_ h
    simp only [isFull, Bool.true_and, decide_eq_false_iff_not]
    omega

end Draft

variable {cs : List Char} {d r : Decimal}

theorem ofText?_ne_zero (hcs : LeadsSigned cs) (h : ofText? cs = some r) : r.coefficient ≠ 0 :=
  Draft.finish_start_ne_zero hcs.signOf h

theorem shift?_ne_zero {n : Nat} (hd : d.coefficient ≠ 0) (h : d.shift? n = some r) :
    r.coefficient ≠ 0 := by
  unfold shift? at h
  split_ifs at h
  · rwa [coefficient_of? h]
  · obtain ⟨e, he, rfl⟩ := Option.map_eq_some_iff.1 h
    have hpos : d.coefficient * Nat.pow 10 (n - d.scale) ≠ 0 :=
      Nat.mul_ne_zero hd (Nat.pow_pos (by decide)).ne'
    rw [← coefficient_of? he, ← stripZeros_mul e.coefficient e.scale] at hpos
    exact left_ne_zero_of_mul hpos

/-- A power of ten does not make it zero either. -/
theorem ofScientific?_ne_zero (hcs : LeadsSigned cs) (h : ofScientific? cs = some r) :
    r.coefficient ≠ 0 := by
  have hbase : LeadsSigned (cs.takeWhile fun c => c != 'e' && c != 'E') := by
    refine hcs.takeWhile fun c hc => ?_
    rcases hc with hc | rfl | rfl
    · simp only [Bool.and_eq_true, bne_iff_ne]
      constructor <;> rintro rfl <;> cases hc
    · decide
    · decide
  unfold ofScientific? at h
  simp only [Option.bind_eq_bind, Option.bind_eq_some_iff] at h
  obtain ⟨d, hd, h⟩ := h
  have hne := ofText?_ne_zero hbase hd
  split at h
  · cases h
  · obtain ⟨n, -, h⟩ := Option.bind_eq_some_iff.1 h
    rwa [coefficient_of? h]
  · obtain ⟨n, -, h⟩ := Option.bind_eq_some_iff.1 h
    exact shift?_ne_zero hne h

end Decimal
end TableService
