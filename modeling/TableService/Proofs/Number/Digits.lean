/-
  Numbers in digits are read back.

  * `wholeOf_eq_some_iff`: decimal digits are read as what they say, and nothing else is;
    `wholeOf_digitsText`, `integerOf_intText`: so a number that is spelled is read back.
  * `byteOfHexadecimal?_lower`, `byteOfHexadecimal?_upper`: the two digits of a byte give it in either
    case; `bytesOfHexadecimal?_hexadecimal`: so bytes in lower case are read back.
-/
import Mathlib.Data.List.Basic
import TableService.Json.Writer
import TableService.Number.Reading

namespace TableService

/-! ## Decimal digits -/

theorem digitValue?_of_isDigit {c : Char} (h : c.isDigit = true) :
    digitValue? 10 c = some (c.toNat - 48) := by
  obtain ⟨h₁, h₂⟩ : 48 ≤ c.toNat ∧ c.toNat ≤ 57 := Char.isDigit_iff_toNat.1 h
  have hlt : c.toNat - 48 < 10 := by omega
  simp [digitValue?, h₁, h₂, hlt]

theorem foldlM_digitValue? {cs : List Char} (h : ∀ c ∈ cs, c.isDigit = true) (n : Nat) :
    cs.foldlM (fun n c => (digitValue? 10 c).map (10 * n + ·)) n =
      some (Nat.ofDigitChars 10 cs n) := by
  induction cs generalizing n with
  | nil => rfl
  | cons c cs ih =>
    rw [List.forall_mem_cons] at h
    rw [List.foldlM_cons, digitValue?_of_isDigit h.1, Nat.ofDigitChars_cons]
    exact ih h.2 _

/-- **Decimal digits are read as the number that they spell.** -/
theorem wholeOf_eq {cs : List Char} (hne : cs ≠ []) (h : ∀ c ∈ cs, c.isDigit = true) :
    wholeOf 10 cs = some (Nat.ofDigitChars 10 cs 0) := by
  rw [wholeOf, if_neg (by simpa using hne)]
  exact foldlM_digitValue? h 0

/-- What has a value to the base ten is a decimal digit. -/
theorem isDigit_of_digitValue? {c : Char} {v : Nat} (h : digitValue? 10 c = some v) :
    c.isDigit = true := by
  refine Char.isDigit_iff_toNat.2 ?_
  simp only [digitValue?, Option.bind_eq_some_iff, Option.ite_none_right_eq_some] at h
  obtain ⟨w, hw, hlt, -⟩ := h
  show 48 ≤ c.toNat ∧ c.toNat ≤ 57
  split_ifs at hw <;> cases hw <;> omega

theorem isDigit_of_foldlM {cs : List Char} {m n : Nat}
    (h : cs.foldlM (fun n c => (digitValue? 10 c).map (10 * n + ·)) m = some n) :
    ∀ c ∈ cs, c.isDigit = true := by
  induction cs generalizing m with
  | nil => exact List.forall_mem_nil _
  | cons c cs ih =>
    rw [List.foldlM_cons, Option.bind_eq_bind, Option.bind_eq_some_iff] at h
    obtain ⟨k, hk, hrest⟩ := h
    obtain ⟨v, hv, -⟩ := Option.map_eq_some_iff.1 hk
    exact List.forall_mem_cons.2 ⟨isDigit_of_digitValue? hv, ih hrest⟩

/-- Decimal digits, of which there is at least one, spell a number. -/
structure IsNumeral (cs : List Char) (n : Nat) : Prop where
  ne_nil : cs ≠ []
  isDigit : ∀ c ∈ cs, c.isDigit = true
  value : n = Nat.ofDigitChars 10 cs 0

/-- **Nothing but decimal digits is read**, and they as what they spell. -/
theorem wholeOf_eq_some_iff {cs : List Char} {n : Nat} : wholeOf 10 cs = some n ↔ IsNumeral cs n := by
  constructor
  · intro h
    have hne : cs ≠ [] := by
      rintro rfl
      cases h
    have hdigits : ∀ c ∈ cs, c.isDigit = true := by
      rw [wholeOf, if_neg (by simpa using hne)] at h
      exact isDigit_of_foldlM h
    rw [wholeOf_eq hne hdigits] at h
    exact ⟨hne, hdigits, (Option.some.inj h).symm⟩
  · rintro ⟨hne, hdigits, rfl⟩
    exact wholeOf_eq hne hdigits

/-- Decimal digits spell a whole number, with or without a sign. -/
inductive IsSignedNumeral : List Char → Int → Prop
  | unsigned {cs : List Char} {n : Nat} (h : IsNumeral cs n) : IsSignedNumeral cs n
  | plus {cs : List Char} {n : Nat} (h : IsNumeral cs n) : IsSignedNumeral ('+' :: cs) n
  | minus {cs : List Char} {n : Nat} (h : IsNumeral cs n) : IsSignedNumeral ('-' :: cs) (-n)

theorem digitsText_ne_nil (n : Nat) : digitsText n ≠ [] := Nat.toDigits_ne_nil

theorem isDigit_of_mem_digitsText {n : Nat} {c : Char} (h : c ∈ digitsText n) : c.isDigit = true :=
  Nat.isDigit_of_mem_toDigits (by decide) (by decide) h

theorem ofDigitChars_digitsText (n : Nat) : Nat.ofDigitChars 10 (digitsText n) 0 = n :=
  Nat.ofDigitChars_toDigits (by decide) (by decide)

theorem le_ofDigitChars (cs : List Char) (n : Nat) : n ≤ Nat.ofDigitChars 10 cs n := by
  induction cs generalizing n with
  | nil => exact Nat.le_refl _
  | cons c cs ih =>
    rw [Nat.ofDigitChars_cons]
    exact Nat.le_trans (by omega) (ih _)

/-- Only zero is spelled with a zero in front. -/
theorem head?_digitsText {n : Nat} (hn : n ≠ 0) : (digitsText n).head? ≠ some '0' := by
  induction n using Nat.strongRecOn with
  | ind n ih =>
    rw [digitsText, Nat.toDigits_eq_if (by decide)]
    split_ifs with h
    · have hdigit : ∀ m < 10, m ≠ 0 → [Nat.digitChar m].head? ≠ some '0' := by decide
      exact hdigit n h hn
    · have hrest := ih (n / 10) (by omega) (by omega)
      obtain ⟨d, ds, hds⟩ := List.exists_cons_of_ne_nil (digitsText_ne_nil (n / 10))
      rw [hds] at hrest
      rw [show Nat.toDigits 10 (n / 10) = d :: ds from hds]
      exact hrest

theorem wholeOf_digitsText (n : Nat) : wholeOf 10 (digitsText n) = some n := by
  rw [wholeOf_eq (digitsText_ne_nil n) fun _ => isDigit_of_mem_digitsText, ofDigitChars_digitsText]

/-- A digit is no sign. -/
theorem signOf_cons {c : Char} (h : c.isDigit = true) (cs : List Char) :
    signOf (c :: cs) = (false, c :: cs) := by
  unfold signOf
  split <;> simp_all +decide

theorem signOf_numeral {cs : List Char} {n : Nat} (h : IsNumeral cs n) : signOf cs = (false, cs) := by
  obtain ⟨c, cs, rfl⟩ := List.exists_cons_of_ne_nil h.ne_nil
  exact signOf_cons (h.isDigit c List.mem_cons_self) cs

theorem integerOf_eq (cs : List Char) : integerOf cs =
    (wholeOf 10 (signOf cs).2).map fun n : Nat => if (signOf cs).1 then -(n : Int) else n := by
  unfold integerOf
  obtain ⟨negative, digits⟩ := signOf cs
  dsimp only
  cases wholeOf 10 digits <;> rfl

/-- **A whole number is read from digits with or without a sign**, and from nothing else. -/
theorem integerOf_eq_some_iff {cs : List Char} {i : Int} :
    integerOf cs = some i ↔ IsSignedNumeral cs i := by
  rw [integerOf_eq]
  constructor
  · intro h
    obtain ⟨n, hn, rfl⟩ := Option.map_eq_some_iff.1 h
    replace hn := wholeOf_eq_some_iff.1 hn
    unfold signOf at hn ⊢
    split at hn
    · exact .minus hn
    · exact .plus hn
    · exact .unsigned hn
  · rintro (h | h | h)
    · rw [signOf_numeral h, wholeOf_eq_some_iff.2 h]
      rfl
    · rw [signOf, wholeOf_eq_some_iff.2 h]
      rfl
    · rw [signOf, wholeOf_eq_some_iff.2 h]
      rfl

theorem integerOf_digitsText (n : Nat) : integerOf (digitsText n) = some (n : Int) := by
  have hread := wholeOf_digitsText n
  cases hds : digitsText n with
  | nil => exact absurd hds (digitsText_ne_nil n)
  | cons c cs =>
    have hc : c.isDigit = true := isDigit_of_mem_digitsText (by rw [hds]; exact List.mem_cons_self)
    rw [hds] at hread
    rw [integerOf, signOf_cons hc]
    simp only [hread]
    rfl

theorem integerOf_minus (n : Nat) : integerOf ('-' :: digitsText n) = some (-n : Int) := by
  rw [integerOf, signOf]
  simp only [wholeOf_digitsText]
  rfl

/-- **An integer that is spelled is read back.** -/
theorem integerOf_intText (i : Int) : integerOf (intText i) = some i := by
  unfold intText
  split_ifs with h
  · rw [integerOf_minus, Int.ofNat_natAbs_of_nonpos (by omega), Int.neg_neg]
  · rw [integerOf_digitsText, Int.natAbs_of_nonneg (by omega)]

theorem mem_intText {i : Int} {c : Char} (h : c ∈ intText i) : c = '-' ∨ c.isDigit = true := by
  unfold intText at h
  split_ifs at h
  · exact (List.mem_cons.1 h).imp_right isDigit_of_mem_digitsText
  · exact .inr (isDigit_of_mem_digitsText h)

/-! ## Hexadecimal digits -/

/-- A digit has its value, in lower and in upper case. -/
theorem digitValue?_digitChar : ∀ n < 16, digitValue? 16 (Nat.digitChar n) = some n ∧
    digitValue? 16 (Nat.digitChar n).toUpper = some n := by
  decide +kernel

theorem byteOfHexadecimal?_eq {high low : Char} {b : UInt8}
    (hh : digitValue? 16 high = some (b.toNat / 16)) (hl : digitValue? 16 low = some (b.toNat % 16)) :
    byteOfHexadecimal? high low = some b := by
  have hb : 16 * (b.toNat / 16) + b.toNat % 16 = b.toNat := Nat.div_add_mod _ _
  simp only [byteOfHexadecimal?, hh, hl, Option.bind_eq_bind, Option.bind_some, Option.pure_def, hb,
    UInt8.ofNat_toNat]

theorem byteOfHexadecimal?_lower (b : UInt8) :
    byteOfHexadecimal? (Nat.digitChar (b.toNat / 16)) (Nat.digitChar (b.toNat % 16)) = some b := by
  have hb := b.toNat_lt
  exact byteOfHexadecimal?_eq (digitValue?_digitChar _ (by omega)).1
    (digitValue?_digitChar _ (by omega)).1

theorem byteOfHexadecimal?_upper (b : UInt8) :
    byteOfHexadecimal? (Nat.digitChar (b.toNat / 16)).toUpper (Nat.digitChar (b.toNat % 16)).toUpper =
      some b := by
  have hb := b.toNat_lt
  exact byteOfHexadecimal?_eq (digitValue?_digitChar _ (by omega)).2
    (digitValue?_digitChar _ (by omega)).2

theorem length_hexadecimal (bytes : List UInt8) : (hexadecimal bytes).length = 2 * bytes.length := by
  induction bytes with
  | nil => rfl
  | cons b bytes ih =>
    have hcons : (hexadecimal (b :: bytes)).length = (hexadecimal bytes).length + 2 := rfl
    rw [hcons, ih, List.length_cons, Nat.mul_succ]

/-- **Bytes in digits are read back.** -/
theorem bytesOfHexadecimal?_hexadecimal (bytes : List UInt8) :
    bytesOfHexadecimal? (hexadecimal bytes) = some bytes := by
  induction bytes with
  | nil => rfl
  | cons b bytes ih =>
    have hcons : hexadecimal (b :: bytes) = Nat.digitChar (b.toNat / 16) ::
        Nat.digitChar (b.toNat % 16) :: hexadecimal bytes := rfl
    rw [hcons, bytesOfHexadecimal?, byteOfHexadecimal?_lower, ih]
    rfl

end TableService
