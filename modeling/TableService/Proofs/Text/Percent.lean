/-
  Texts that are percent-encoded are read back.

  * `ofPercent?_percentEncoded`: what is encoded is read back if the percent sign is among what is
    encoded; `mem_percentEncoded`: the characters of an encoded text.
  * `ofPercent?_eq_empty_iff`: only the empty text encodes the empty text.
-/
import TableService.Proofs.Number.Digits
import TableService.Proofs.Text.Bytes
import TableService.Text.Percent

namespace TableService.Text

/-! ## Reading -/

theorem singleton_bytes (c : Char) : (String.singleton c).toUTF8.toList = String.utf8EncodeChar c := by
  rw [toList_toUTF8, String.singleton_eq_ofList, utf8_ofList, List.flatMap_singleton]

theorem bytesOfPercent_cons {c : Char} (h : c ≠ '%') (cs : List Char) :
    bytesOfPercent (c :: cs) = String.utf8EncodeChar c ++ bytesOfPercent cs := by
  rw [← singleton_bytes, bytesOfPercent]
  exact fun _ _ _ hc _ => h hc

/-- A text without a percent sign is read as it stands. -/
theorem ofPercent?_plain {s : String} (h : ∀ c ∈ s.toList, c ≠ '%') : ofPercent? s = some s := by
  have hbytes : ∀ cs : List Char, (∀ c ∈ cs, c ≠ '%') →
      bytesOfPercent cs = cs.flatMap String.utf8EncodeChar := by
    intro cs hcs
    induction cs with
    | nil => rfl
    | cons c cs ih =>
      rw [List.forall_mem_cons] at hcs
      rw [bytesOfPercent_cons hcs.1, ih hcs.2, List.flatMap_cons]
  rw [ofPercent?, hbytes _ h, ← utf8_eq_flatMap, fromUTF8?_utf8]

/-- The percent sign before two digits is read as their byte. -/
theorem bytesOfPercent_percentByte (b : UInt8) (cs : List Char) :
    bytesOfPercent (percentByte b ++ cs) = b :: bytesOfPercent cs := by
  have hbyte : percentByte b ++ cs = '%' :: (Nat.digitChar (b.toNat / 16)).toUpper ::
      (Nat.digitChar (b.toNat % 16)).toUpper :: cs := rfl
  rw [hbyte, bytesOfPercent]
  simp only [byteOfHexadecimal?_upper]

theorem bytesOfPercent_percentBytes (bytes : List UInt8) (cs : List Char) :
    bytesOfPercent (bytes.flatMap percentByte ++ cs) = bytes ++ bytesOfPercent cs := by
  induction bytes with
  | nil => rfl
  | cons b bytes ih =>
    rw [List.flatMap_cons, List.append_assoc, bytesOfPercent_percentByte, ih, List.cons_append]

theorem bytesOfPercent_percentEncoded {p : Char → Bool} (hp : p '%' = true) (cs : List Char) :
    bytesOfPercent (percentEncoded p cs) = cs.flatMap String.utf8EncodeChar := by
  induction cs with
  | nil => rfl
  | cons c cs ih =>
    rw [percentEncoded, List.flatMap_cons, List.flatMap_cons, ← ih]
    split_ifs with h
    · rw [singleton_bytes, bytesOfPercent_percentBytes]
      rfl
    · have hc : c ≠ '%' := by
        rintro rfl
        simp [hp] at h
      exact bytesOfPercent_cons hc _

/-- **What is percent-encoded is read back**, provided that the percent sign is encoded. -/
theorem ofPercent?_percentEncoded {p : Char → Bool} (hp : p '%' = true) (s : String) :
    ofPercent? (String.ofList (percentEncoded p s.toList)) = some s := by
  rw [ofPercent?, String.toList_ofList, bytesOfPercent_percentEncoded hp, ← utf8_eq_flatMap,
    fromUTF8?_utf8]

theorem bytesOfPercent_ne_nil {cs : List Char} (h : cs ≠ []) : bytesOfPercent cs ≠ [] := by
  cases cs with
  | nil => exact absurd rfl h
  | cons c cs =>
    unfold bytesOfPercent
    split
    · split <;> exact List.cons_ne_nil _ _
    · rw [singleton_bytes]
      exact List.append_ne_nil_of_left_ne_nil String.utf8EncodeChar_ne_nil _

/-- Only the empty text is read as the empty text. -/
theorem ofPercent?_eq_empty_iff {s : String} : ofPercent? s = some "" ↔ s = "" := by
  constructor
  · intro h
    by_contra hs
    exact bytesOfPercent_ne_nil (fun hnil => hs (String.toList_eq_nil_iff.1 hnil))
      (utf8_of_fromUTF8? h)
  · rintro rfl
    exact fromUTF8?_utf8 ""

/-! ## Characters -/

theorem mem_percentByte {b : UInt8} {c : Char} (h : c ∈ percentByte b) :
    c = '%' ∨ c.isAlphanum = true := by
  have hdigit : ∀ n < 16, (Nat.digitChar n).toUpper.isAlphanum = true := by decide +kernel
  have hb := b.toNat_lt
  rcases List.mem_cons.1 h with rfl | h
  · exact .inl rfl
  · rcases List.mem_pair.1 h with rfl | rfl
    · exact .inr (hdigit _ (by omega))
    · exact .inr (hdigit _ (by omega))

/-- The characters of an encoded text: the percent sign, letters and digits, and those that are not
to be encoded. -/
theorem mem_percentEncoded {p : Char → Bool} {cs : List Char} {c : Char}
    (h : c ∈ percentEncoded p cs) : c = '%' ∨ c.isAlphanum = true ∨ p c = false := by
  obtain ⟨d, -, h⟩ := List.mem_flatMap.1 h
  split_ifs at h with hd
  · obtain ⟨b, -, h⟩ := List.mem_flatMap.1 h
    exact (mem_percentByte h).imp_right .inl
  · obtain rfl := List.mem_singleton.1 h
    rw [Bool.not_eq_true] at hd
    simp only [Bool.or_eq_false_iff] at hd
    exact .inr (.inr hd.1.1)

end TableService.Text
