/-
  The order of texts is that of their bytes.

  * `utf8_lt`: if a text is less than another, then so are its bytes in UTF-8.
-/
import Mathlib.Data.List.Basic
import Mathlib.Tactic.SplitIfs

namespace TableService.Text

/-- The bytes of a text in UTF-8. -/
def utf8 (s : String) : List UInt8 := s.toUTF8.data.toList

theorem utf8_eq_flatMap (s : String) : utf8 s = s.toList.flatMap String.utf8EncodeChar := by
  rw [utf8, String.toUTF8_eq_toByteArray, ← String.utf8Encode_toList, List.utf8Encode]
  simp

/-- The parts of a number that the four bytes of a character hold, first to last. -/
theorem parts_lt {m n : Nat} (h : m < n) : m / 262144 < n / 262144 ∨
    m / 262144 = n / 262144 ∧ (m / 4096 % 64 < n / 4096 % 64 ∨
      m / 4096 % 64 = n / 4096 % 64 ∧ (m / 64 % 64 < n / 64 % 64 ∨
        m / 64 % 64 = n / 64 % 64 ∧ m % 64 < n % 64)) := by
  omega

/-- The bytes of a character decide, whatever follows them. -/
theorem utf8EncodeChar_lt {c d : Char} (h : c < d) (s t : List UInt8) :
    String.utf8EncodeChar c ++ s < String.utf8EncodeChar d ++ t := by
  have hcd : c.val.toNat < d.val.toNat := h
  have hd : d.val.toNat < 0x110000 := by
    rcases d.valid with hd | hd <;> omega
  unfold String.utf8EncodeChar
  simp only []
  generalize c.val.toNat = m at *
  generalize d.val.toNat = n at *
  split_ifs <;>
    simp only [List.cons_append, List.nil_append, List.cons_lt_cons_iff, UInt8.lt_iff_toNat_lt,
      ← UInt8.toNat_inj, UInt8.toNat_ofNat']
  -- the case of four bytes on both sides is the last, and too much for omega by itself
  rotate_right
  · have := parts_lt hcd
    simp (disch := omega) only [Nat.mod_eq_of_lt]
    omega
  all_goals omega

theorem flatMap_utf8EncodeChar_lt : ∀ {l m : List Char}, l < m →
    l.flatMap String.utf8EncodeChar < m.flatMap String.utf8EncodeChar
  | [], [], h => absurd h (List.lt_irrefl _)
  | [], d :: m, _ => by
    have : String.utf8EncodeChar d ≠ [] := String.utf8EncodeChar_ne_nil
    rw [List.flatMap_nil, List.flatMap_cons]
    cases hd : String.utf8EncodeChar d with
    | nil => exact absurd hd this
    | cons b bs => exact List.nil_lt_cons _ _
  | c :: l, [], h => absurd h (List.not_lt_nil _)
  | c :: l, d :: m, h => by
    rw [List.flatMap_cons, List.flatMap_cons]
    rcases List.cons_lt_cons_iff.1 h with hcd | ⟨rfl, hlm⟩
    · exact utf8EncodeChar_lt hcd _ _
    · exact List.append_left_lt (flatMap_utf8EncodeChar_lt hlm)

/-- **The order of texts is that of their bytes.** -/
theorem utf8_lt {s t : String} (h : s < t) : utf8 s < utf8 t := by
  rw [utf8_eq_flatMap, utf8_eq_flatMap]
  exact flatMap_utf8EncodeChar_lt (String.lt_iff.1 h)

end TableService.Text
