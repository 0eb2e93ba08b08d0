/-
  Texts and their bytes.

  * `toList_toUTF8`, `fromUTF8?_utf8`: a text has the bytes `utf8`, and is the text of these;
    `utf8_of_fromUTF8?`: bytes that are a text are its own.
-/
import TableService.Proofs.Text.ByteOrder

namespace TableService.Text

theorem loop_toList (bs : ByteArray) (i : Nat) (l : List UInt8) :
    ByteArray.toList.loop bs i l = l.reverse ++ bs.data.toList.drop i := by
  induction i, l using ByteArray.toList.loop.induct bs with
  | case1 i l hi ih =>
    have hlength : i < bs.data.toList.length := by simpa using hi
    have hget : bs.get! i = bs.data.toList[i] := by
      simp only [ByteArray.get!, Array.getElem_toList]
      exact getElem!_pos bs.data i hi
    rw [ByteArray.toList.loop, if_pos hi, ih, List.drop_eq_getElem_cons hlength, hget,
      List.reverse_cons, List.append_assoc, List.singleton_append]
  | case2 i l hi =>
    have hlength : bs.data.toList.length ≤ i := by simpa using hi
    rw [ByteArray.toList.loop, if_neg hi, List.drop_eq_nil_of_le hlength, List.append_nil]

/-- The bytes of an array, as a list. -/
theorem toList_eq (bs : ByteArray) : bs.toList = bs.data.toList := by
  rw [ByteArray.toList, loop_toList]
  rfl

theorem toList_toUTF8 (s : String) : s.toUTF8.toList = utf8 s := toList_eq _

@[simp] theorem utf8_ofList (cs : List Char) :
    utf8 (String.ofList cs) = cs.flatMap String.utf8EncodeChar := by
  rw [utf8_eq_flatMap, String.toList_ofList]

/-- **A text is the text of its bytes.** -/
theorem fromUTF8?_utf8 (s : String) : String.fromUTF8? ⟨(utf8 s).toArray⟩ = some s := by
  have hbytes : (⟨(utf8 s).toArray⟩ : ByteArray) = s.toByteArray := by
    rw [utf8, Array.toArray_toList]
    rfl
  rw [hbytes, String.fromUTF8?, dif_pos s.isValidUTF8]
  rfl

/-- Bytes that are a text are its own. -/
theorem utf8_of_fromUTF8? {bytes : List UInt8} {s : String}
    (h : String.fromUTF8? ⟨bytes.toArray⟩ = some s) : bytes = utf8 s := by
  unfold String.fromUTF8? at h
  split_ifs at h
  cases h
  rfl

end TableService.Text
