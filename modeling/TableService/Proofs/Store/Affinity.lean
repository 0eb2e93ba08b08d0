/-
  What columns do to the values that they hold.

  * `Affinity.store_store`: a value that a column holds is held as it is when it is given again.
  * `Cell.order_self`, `Cell.same_comm`: a value is equal to itself, and it does not matter which of
    two values is compared with the other.
-/
import TableService.Proofs.Number.Whole
import TableService.Store.Affinity

namespace TableService.Store

/-! ## Conversions -/

namespace Cell

theorem numberOf_ofInt (i : Int) : (ofInt i).numberOf = ofInt i := by
  unfold ofInt
  split_ifs <;> rfl

/-- What is read of a text is a number, and no text. -/
theorem numberOf_of_ofNumeral? {s : String} {c : Cell} (h : ofNumeral? s = some c) :
    c.numberOf = c := by
  unfold ofNumeral? at h
  dsimp only at h
  split at h
  · obtain ⟨n, -, rfl⟩ := Option.map_eq_some_iff.1 h
    exact numberOf_ofInt _
  · split at h
    · obtain ⟨x, -, rfl⟩ := Option.map_eq_some_iff.1 h
      rfl
    · cases h

theorem numberOf_numberOf (c : Cell) : c.numberOf.numberOf = c.numberOf := by
  cases c with
  | text s =>
    cases h : ofNumeral? s with
    | none => simp only [numberOf, h, Option.getD_none]
    | some d =>
      have hd : (Cell.text s).numberOf = d := by rw [numberOf, h, Option.getD_some]
      rw [hd, numberOf_of_ofNumeral? h]
  | _ => rfl

theorem textOf_textOf (c : Cell) : c.textOf.textOf = c.textOf := by
  cases c <;> rfl

end Cell

namespace Affinity
open Cell

/-- A double is held as it is, or as the integer that it denotes. -/
theorem settle_cases (x : Double) : settle x = .real x ∨
    ∃ i, x.toInt? = some i ∧ (Int64.ofInt i).toInt = i ∧ settle x = .integer (Int64.ofInt i) := by
  unfold settle
  cases h : x.toInt? with
  | none => exact .inl rfl
  | some i =>
    by_cases hi : -0x8000000000000000 < i ∧ i < 0x7fffffffffffffff
    · exact .inr ⟨i, rfl, Int64.toInt_ofInt_of_le (by omega) (by omega), if_pos hi⟩
    · exact .inl (if_neg hi)

theorem whole_whole (c : Cell) : whole (whole c) = whole c := by
  cases c with
  | real x =>
    rcases settle_cases x with h | ⟨i, -, -, h⟩
    · simp only [whole, h]
    · simp only [whole, h]
  | _ => rfl

theorem numberOf_whole {c : Cell} (h : c.numberOf = c) : (whole c).numberOf = whole c := by
  cases c with
  | real x => rcases settle_cases x with h | ⟨i, -, -, h⟩ <;> rw [whole, h] <;> rfl
  | _ => exact h

theorem numberOf_fractional {c : Cell} (h : c.numberOf = c) :
    (fractional c).numberOf = fractional c := by
  cases c with
  | integer i => rfl
  | _ => exact h

/-- An integer as a double is held as this double. -/
theorem fractional_settle_ofInt (i : Int64) :
    fractional (settle (Double.ofInt i.toInt)) = .real (Double.ofInt i.toInt) := by
  rcases settle_cases (Double.ofInt i.toInt) with h | ⟨j, hj, hsame, h⟩
  · rw [h]
    rfl
  · have hlower := i.le_toInt
    have hupper := i.toInt_lt
    have hlog : i.toInt.natAbs.log2 < 1000 := by
      by_cases hzero : i.toInt.natAbs = 0
      · rw [hzero]
        decide
      · refine Nat.lt_trans ((Nat.log2_lt hzero).2 ?_) (by decide : 64 < 1000)
        omega
    rw [h, fractional, hsame, Double.ofInt_idem hlog hj]

/-- **A value that a column holds is held as it is.** -/
theorem store_store (a : Affinity) (c : Cell) : a.store (a.store c) = a.store c := by
  have hnumber := numberOf_whole (numberOf_numberOf c)
  cases a with
  | text => exact textOf_textOf c
  | numeric => rw [store, store, hnumber, whole_whole]
  | blob => rfl
  | real =>
    rw [store, store, numberOf_fractional hnumber]
    cases hw : whole c.numberOf with
    | integer i => exact fractional_settle_ofInt i
    | real x =>
      have hx : whole (.real x) = .real x := by rw [← hw, whole_whole]
      exact congrArg fractional hx
    | null | text s | blob bytes => rfl

end Affinity

/-! ## Comparison -/

namespace Cell

theorem compare_swap (x y : Double) : x.compare y = (y.compare x).swap := by
  unfold Double.compare
  cases x.value with
  | finite s m e =>
    cases y.value with
    | finite t k g => exact @Std.OrientedCmp.eq_swap Int compare _ _ _
    | infinite t => cases t <;> rfl
    | nan => rfl
  | infinite s =>
    cases y.value with
    | infinite t => cases s <;> cases t <;> rfl
    | finite t k g => cases s <;> rfl
    | nan => rfl
  | nan => cases y.value <;> rfl

theorem order_swap (a b : Cell) : a.order b = (b.order a).swap := by
  cases a with
  | integer i =>
    cases b with
    | integer j => exact @Std.OrientedCmp.eq_swap Int compare _ _ _
    | _ => rfl
  | real x =>
    cases b with
    | integer j => exact Ordering.swap_swap.symm
    | real y => exact compare_swap x y
    | _ => rfl
  | text s =>
    cases b with
    | text t => exact @Std.OrientedCmp.eq_swap String compare _ _ _
    | _ => rfl
  | blob bytes =>
    cases b with
    | blob other => exact @Std.OrientedCmp.eq_swap _ (List.compareLex compare) _ _ _
    | _ => rfl
  | null => cases b <;> rfl

/-- A value is equal to itself. -/
theorem order_self (c : Cell) : c.order c = .eq := by
  have h := order_swap c c
  cases ho : c.order c <;> rw [ho] at h <;> first | rfl | cases h

/-- It does not matter which of two values is compared with the other. -/
theorem same_comm (a b : Cell) : a.same b = b.same a := by
  have hbeq : ((b.order a).swap == .eq) = (b.order a == .eq) := by cases b.order a <;> rfl
  rw [same, same, order_swap a b, hbeq, Bool.and_comm (a != .null)]

end Cell

end TableService.Store
