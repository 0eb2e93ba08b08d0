/-
  Parameters that are read again.

  * `Json.carried`: what a value is after it was a parameter.  Truth values are held as numbers, and
    lists and objects as their texts, which are read as the values again (`Json.parse_render`).
  * `MySqlValue.json_ofJson`, `Cell.json_ofJson`: both databases carry values alike, but whole numbers
    from `2 ^ 63` on, for which the embedded one has only doubles (`Cell.json_large`).
-/
import TableService.Proofs.Json.RoundTrip
import TableService.Proofs.Number.Whole
import TableService.Proofs.Text.Bytes
import TableService.Server.MySqlValue
import TableService.Store.Cell

namespace TableService

open Store

namespace Json

/-- What a value is after it was a parameter. -/
def carried : Json → Json
  | .bool b => .ofInt64 (if b then 1 else 0)
  | .array items => .string (Json.array items).render
  | .object members => .string (Json.object members).render
  | v => v

/-- A whole number of 64 bits with sign is kept as such. -/
theorem ofInt64_ofInt {i : Int} (lower : -0x8000000000000000 ≤ i)
    (upper : i < 0x10000000000000000) (h : i < 0x8000000000000000) :
    Json.ofInt64 (Int64.ofInt i) = .number (.int i lower upper) := by
  have hi : (Int64.ofInt i).toInt = i := Int64.toInt_ofInt_of_le lower h
  simp only [Json.ofInt64, hi]

theorem ofDouble_finite {x : Double} (h : x.isFinite = true) :
    Json.ofDouble x = .number (.double x h) := dif_pos h

end Json

/-! ## A server -/

theorem MySqlValue.json_ofText (s : String) : (MySqlValue.ofText s).json = .string s := by
  rw [MySqlValue.ofText, MySqlValue.json, Text.toList_toUTF8, Text.fromUTF8?_utf8]

/-- **A server gives back what it was given.** -/
theorem MySqlValue.json_ofJson : ∀ v : Json, (MySqlValue.ofJson v).json = v.carried
  | .null | .bool _ => rfl
  | .number (.int i lower upper) => by
    rw [MySqlValue.ofJson, MySqlValue.ofInt]
    split_ifs with h
    · exact Json.ofInt64_ofInt lower upper h
    · have hn : i.toNat.toUInt64.toNat = i.toNat :=
        UInt64.toNat_ofNat_of_lt' (by change i.toNat < 2 ^ 64; omega)
      have hi : (i.toNat.toUInt64.toNat : Int) = i := by
        rw [hn]
        omega
      simp only [MySqlValue.json, hi, Json.carried]
  | .number (.double x h) => Json.ofDouble_finite h
  | .string s => MySqlValue.json_ofText s
  | .array items => MySqlValue.json_ofText _
  | .object members => MySqlValue.json_ofText _

/-! ## The embedded database -/

namespace Store.Cell

/-- **The embedded database gives back what it was given**, unless that is a whole number for which
64 bits with sign do not suffice. -/
theorem json_ofJson : ∀ {v : Json},
    (∀ i lower upper, v = .number (.int i lower upper) → i < 0x8000000000000000) →
      (Cell.ofJson v).json = v.carried
  | .null, _ | .bool _, _ | .string _, _ | .array _, _ | .object _, _ => rfl
  | .number (.double _ h), _ => Json.ofDouble_finite h
  | .number (.int i lower upper), hv => by
    have h := hv i lower upper rfl
    rw [Cell.ofJson, Cell.ofInt, if_pos ⟨lower, h⟩]
    exact Json.ofInt64_ofInt lower upper h

/-- **A larger whole number becomes a double**, which is a multiple of 2048 and differs from it by
1024 at most. -/
theorem json_large {i : Int} (lower : -0x8000000000000000 ≤ i) (upper : i < 0x10000000000000000)
    (h : 0x8000000000000000 ≤ i) : ∃ x j, ∃ finite : x.isFinite = true,
      (Cell.ofJson (.number (.int i lower upper))).json = .number (.double x finite) ∧
        x.toInt? = some j ∧ 2048 ∣ j ∧ (j - i).natAbs ≤ 1024 := by
  obtain ⟨j, hj, hdvd, hnear⟩ := Double.toInt?_ofInt h upper
  obtain ⟨s, m, e, hv, -, -⟩ := Double.finite_of_toInt? hj
  have hfinite : (Double.ofInt i).isFinite = true := by
    rw [Double.isFinite, hv]
  refine ⟨Double.ofInt i, j, hfinite, ?_, hj, hdvd, hnear⟩
  rw [Cell.ofJson, Cell.ofInt, if_neg (by omega)]
  exact Json.ofDouble_finite hfinite

end Store.Cell

/-! ## Both -/

/-- A list or an object is carried as its text, which is read as the value again. -/
theorem Json.parse_carried {v : Json} {text : String} (h : v.carried = .string text)
    (hv : v ≠ .string text) (legible : v.Legible maxDepth) : Json.parse text = .ok v := by
  cases v with
  | array items =>
    cases h
    exact Json.parse_render legible
  | object members =>
    cases h
    exact Json.parse_render legible
  | string s => exact absurd h hv
  | null | bool b | number n => cases h

/-- **Both databases carry parameters alike**, but for whole numbers from `2 ^ 63` on.  A server gives
back every value as it is carried, and so does the embedded database unless the value is such a number;
that it rounds to a double, by 1024 at most.  The text that a list or an object is carried as is read as
the value again, if a reader can follow it. -/
theorem parameters_carried (v : Json) :
    (MySqlValue.ofJson v).json = v.carried ∧
    ((∀ i lower upper, v = .number (.int i lower upper) → i < 0x8000000000000000) →
      (Cell.ofJson v).json = v.carried) ∧
    (∀ i lower upper, v = .number (.int i lower upper) → 0x8000000000000000 ≤ i →
      ∃ x j, ∃ finite : x.isFinite = true, (Cell.ofJson v).json = .number (.double x finite) ∧
        x.toInt? = some j ∧ 2048 ∣ j ∧ (j - i).natAbs ≤ 1024) ∧
    (∀ text, v.carried = .string text → v ≠ .string text → v.Legible maxDepth →
      Json.parse text = .ok v) := by
  refine ⟨MySqlValue.json_ofJson v, Cell.json_ofJson, ?_, fun _ => Json.parse_carried⟩
  rintro i lower upper rfl h
  exact Cell.json_large lower upper h

/-- The largest whole number that is kept as such. -/
def largest : Json := .number (.int 0xffffffffffffffff (by decide) (by decide))

/-- A list with it, which is not that of the embedded database. -/
def largestListed : Json := .array [largest, .bool true, .string "a"]

/-- The list is carried as its text by both, and read again; the number in it would be rounded. -/
theorem largest_carried :
    (MySqlValue.ofJson largestListed).json = .string "[18446744073709551615,true,\"a\"]" ∧
    (Cell.ofJson largestListed).json = .string "[18446744073709551615,true,\"a\"]" ∧
    Json.parse "[18446744073709551615,true,\"a\"]" = .ok largestListed ∧
    (MySqlValue.ofJson largest).json = largest ∧
    ∃ x, ∃ finite : x.isFinite = true, (Cell.ofJson largest).json = .number (.double x finite) := by
  obtain ⟨hserver, hembedded, -, hparse⟩ := parameters_carried largestListed
  obtain ⟨hlargest, -, hrounded, -⟩ := parameters_carried largest
  have hlegible : largestListed.Legible maxDepth := by
    refine .array fun v hv => ?_
    simp only [List.mem_cons, List.not_mem_nil, or_false] at hv
    rcases hv with rfl | rfl | rfl
    · exact .number (readsBack_int _ _)
    · exact .bool true
    · exact .string "a"
  obtain ⟨x, -, finite, hx, -⟩ := hrounded _ _ _ rfl (by decide)
  have hno_number : ∀ i lower upper, largestListed = .number (.int i lower upper) →
      i < 0x8000000000000000 := by
    rintro i lower upper ⟨⟩
  exact ⟨hserver, hembedded hno_number, hparse _ rfl (by rintro ⟨⟩) hlegible, hlargest, x, finite,
    hx⟩

/-- The embedded database does not give back the largest whole number, as a server does. -/
theorem largest_rounded : (Cell.ofJson largest).json ≠ largest ∧
    (Cell.ofJson largest).json ≠ (MySqlValue.ofJson largest).json := by
  obtain ⟨x, -, finite, hx, -⟩ := Cell.json_large (i := 0xffffffffffffffff) (by decide) (by decide)
    (by decide)
  have hne : (Cell.ofJson largest).json ≠ largest := by
    intro h
    cases hx.symm.trans h
  exact ⟨hne, (MySqlValue.json_ofJson largest).symm ▸ hne⟩

end TableService
