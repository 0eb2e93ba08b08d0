/-
  When the constraints of a table admit a row.

  * `Table.Clash`: two rows have the same values where the values of rows have to differ.
  * `Table.checkRow_ok_iff`: a row is admitted if no value is missing and no other row has its key or
    clashes with it.
  * `Table.Firm`: no statement goes on without a row of the table, and no row makes way for another; so
    what a row breaks makes a statement fail, `Table.Firm.fails`.
-/
import TableService.Proofs.Results
import TableService.Proofs.Store.Affinity
import TableService.Store.Constraint

namespace TableService.Store

theorem refuseIf_eq_ok {condition : Bool} {f : Fault} :
    refuseIf condition f = .ok () ↔ condition = false := by
  cases condition <;> simp [refuseIf]

theorem UniqueKey.repeats_iff {k : UniqueKey} {own : Option Int64} {e x : Entry} :
    k.repeats own e x = true ↔
      some x.id ≠ own ∧ ∀ p ∈ k.places, (x.get p).same (e.get p) = true := by
  simp [UniqueKey.repeats]

namespace Table

/-- Two rows have the same values where the values of rows have to differ. -/
def Clash (t : Table) (x e : Entry) : Prop :=
  ∃ k ∈ t.unique, ∀ p ∈ k.places, (x.get p).same (e.get p) = true

variable {t : Table} {e x : Entry}

theorem Clash.symm (h : t.Clash x e) : t.Clash e x := by
  obtain ⟨k, hk, hsame⟩ := h
  exact ⟨k, hk, fun p hp => (Cell.same_comm ..).trans (hsame p hp)⟩

/-! ## Breaches -/

section
variable {isSet : Place → Bool} {own : Option Int64} {b : Breach}

theorem mem_missing : b ∈ t.missing isSet e ↔ ∃ c i r, t.columns[i]? = some c ∧
    c.required = some r ∧ isSet (.cell i) = true ∧ e.get (.cell i) = .null ∧
    b = ⟨if r = .ignore then .ignore else .abort, .notNull t.name c.name⟩ := by
  simp only [missing, List.mem_append, List.mem_filterMap, Prod.exists, List.mem_zipIdx_iff_getElem?]
  constructor
  · rintro (⟨c, i, hc, hb⟩ | ⟨c, i, hc, hb⟩) <;>
    · split_ifs at hb with hlacks
      obtain ⟨r, hr, rfl⟩ := Option.map_eq_some_iff.1 hb
      simp only [Bool.and_eq_true, beq_iff_eq] at hlacks
      exact ⟨c, i, r, hc, hr, hlacks.1.1, hlacks.1.2, rfl⟩
  · rintro ⟨c, i, r, hc, hr, hset, hnull, rfl⟩
    -- in which of the two rounds it is looked at
    cases hfilled : (decide (c.required = some .replace) && c.initial.isSome)
    · refine .inl ⟨c, i, hc, ?_⟩
      rw [hset, hnull, hfilled, hr]
      rfl
    · refine .inr ⟨c, i, hc, ?_⟩
      rw [hset, hnull, hfilled, hr]
      rfl

theorem missing_eq_nil : t.missing isSet e = [] ↔ ∀ c i, t.columns[i]? = some c →
    c.required.isSome = true → isSet (.cell i) = true → e.get (.cell i) ≠ .null := by
  rw [List.eq_nil_iff_forall_not_mem]
  constructor
  · intro h c i hc hrequired hset hnull
    obtain ⟨r, hr⟩ := Option.isSome_iff_exists.1 hrequired
    exact h _ (mem_missing.2 ⟨c, i, r, hc, hr, hset, hnull, rfl⟩)
  · intro h b hb
    obtain ⟨c, i, r, hc, hr, hset, hnull, -⟩ := mem_missing.1 hb
    exact h c i hc (hr ▸ rfl) hset hnull

theorem taken_eq_nil : t.taken own e = [] ↔ some e.id ≠ own → t.entries.get? e.id = none := by
  simp [taken]

theorem mem_repeated : b ∈ t.repeated own e ↔ ∃ k ∈ t.unique,
    (∃ x ∈ t.entries.list, k.repeats own e x = true) ∧
    b = ⟨k.resolution.getD .abort, .unique t.name (k.places.map t.nameAt)⟩ := by
  simp only [repeated, List.mem_filterMap, ← List.any_eq_true]
  refine exists_congr fun k => and_congr_right fun _ => ?_
  split_ifs with h
  · simp [h, eq_comm]
  · simp [h]

theorem repeated_eq_nil : t.repeated own e = [] ↔
    ∀ x ∈ t.entries.list, some x.id ≠ own → ¬ t.Clash x e := by
  rw [List.eq_nil_iff_forall_not_mem]
  constructor
  · rintro h x hx hown ⟨k, hk, hsame⟩
    exact h _ (mem_repeated.2 ⟨k, hk, ⟨x, hx, UniqueKey.repeats_iff.2 ⟨hown, hsame⟩⟩, rfl⟩)
  · intro h b hb
    obtain ⟨k, hk, ⟨x, hx, hrepeats⟩, -⟩ := mem_repeated.1 hb
    obtain ⟨hown, hsame⟩ := UniqueKey.repeats_iff.1 hrepeats
    exact h x hx hown ⟨k, hk, hsame⟩

/-- **The constraints of a table admit a row** exactly if no value is missing among the columns that
are set, and no other row has its key or clashes with it. -/
theorem breaches_eq_nil : t.breaches isSet own e = [] ↔
    (∀ c i, t.columns[i]? = some c → c.required.isSome = true → isSet (.cell i) = true →
      e.get (.cell i) ≠ .null) ∧
    (some e.id ≠ own → t.entries.get? e.id = none) ∧
    ∀ x ∈ t.entries.list, some x.id ≠ own → ¬ t.Clash x e := by
  rw [breaches, List.append_eq_nil_iff, List.append_eq_nil_iff, missing_eq_nil, taken_eq_nil,
    repeated_eq_nil, and_assoc]

theorem checkRow_eq_ok : t.checkRow isSet own e = .ok () ↔ t.breaches isSet own e = [] := by
  unfold checkRow
  split <;> simp_all

theorem checkRow_ok_iff : t.checkRow isSet own e = .ok () ↔
    (∀ c i, t.columns[i]? = some c → c.required.isSome = true → isSet (.cell i) = true →
      e.get (.cell i) ≠ .null) ∧
    (some e.id ≠ own → t.entries.get? e.id = none) ∧
    ∀ x ∈ t.entries.list, some x.id ≠ own → ¬ t.Clash x e :=
  checkRow_eq_ok.trans breaches_eq_nil

end

/-! ## Conflicts -/

/-- No statement goes on without a row of the table, and no row of it makes way for another. -/
def Firm (t : Table) : Prop :=
  (∀ c ∈ t.columns, c.required ≠ some .ignore) ∧
    ∀ k ∈ t.unique, k.resolution ≠ some .ignore ∧ k.resolution ≠ some .replace

instance (t : Table) : Decidable t.Firm := inferInstanceAs (Decidable (_ ∧ _))

theorem displacing_eq_nil : t.displacing = [] ↔ ∀ k ∈ t.unique, k.resolution ≠ some .replace := by
  simp [displacing]

namespace Firm
variable (h : t.Firm) {isSet : Place → Bool} {own : Option Int64}
include h

theorem displacing : t.displacing = [] := displacing_eq_nil.2 fun k hk => (h.2 k hk).2

/-- What a row breaks makes a statement fail. -/
theorem fails {b : Breach} (hb : b ∈ t.breaches isSet own e) :
    b.resolution ≠ .ignore ∧ b.resolution ≠ .replace := by
  rcases List.mem_append.1 hb with hb | hb
  · rcases List.mem_append.1 hb with hb | hb
    · obtain ⟨c, i, r, hc, hr, -, -, rfl⟩ := mem_missing.1 hb
      have hr : r ≠ .ignore := fun hr' => h.1 c (List.mem_of_getElem? hc) (hr'.symm ▸ hr)
      simp [hr]
    · unfold taken at hb
      split_ifs at hb
      · rw [List.mem_singleton.1 hb]
        exact ⟨nofun, nofun⟩
      · cases hb
  · obtain ⟨k, hk, -, rfl⟩ := mem_repeated.1 hb
    obtain ⟨hignore, hreplace⟩ := h.2 k hk
    cases hr : k.resolution with
    | none => exact ⟨nofun, nofun⟩
    | some r =>
      rw [hr] at hignore hreplace
      exact ⟨fun hr => hignore (congrArg some hr), fun hr => hreplace (congrArg some hr)⟩

end Firm

end Table

end TableService.Store
