/-
  Rows that make way for others.

  * `Spared`: a row is still there while others are removed; `makeWay_spares`: where what happens to
    removed rows of a table does not lead back to it, the row for which others make way stays as it is.
  * `update_idle`: so an update that counts no row has changed nothing; `careful_run`: neither has any
    other command.
-/
import TableService.Proofs.Store.Matched

namespace TableService.Store

/-! ## The row that stays -/

/-- All rows of a table but the one with a key are removed. -/
def clearing (t : Table) (id : Int64) : Change := ⟨t.name, .remove, fun x => x.id != id⟩

/-- Rows of a table have been removed, but not this one. -/
def Spared (s : Contents) (t : Table) (e : Entry) (p : Progress) : Prop :=
  ∃ xs rows, p.store = s.after xs ∧ Underway s (clearing t e.id) t xs rows ∧ e ∈ rows

section
variable {s : Contents} {t : Table} {e new : Entry} {p p' : Progress}

/-- A spared row is in the table as it is then. -/
theorem Spared.get (h : Spared s t e p) {now : Table} (hnow : p.store.get t.name = .ok now) :
    now.entries.get? e.id = some e := by
  obtain ⟨xs, rows, hp, hunderway, hmem⟩ := h
  obtain ⟨u, hu, -, hrows⟩ := hunderway.table
  have hfound := find?_of_get hnow
  rw [hp] at hfound
  obtain rfl : now = u := Option.some.inj (hfound.symm.trans hu)
  exact Entries.mem_iff.1 (hrows.mem_iff.2 hmem)

variable (hlone : ¬LeadsBack s t.name .removed)
include hlone

/-- A row is spared by the removal of those that have unique values of what it becomes. -/
theorem Spared.perform (h : Spared s t e p) {k : UniqueKey}
    (hperform : perform (maxLevels + 1) p ⟨t.name, .remove, k.repeats (some e.id) new⟩ = .ok p') :
    Spared s t e p' := by
  obtain ⟨xs, rows, hp, hunderway, hmem⟩ := h
  obtain ⟨⟨p', n⟩, hcarry, hperform⟩ := bind_eq_ok.1 hperform
  cases hperform
  rw [carryOut_row (by rintro ⟨⟩)] at hcarry
  obtain ⟨u, hu, hturns⟩ := bind_eq_ok.1 hcarry
  obtain ⟨u', hu', -, hrows⟩ := hunderway.table
  obtain rfl : u = u' := by
    have hfound := find?_of_get hu
    rw [hp] at hfound
    exact Option.some.inj (hfound.symm.trans hu')
  have hsplit := hunderway.perm
    (hrows.symm.trans (List.filter_append_perm (k.repeats (some e.id) new) _).symm)
  have hothers : ∀ x ∈ u.entries.list.filter (k.repeats (some e.id) new),
      (clearing t e.id).picks x = true := by
    intro x hx
    have hid := (UniqueKey.repeats_iff.1 (List.mem_filter.1 hx).2).1
    simpa [clearing] using hid
  obtain ⟨-, news, ys, -, hp', hdone⟩ := turns_underway (c := clearing t e.id)
    (perform_traces s maxLevels) nofun (sameName_refl _) hlone hothers hsplit hp hturns
  refine ⟨ys, _, hp', hdone, List.mem_append_left _ (List.mem_filter.2 ⟨hrows.mem_iff.2 hmem, ?_⟩)⟩
  simp [UniqueKey.repeats]

/-- **The row for which others make way** stays as it is, where nothing leads back to its table. -/
theorem makeWay_spares (ht : s.find? t.name = some t) (he : t.entries.get? e.id = some e)
    (h : makeWay t (some e.id) new ⟨s, 0⟩ = .ok p) {now : Table}
    (hnow : p.store.get t.name = .ok now) : now.entries.get? e.id = some e := by
  have hstart : Spared s t e ⟨s, 0⟩ :=
    ⟨[], t.entries.list, rfl, ⟨nofun, trivial, t, ht, rfl, .refl _⟩, Entries.mem_iff.2 he⟩
  have hspared : Spared s t e p :=
    foldlM_keeps (fun _ _ _ _ hp hstep => hp.perform hlone hstep) hstart h
  exact hspared.get hnow

end

/-! ## Updates that count nothing -/

/-- A statement counts one row at most of one, and loses none. -/
theorem Revised.le {values : List (Place × Cell)} {t : Table} {e : Entry}
    {state state' : Progress × Nat} (h : Revised values t e state state') : state.2 ≤ state'.2 := by
  cases h with
  | passed | gone => exact Nat.le_refl _
  | assigned => exact Nat.le_succ _

/-- An update leaves rows of a table as they are unless it gives them values: no rows make way, or what
happens to those that do does not lead back to the table. -/
def Spares (s : Contents) (table : String) : Prop :=
  (∀ t ∈ s.find? table, t.displacing = []) ∨ ¬LeadsBack s table .removed

section
variable {s s' : Contents} {table : String} {t : Table} (ht : s.find? table = some t)
  (hspares : Spares s table)
include ht hspares

/-- **A row of an untouched store** is counted if anything is changed. -/
theorem Revised.idle {values : List (Place × Cell)} {e : Entry} (he : t.entries.get? e.id = some e)
    {p : Progress} (h : Revised values t e (⟨s, 0⟩, 0) (p, 0)) : p = ⟨s, 0⟩ := by
  have hself := find?_self ht
  generalize hstart : ((⟨s, 0⟩ : Progress), 0) = start at h
  generalize hend : (p, 0) = state' at h
  cases h with
  | passed =>
    cases hstart
    cases hend
    rfl
  | gone hway hnow hgone =>
    cases hstart
    cases hend
    rcases hspares with hnone | hlone
    · rw [makeWay_idle hself (by simp [hnone t ht])] at hway
      cases hway
      rfl
    · rw [leadsBack_congr (sameName_of_find? ht)] at hlone
      rw [makeWay_spares hlone hself he hway hnow] at hgone
      cases hgone
  | assigned =>
    cases hend

theorem turns_idle {c : Change} (hname : c.table = table) {values : List (Place × Cell)}
    {picked : List Entry} (hpicked : ∀ e ∈ picked, e ∈ t.entries.list) {p : Progress}
    (h : picked.foldlM (c.visit (reviseRow values)) (⟨s, 0⟩, 0) = .ok (p, 0)) : p = ⟨s, 0⟩ := by
  induction picked with
  | nil =>
    cases h
    rfl
  | cons e picked ih =>
    obtain ⟨he, hpicked⟩ := List.forall_mem_cons.1 hpicked
    rw [List.foldlM_cons] at h
    obtain ⟨⟨q, n⟩, hvisit, h⟩ := bind_eq_ok.1 h
    have hcount : n ≤ 0 := foldlM_keeps (P := fun state : Progress × Nat => n ≤ state.2)
      (fun x _ state state' hn hstep => by
        rcases Change.visit_ok hstep with rfl | ⟨_, _, -, -, hrow⟩
        · exact hn
        · exact Nat.le_trans hn (revised_of_ok hrow).le) (Nat.le_refl n) h
    obtain rfl := Nat.le_zero.1 hcount
    have hq : q = ⟨s, 0⟩ := by
      rcases Change.visit_ok hvisit with hsame | ⟨now, x, hnow, hx, hrow⟩
      · exact congrArg Prod.fst hsame
      · rw [hname] at hnow
        obtain rfl : t = now := Option.some.inj (ht.symm.trans (find?_of_get hnow))
        have hid : x.id = e.id := (Entries.get?_eq_some.1 hx).2
        exact (revised_of_ok hrow).idle ht hspares (hid ▸ hx)
    rw [hq] at h
    exact ih hpicked h

/-- **An update that counts no row has changed nothing.** -/
theorem update_idle {assignments : List (String × Cell)} {picks : Entry → Bool}
    (h : s.update table assignments picks = .ok (s', 0)) : s' = s := by
  obtain ⟨u, values, p, hu, -, -, hturns, -, rfl⟩ := update_ok h
  obtain rfl : t = u := Option.some.inj (ht.symm.trans (find?_of_get hu))
  rw [turns_idle ht hspares rfl (fun e he => List.mem_of_mem_filter he) hturns]

end

/-- **A command on the embedded database changes it only if it succeeds and counts rows**, unless rows
make way in a table that is led back to. -/
theorem careful_run {w : Logged Connection} (c : Command)
    (hspares : ∀ q s, c = .update q → w.state = .open s → Spares s q.table.name) :
    Careful (database.run c) w := by
  cases c with
  | insert c => exact careful_changing fun _ _ h => absurd h Nat.one_ne_zero
  | select c =>
    left
    have hselect := select_state c w
    rw [Database.run, Action.outcome_bind]
    rcases h : (database.select c).outcome w with ⟨e | rows, w'⟩ <;> rw [h] at hselect
    · exact congrArg Logged.state hselect
    · exact congrArg Logged.state hselect
  | update c =>
    refine careful_changing ?_
    rintro s s' _ hs h rfl
    obtain ⟨t, ht, -⟩ := bind_eq_ok.1 h
    exact update_idle (find?_of_get ht) (hspares c s rfl hs) h
  | delete c =>
    refine careful_changing ?_
    rintro s s' _ - h rfl
    exact delete_idle h

end TableService.Store
