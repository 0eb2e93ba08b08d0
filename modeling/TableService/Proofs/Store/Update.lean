/-
  Updates as changes.

  * `revise_plain`: where no row makes way, a statement gives a row its values or goes on without it.
  * `update_firm`: so an update of a table is a change of the rows that it picks, if it goes on without
    none of them; `update_single` is the same for one row.
-/
import TableService.Proofs.Store.Sound

namespace TableService.Store

/-- Missing values become initial ones in the same columns. -/
theorem Table.places_filled (t : Table) (values : List (Place × Cell)) :
    (t.filled values).map Prod.fst = values.map Prod.fst := by
  rw [filled, List.map_map]
  rfl

/-- A removal that picks no row changes nothing. -/
theorem carryOut_none {perform : Progress → Change → Except Fault Progress} {c : Change}
    (hdeed : c.deed ≠ .refuse) {p : Progress} {t : Table} (ht : p.store.find? c.table = some t)
    (hpicked : t.entries.list.filter c.picks = []) : c.carryOut perform p = .ok (p, 0) := by
  rw [carryOut_row hdeed]
  refine bind_eq_ok.2 ⟨t, by rw [Contents.get, ht], ?_⟩
  rw [hpicked]
  rfl

/-- **Where no row has unique values of the new one**, none makes way. -/
theorem makeWay_idle {t : Table} {own : Option Int64} {e : Entry} {p : Progress}
    (ht : p.store.find? t.name = some t)
    (h : ∀ k ∈ t.displacing, ∀ x ∈ t.entries.list, k.repeats own e x = false) :
    makeWay t own e p = .ok p := by
  unfold makeWay
  generalize t.displacing = keys at h
  induction keys with
  | nil => rfl
  | cons k keys ih =>
    obtain ⟨hk, hkeys⟩ := List.forall_mem_cons.1 h
    have hnone : t.entries.list.filter (k.repeats own e) = [] :=
      List.filter_eq_nil_iff.2 fun x hx => by simp [hk x hx]
    rw [List.foldlM_cons]
    refine bind_eq_ok.2 ⟨p, ?_, ih hkeys⟩
    exact bind_eq_ok.2 ⟨(p, 0), carryOut_none (by rintro ⟨⟩) ht hnone, rfl⟩

/-- **A statement that gives a row new values** gives it these or goes on without it, if no row makes
way. -/
theorem revise_plain {now : Table} (hplain : now.displacing = []) {state state' : Progress × Nat}
    (hnow : state.1.store.find? now.name = some now) {e : Entry}
    (he : now.entries.get? e.id = some e) {values : List (Place × Cell)}
    (h : reviseRow values now state e = .ok state') : ¬ now.Firm ∧ state' = state ∨ ∃ p,
      assignRow (perform maxLevels) now (now.filled values) state.1 e = .ok p ∧
      state' = (p, state.2 + 1) := by
  have hway {own : Option Int64} {new : Entry} : makeWay now own new state.1 = .ok state.1 :=
    makeWay_idle hnow (by simp [hplain])
  have hself {u : Table} (hu : state.1.store.get now.name = .ok u) : now = u :=
    Option.some.inj (hnow.symm.trans (find?_of_get hu))
  cases revised_of_ok h with
  | passed _ hb hignore =>
    exact .inl ⟨fun hfirm => (hfirm.fails (List.mem_of_find?_eq_some hb)).1 hignore, rfl⟩
  | gone hp hu hgone =>
    cases hway.symm.trans hp
    rw [← hself hu, he] at hgone
    cases hgone
  | assigned hp hu _ hrow =>
    cases hway.symm.trans hp
    rw [← hself hu] at hrow
    exact .inr ⟨_, hrow, rfl⟩

/-- A change as wide as an update is checked like it, and ends like it. -/
theorem run_of_turns {s : Contents} {table : String} {t : Table} (ht : s.get table = .ok t)
    {values : List (Place × Cell)} {picks : Entry → Bool} {p : Progress} {n : Nat}
    (hkeys : (reach s (t, (Deed.assign values).scope)).forM (Table.checkKeys s) = .ok ())
    (hturns : (t.entries.list.filter picks).foldlM
      (Change.turn ⟨table, .assign (t.filled values), picks⟩
        fun u => assignRow (perform maxLevels) u (t.filled values)) (⟨s, 0⟩, 0) = .ok (p, n))
    (hbroken : refuseIf (0 < p.broken) .foreignKey = .ok ()) :
    s.run ⟨table, .assign (t.filled values), picks⟩ = .ok (p.store, n) := by
  have hscope : (Deed.assign (t.filled values)).scope = (Deed.assign values).scope :=
    congrArg Scope.columns (t.places_filled _)
  have hcarry : Change.carryOut (perform maxLevels) ⟨table, .assign (t.filled values), picks⟩
      ⟨s, 0⟩ = .ok (p, n) := bind_eq_ok.2 ⟨t, ht, hturns⟩
  unfold Contents.run
  rw [hscope]
  exact bind_eq_ok.2 ⟨t, ht, bind_eq_ok.2 ⟨(), hkeys, bind_eq_ok.2 ⟨(p, n), hcarry,
    bind_eq_ok.2 ⟨(), hbroken, rfl⟩⟩⟩⟩

/-- A visit of a row by an update is a turn of a change, if it never goes on without a row and no row
makes way. -/
theorem turn_of_visit {s : Contents} {table : String} {t : Table} (ht : s.find? table = some t)
    (hfirm : t.Firm) {values : List (Place × Cell)} {picks : Entry → Bool} {e : Entry}
    {state state' : Progress × Nat}
    (hlayout : state.1.store.tables.map Table.layout = s.tables.map Table.layout)
    (h : Change.visit ⟨table, .assign values, picks⟩ (reviseRow values) state e = .ok state') :
    Change.turn ⟨table, .assign (t.filled values), picks⟩
      (fun u => assignRow (perform maxLevels) u (t.filled values)) state e = .ok state' := by
  obtain ⟨now, hnow, h⟩ := bind_eq_ok.1 h
  refine bind_eq_ok.2 ⟨now, hnow, ?_⟩
  cases hget : now.entries.get? e.id with
  | none =>
    rw [hget] at h
    exact h
  | some x =>
    rw [hget] at h
    -- the columns and constraints of the table are what they were
    obtain ⟨t', ht', hsame⟩ := find?_layout hlayout (find?_of_get hnow)
    obtain rfl : t = t' := Option.some.inj (ht.symm.trans ht')
    have hfirm : now.Firm := by
      rwa [← Table.eq_of_layout hsame Table.Firm fun _ => rfl]
    have hid : x.id = e.id := (Entries.get?_eq_some.1 hget).2
    obtain ⟨hnot, -⟩ | ⟨p', hrow, rfl⟩ :=
      revise_plain hfirm.displacing (find?_self (find?_of_get hnow)) (hid ▸ hget) h
    · exact absurd hfirm hnot
    · rw [← Table.eq_of_layout hsame Table.filled fun _ => rfl] at hrow
      exact bind_eq_ok.2 ⟨p', hrow, rfl⟩

/-- **An update is a change of the rows that it picks**, if it never goes on without a row and no row
makes way. -/
theorem update_firm {s s' : Contents} {table : String} {assignments : List (String × Cell)}
    {picks : Entry → Bool} {n : Nat} {t : Table} (ht : s.find? table = some t) (hfirm : t.Firm)
    (h : s.update table assignments picks = .ok (s', n)) :
    ∃ values, t.located .noColumn assignments = .ok values ∧
      s.run ⟨table, .assign (t.filled values.reverse), picks⟩ = .ok (s', n) := by
  obtain ⟨u, values, p, hu, hvalues, hkeys, hturns, hbroken, rfl⟩ := update_ok h
  obtain rfl : t = u := Option.some.inj (ht.symm.trans (find?_of_get hu))
  refine ⟨values, hvalues, run_of_turns hu hkeys ?_ hbroken⟩
  refine foldlM_refines (P := fun x => x.1.store.tables.map Table.layout =
    s.tables.map Table.layout) ?_ rfl hturns
  intro e state state' hlayout hvisit
  refine ⟨?_, turn_of_visit ht hfirm hlayout hvisit⟩
  rcases Change.visit_ok hvisit with rfl | ⟨now, x, -, -, hrow⟩
  · exact hlayout
  · exact revise_keeps (kept_layout s) hlayout hrow

/-- **An update that picks one row** changes nothing and counts none, or is a change of this row, if no
row makes way. -/
theorem update_single {s s' : Contents} {table : String} {assignments : List (String × Cell)}
    {picks : Entry → Bool} {n : Nat} {t : Table} (ht : s.find? table = some t)
    (hplain : t.displacing = []) {e : Entry} (hpicked : t.entries.list.filter picks = [e])
    (h : s.update table assignments picks = .ok (s', n)) :
    n = 0 ∧ s' = s ∨ ∃ values, t.located .noColumn assignments = .ok values ∧
      s.run ⟨table, .assign (t.filled values.reverse), picks⟩ = .ok (s', n) := by
  obtain ⟨u, values, p, hu, hvalues, hkeys, hturns, hbroken, rfl⟩ := update_ok h
  obtain rfl : t = u := Option.some.inj (ht.symm.trans (find?_of_get hu))
  have hget : t.entries.get? e.id = some e := by
    refine Entries.get?_eq_some.2 ⟨List.mem_of_mem_filter (p := picks) ?_, rfl⟩
    rw [hpicked]
    exact List.mem_cons_self
  rw [hpicked, List.foldlM_cons] at hturns
  obtain ⟨state, hvisit, hturns⟩ := bind_eq_ok.1 hturns
  cases hturns
  obtain ⟨now, hnow, hvisit⟩ := bind_eq_ok.1 hvisit
  obtain rfl : t = now := Option.some.inj (ht.symm.trans (find?_of_get hnow))
  rw [hget] at hvisit
  obtain ⟨-, hsame⟩ | ⟨p', hrow, hcount⟩ := revise_plain hplain (find?_self ht) hget hvisit
  · cases hsame
    exact .inl ⟨rfl, rfl⟩
  · cases hcount
    refine .inr ⟨values, hvalues, run_of_turns hu hkeys ?_ hbroken⟩
    have hturn (row : Table → Progress → Entry → Except Fault Progress) :
        Change.turn ⟨table, .assign (t.filled values.reverse), picks⟩ row (⟨s, 0⟩, 0) e =
          row t ⟨s, 0⟩ e >>= fun p => pure (p, 0 + 1) := Change.turn_found hu hget
    rw [hpicked, List.foldlM_cons, hturn]
    exact bind_eq_ok.2 ⟨_, bind_eq_ok.2 ⟨p, hrow, rfl⟩, List.foldlM_nil⟩

end TableService.Store
