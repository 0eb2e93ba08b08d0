/-
  What statements leave as it is.

  * `carryOut_idle`: a change that counts no row has changed nothing, since the first row that is
    picked is still there when its turn comes; so for `Contents.delete`.
  * `update_ok`: an update goes through the rows that it picks, and `Revised` is what becomes of each
    of them.
  * `changing_outcome`: a statement that fails leaves the connection as it is.
  * `Careful`: an action changes a state only if it succeeds and counts rows.
-/
import TableService.Proofs.Http.Task
import TableService.Proofs.Store.Constraint
import TableService.Store.Connection

namespace TableService

variable {σ : Type}

/-- An action changes a state only if it succeeds and counts rows. -/
def Careful (a : Action σ Outcome) (w : Logged σ) : Prop :=
  (a.outcome w).2.state = w.state ∨ ∃ x, (a.outcome w).1 = .ok x ∧ x.changed ≠ 0

namespace Store

theorem Entries.get?_of_mem {s : Entries} {e : Entry} (h : e ∈ s.list) :
    ∃ x, s.get? e.id = some x := by
  have hsome : (s.get? e.id).isSome = true := by
    rw [Entries.get?, List.find?_isSome]
    exact ⟨e, h, beq_self_eq_true _⟩
  exact Option.isSome_iff_exists.1 hsome

/-! ## Changes -/

namespace Change

variable {c : Change} {row : Table → Progress → Entry → Except Fault Progress}

/-- The turn of a row that was picked: it counts if it is still there. -/
def turn (c : Change) (row : Table → Progress → Entry → Except Fault Progress)
    (state : Progress × Nat) (e : Entry) : Except Fault (Progress × Nat) := do
  let now ← state.1.store.get c.table
  match now.entries.get? e.id with
  | some e => return (← row now state.1 e, state.2 + 1)
  | none => return state

/-- The turn of a row that is still there. -/
theorem turn_found {state : Progress × Nat} {now : Table} {e x : Entry}
    (hnow : state.1.store.get c.table = .ok now) (hget : now.entries.get? e.id = some x) :
    c.turn row state e = row now state.1 x >>= fun p => pure (p, state.2 + 1) := by
  simp only [turn, hnow, bind, Except.bind, hget]

theorem carryOut_eq (perform : Progress → Change → Except Fault Progress) (c : Change)
    (p : Progress) : c.carryOut perform p = p.store.get c.table >>= fun t =>
      match c.deed with
      | .refuse => refuseIf (!(t.entries.list.filter c.picks).isEmpty) .foreignKey >>= fun _ =>
          pure (p, 0)
      | .remove => (t.entries.list.filter c.picks).foldlM (c.turn (removeRow perform)) (p, 0)
      | .assign values => (t.entries.list.filter c.picks).foldlM
          (c.turn fun t => assignRow perform t values) (p, 0) := rfl

/-- A turn counts one row at most, and loses none. -/
theorem le_of_turn {state state' : Progress × Nat} {e : Entry}
    (h : c.turn row state e = .ok state') : state.2 ≤ state'.2 := by
  obtain ⟨now, -, h⟩ := bind_eq_ok.1 h
  cases hget : now.entries.get? e.id with
  | none =>
    rw [hget] at h
    cases h
    exact Nat.le_refl _
  | some x =>
    rw [hget] at h
    obtain ⟨p, -, h⟩ := bind_eq_ok.1 h
    cases h
    exact Nat.le_succ _

theorem le_of_turns {entries : List Entry} {state state' : Progress × Nat}
    (h : entries.foldlM (c.turn row) state = .ok state') : state.2 ≤ state'.2 := by
  induction entries generalizing state with
  | nil =>
    cases h
    exact Nat.le_refl _
  | cons e entries ih =>
    rw [List.foldlM_cons] at h
    obtain ⟨middle, hturn, h⟩ := bind_eq_ok.1 h
    exact Nat.le_trans (le_of_turn hturn) (ih h)

/-- The first row that is picked is still there when its turn comes. -/
theorem idle_of_turns {p p' : Progress} {t : Table} (ht : p.store.get c.table = .ok t)
    (h : (t.entries.list.filter c.picks).foldlM (c.turn row) (p, 0) = .ok (p', 0)) : p' = p := by
  cases hpicked : t.entries.list.filter c.picks with
  | nil =>
    rw [hpicked] at h
    cases h
    rfl
  | cons e picked =>
    have he : e ∈ t.entries.list := by
      refine List.mem_of_mem_filter (p := c.picks) ?_
      rw [hpicked]
      exact List.mem_cons_self
    obtain ⟨x, hx⟩ := Entries.get?_of_mem he
    rw [hpicked, List.foldlM_cons] at h
    obtain ⟨⟨q, n⟩, hturn, hturns⟩ := bind_eq_ok.1 h
    obtain ⟨now, hnow, hturn⟩ := bind_eq_ok.1 hturn
    obtain rfl : t = now := Except.ok.inj (ht.symm.trans hnow)
    rw [hx] at hturn
    obtain ⟨p₁, -, hturn⟩ := bind_eq_ok.1 hturn
    cases hturn
    exact absurd (le_of_turns hturns) (by simp)

/-- **A change that counts no row has changed nothing.** -/
theorem carryOut_idle {perform : Progress → Change → Except Fault Progress} {p p' : Progress}
    (h : c.carryOut perform p = .ok (p', 0)) : p' = p := by
  rw [carryOut_eq] at h
  obtain ⟨t, ht, h⟩ := bind_eq_ok.1 h
  cases hdeed : c.deed with
  | refuse =>
    rw [hdeed] at h
    obtain ⟨-, -, h⟩ := bind_eq_ok.1 h
    cases h
    rfl
  | remove =>
    rw [hdeed] at h
    exact idle_of_turns ht h
  | assign values =>
    rw [hdeed] at h
    exact idle_of_turns ht h

end Change

/-- A row that was picked has gone when its turn comes, or something is made of what it is then. -/
theorem Change.visit_ok {c : Change}
    {row : Table → Progress × Nat → Entry → Except Fault (Progress × Nat)}
    {state state' : Progress × Nat} {e : Entry} (h : c.visit row state e = .ok state') :
    state' = state ∨ ∃ now x, state.1.store.get c.table = .ok now ∧
      now.entries.get? e.id = some x ∧ row now state x = .ok state' := by
  obtain ⟨now, hnow, h⟩ := bind_eq_ok.1 h
  cases hget : now.entries.get? e.id with
  | none =>
    rw [hget] at h
    cases h
    exact .inl rfl
  | some x =>
    rw [hget] at h
    exact .inr ⟨now, x, hnow, hget, h⟩

/-! ## Statements on a store -/

theorem run_idle {s s' : Contents} {c : Change} (h : s.run c = .ok (s', 0)) : s' = s := by
  obtain ⟨t, -, h⟩ := bind_eq_ok.1 h
  obtain ⟨-, -, h⟩ := bind_eq_ok.1 h
  obtain ⟨⟨p, count⟩, hcarry, h⟩ := bind_eq_ok.1 h
  obtain ⟨-, -, h⟩ := bind_eq_ok.1 h
  cases h
  rw [Change.carryOut_idle hcarry]

theorem delete_idle {s s' : Contents} {table : String} {picks : Entry → Bool}
    (h : s.delete table picks = .ok (s', 0)) : s' = s :=
  run_idle h

/-- **An update that succeeds** goes through the rows that it picks, one after the other. -/
theorem update_ok {s s' : Contents} {table : String} {assignments : List (String × Cell)}
    {picks : Entry → Bool} {n : Nat} (h : s.update table assignments picks = .ok (s', n)) :
    ∃ t values p, s.get table = .ok t ∧ t.located .noColumn assignments = .ok values ∧
      (reach s (t, (Deed.assign values.reverse).scope)).forM (Table.checkKeys s) = .ok () ∧
      (t.entries.list.filter picks).foldlM
        (Change.visit ⟨table, .assign values.reverse, picks⟩ (reviseRow values.reverse))
        (⟨s, 0⟩, 0) = .ok (p, n) ∧
      refuseIf (0 < p.broken) .foreignKey = .ok () ∧ s' = p.store := by
  obtain ⟨t, ht, h⟩ := bind_eq_ok.1 h
  obtain ⟨values, hvalues, h⟩ := bind_eq_ok.1 h
  obtain ⟨_, -, h⟩ := bind_eq_ok.1 h
  obtain ⟨_, hkeys, h⟩ := bind_eq_ok.1 h
  obtain ⟨⟨p, count⟩, hturns, h⟩ := bind_eq_ok.1 h
  obtain ⟨_, hbroken, h⟩ := bind_eq_ok.1 h
  cases h
  exact ⟨t, values, p, ht, hvalues, hkeys, hturns, hbroken, rfl⟩

/-- What becomes of a row that a statement gives new values. -/
inductive Revised (values : List (Place × Cell)) (t : Table) (e : Entry) (state : Progress × Nat) :
    Progress × Nat → Prop
  /-- The statement goes on without it. -/
  | passed {new : Entry} {b : Breach} (hnew : t.assigned e (t.filled values) = .ok new)
    (obstacle : t.obstacle? (Scope.columns ((t.filled values).map Prod.fst)).touches (some e.id)
      new = some b) (ignored : b.resolution = .ignore) : Revised values t e state state
  /-- It has gone with rows that made way for it. -/
  | gone {new : Entry} {p : Progress} {now : Table}
    (way : makeWay t (some e.id) new state.1 = .ok p) (hnow : p.store.get t.name = .ok now)
    (missing : now.entries.get? e.id = none) : Revised values t e state (p, state.2)
  /-- It gets the values. -/
  | assigned {new : Entry} {p p' : Progress} {now : Table}
    (way : makeWay t (some e.id) new state.1 = .ok p) (hnow : p.store.get t.name = .ok now)
    (stays : now.entries.get? e.id = some e)
    (hrow : assignRow (perform maxLevels) now (t.filled values) p e = .ok p') :
    Revised values t e state (p', state.2 + 1)

theorem revised_of_ok {values : List (Place × Cell)} {t : Table} {e : Entry}
    {state state' : Progress × Nat} (h : reviseRow values t state e = .ok state') :
    Revised values t e state state' := by
  obtain ⟨new, hnew, h⟩ := bind_eq_ok.1 h
  split at h
  · rename_i b hb
    split_ifs at h with hignore
    cases h
    exact .passed hnew hb hignore
  · obtain ⟨p, hway, h⟩ := bind_eq_ok.1 h
    obtain ⟨now, hnow, h⟩ := bind_eq_ok.1 h
    cases hget : now.entries.get? e.id with
    | none =>
      rw [hget] at h
      cases h
      exact .gone hway hnow hget
    | some left =>
      rw [hget] at h
      obtain ⟨_, hleft, h⟩ := bind_eq_ok.1 h
      obtain ⟨p', hrow, h⟩ := bind_eq_ok.1 h
      cases h
      obtain rfl : left = e := by simpa using refuseIf_eq_ok.1 hleft
      exact .assigned hway hnow hget hrow

/-! ## Statements -/

/-- A statement that succeeds on a store leaves another one. -/
theorem changing_ok {α : Type} {f : Contents → Except Fault (Contents × α)} {s s' : Contents} {a : α}
    (h : f s = .ok (s', a)) (log : List LogLine) :
    (changing f).outcome ⟨.open s, log⟩ = (.ok a, ⟨.open s', log⟩) := by
  have hopened : opened.outcome ⟨.open s, log⟩ = (.ok s, ⟨.open s, log⟩) := rfl
  rw [changing, Action.outcome_bind_ok hopened, h]
  rfl

/-- A statement that fails on a store leaves it as it is. -/
theorem changing_error {α : Type} {f : Contents → Except Fault (Contents × α)} {s : Contents} {e : Fault}
    (h : f s = .error e) (log : List LogLine) :
    (changing f).outcome ⟨.open s, log⟩ = (.error e.toError, ⟨.open s, log⟩) := by
  have hopened : opened.outcome ⟨.open s, log⟩ = (.ok s, ⟨.open s, log⟩) := rfl
  rw [changing, Action.outcome_bind_ok hopened, h]
  rfl

/-- A statement that changes the store fails and leaves all as it is, or it has found a store that can
be used and succeeded on that; either way whatever the log is. -/
theorem changing_outcome {α : Type} (f : Contents → Except Fault (Contents × α)) (c : Connection) :
    (∃ e, ∀ log, (changing f).outcome ⟨c, log⟩ = (.error e, ⟨c, log⟩)) ∨
      ∃ s s' a, c = .open s ∧ f s = .ok (s', a) := by
  cases c with
  | closed => exact .inl ⟨_, fun _ => rfl⟩
  | unreadable => exact .inl ⟨_, fun _ => rfl⟩
  | «open» s =>
    cases hf : f s with
    | error e => exact .inl ⟨_, changing_error hf⟩
    | ok x => exact .inr ⟨s, x.1, x.2, rfl, hf⟩

/-- A read leaves the connection as it is. -/
theorem select_state (c : Select) (w : Logged Connection) :
    ((database.select c).outcome w).2 = w := by
  obtain ⟨s | _ | _, log⟩ := w <;> rfl

/-- **A statement that succeeds** has found a store that can be used and left another one. -/
theorem changing_eq_ok {α : Type} {f : Contents → Except Fault (Contents × α)} {a : α}
    {w w' : Logged Connection} : (changing f).outcome w = (.ok a, w') ↔
      ∃ s s', w.state = .open s ∧ f s = .ok (s', a) ∧ w' = ⟨.open s', w.log⟩ := by
  obtain ⟨c, log⟩ := w
  constructor
  · intro h
    rcases changing_outcome f c with ⟨e, herror⟩ | ⟨s, s', b, rfl, hf⟩
    · cases congrArg Prod.fst ((herror log).symm.trans h)
    · cases (changing_ok hf log).symm.trans h
      exact ⟨s, s', rfl, hf, rfl⟩
  · rintro ⟨s, s', rfl, hf, rfl⟩
    exact changing_ok hf log

/-- A read of a store that can be used is what the store gives, and changes nothing. -/
theorem select_open (s : Contents) (c : Select) (log : List LogLine) :
    (database.select c).outcome ⟨.open s, log⟩ =
      ((s.select c).mapError Fault.toError, ⟨.open s, log⟩) := rfl

/-- A read that succeeds has found a store that can be used. -/
theorem select_eq_ok {c : Select} {w w' : Logged Connection} {rows : List Row} :
    (database.select c).outcome w = (.ok rows, w') ↔
      ∃ s, w.state = .open s ∧ s.select c = .ok rows ∧ w' = w := by
  obtain ⟨s | _ | _, log⟩ := w
  · rw [select_open, Prod.mk.injEq, mapError_eq_ok]
    constructor
    · exact fun ⟨h, hw⟩ => ⟨s, rfl, h, hw.symm⟩
    · rintro ⟨_, ⟨rfl⟩, h, hw⟩
      exact ⟨h, hw.symm⟩
  · constructor
    · intro h
      cases congrArg Prod.fst h
    · rintro ⟨_, ⟨⟩, -⟩
  · constructor
    · intro h
      cases congrArg Prod.fst h
    · rintro ⟨_, ⟨⟩, -⟩

/-- **A read by options that succeeds** has passed its checks and found a store that can be used. -/
theorem read_eq_ok_iff {table : String} {o : ReadOptions} {w w' : Logged Connection}
    {rows : List Row} : (database.read table o).outcome w = (.ok rows, w') ↔
      ∃ c s, Select.check table o = .ok c ∧ w.state = .open s ∧ s.select c = .ok rows ∧ w' = w := by
  simp only [Database.read, Action.outcome_ofQuery_bind_eq_ok, select_eq_ok, exists_and_left]

/-- A statement that leaves the store as it is where it counts no row. -/
theorem careful_changing {α : Type} {f : Contents → Except Fault (Contents × α)} {g : α → Outcome}
    {w : Logged Connection} (hidle : ∀ {s s' a}, w.state = .open s → f s = .ok (s', a) →
      (g a).changed = 0 → s' = s) : Careful (changing f >>= fun a => pure (g a)) w := by
  obtain ⟨c, log⟩ := w
  rcases changing_outcome f c with ⟨e, h⟩ | ⟨s, s', a, rfl, hf⟩
  · left
    rw [Action.outcome_bind_error (h log)]
  · rw [Careful, Action.outcome_bind_ok (changing_ok hf log), Action.outcome_pure]
    by_cases ha : (g a).changed = 0
    · left
      rw [hidle rfl hf ha]
    · right
      exact ⟨g a, rfl, ha⟩

end Store

end TableService
