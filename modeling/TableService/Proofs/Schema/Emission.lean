/-
  The order in which tables are created.

  * `Emission`: the pending plans leave one by one, always the first one that is ready; the plans
    that are left over when none is ready are blocked.
  * `createAll_eq`: to create all plans is to create the emitted ones in order, and to fail if any
    are blocked.
  * An emission splits the plans (`Emission.perm`) such that the dependencies of an emitted plan
    come before it (`Emission.ready`), and a blocked one lacks one of its own
    (`Emission.not_ready`).
  * `Made`: the events of creating plans in order, up to the first failure; `Creating` is the same
    with what comes of it, a call that fails being the last one (`Creating.stops`).
-/
import TableService.Schema.Creation
import TableService.Proofs.Calls
import Mathlib.Data.List.Basic

namespace TableService.Schema

variable {σ : Type}

/-- The plans `pending`, with the tables `created` before, are emitted in an order until the rest
is blocked. -/
inductive Emission : List String → List Plan → List Plan → List Plan → Prop
  | done {created pending} : (∀ p ∈ pending, p.isReady created = false) →
      Emission created pending [] pending
  | emit {created before p after order blocked} : (∀ q ∈ before, q.isReady created = false) →
      p.isReady created = true →
      Emission (created ++ [p.name]) (before ++ after) order blocked →
      Emission created (before ++ p :: after) (p :: order) blocked

/-! ## Creation -/

/-- Creates the tables of plans, one after the other. -/
def createEach (db : Database σ) : List Plan → Action σ Unit
  | [] => return ()
  | p :: ps => do
    db.createTable p.name (p.definitions db.dialect)
    Action.info ("Created table " ++ p.name)
    createEach db ps

/-- Ends the creation: with the tables created, or with an error that names the blocked ones. -/
def conclude (created : List String) (blocked : List Plan) : Action σ (List String) := do
  if blocked.isEmpty then return created
  let names := (blocked.map Plan.name).mergeSort
  Action.log .error ("Circular dependency between tables: " ++ commaSpaced names)
  throw (.circularDependency names)

theorem conclude_nil (created : List String) (w : Logged σ) :
    (conclude created []).outcome w = (.ok created, w) := rfl

theorem conclude_cons (created : List String) (p : Plan) (ps : List Plan) (w : Logged σ) :
    ((conclude created (p :: ps)).outcome w).1 =
      .error (.circularDependency (((p :: ps).map Plan.name).mergeSort)) := rfl

/-- Ending the creation leaves the database alone. -/
theorem conclude_state (created : List String) (blocked : List Plan) (w : Logged σ) :
    ((conclude created blocked).outcome w).2.state = w.state := by
  cases blocked <;> rfl

theorem createAll_of_ready {db : Database σ} {created : List String} {before after : List Plan}
    {p : Plan} (hbefore : ∀ q ∈ before, q.isReady created = false) (hp : p.isReady created = true) :
    createAll db created (before ++ p :: after) = (do
      db.createTable p.name (p.definitions db.dialect)
      Action.info ("Created table " ++ p.name)
      createAll db (created ++ [p.name]) (before ++ after)) := by
  have h : (before ++ p :: after).findIdx? (·.isReady created) = some before.length := by
    refine List.findIdx?_eq_some_iff_getElem.2 ⟨by simp, by simpa using hp, fun j hj => ?_⟩
    rw [List.getElem_append_left hj, hbefore _ (List.getElem_mem hj)]
    exact Bool.false_ne_true
  rw [createAll]
  split
  · rename_i i hi
    obtain rfl := Option.some.inj (hi.symm.trans h)
    simp [List.eraseIdx_append_of_length_le]
  · rename_i hn
    cases hn.symm.trans h

theorem createAll_of_blocked {db : Database σ} {created : List String} {pending : List Plan}
    (h : ∀ p ∈ pending, p.isReady created = false) :
    createAll db created pending = conclude created pending := by
  have h := List.findIdx?_eq_none_iff.2 h
  rw [createAll]
  split
  · rename_i hi
    cases hi.symm.trans h
  · by_cases hp : pending.isEmpty = true <;> simp [hp, conclude]

/-- The plans have an emission. -/
theorem Emission.exists (created : List String) (pending : List Plan) :
    ∃ order blocked, Emission created pending order blocked := by
  induction created, pending using createAll.induct with
  | case1 created pending i h p ih =>
    obtain ⟨order, blocked, hem⟩ := ih
    obtain ⟨hi, hready, hfirst⟩ := List.findIdx?_eq_some_iff_getElem.1 h
    have hsplit : pending.take i ++ p :: pending.drop (i + 1) = pending := by
      rw [show p = pending[i] from rfl, ← List.drop_eq_getElem_cons hi, List.take_append_drop]
    refine ⟨p :: order, blocked, ?_⟩
    rw [← hsplit]
    refine .emit (fun q hq => ?_) hready (by rwa [← List.eraseIdx_eq_take_drop_succ])
    obtain ⟨j, hj, rfl⟩ := List.mem_take_iff_getElem.1 hq
    exact Bool.eq_false_iff.2 (hfirst j (by omega))
  | case2 created pending h | case3 created pending h =>
    exact ⟨[], pending, .done (List.findIdx?_eq_none_iff.1 h)⟩

/-- **Creation follows an emission.** -/
theorem Emission.createAll_eq (db : Database σ) {created : List String}
    {pending order blocked : List Plan} (h : Emission created pending order blocked) :
    createAll db created pending =
      createEach db order >>= fun _ => conclude (created ++ order.map Plan.name) blocked := by
  induction h with
  | done hb => rw [createAll_of_blocked hb]; simp [createEach]
  | emit hbefore hp _ ih =>
    rw [createAll_of_ready hbefore hp, ih]
    simp [createEach]

namespace Emission
variable {created : List String} {pending order blocked : List Plan}

/-! ## The order -/

/-- Every plan is emitted or blocked. -/
theorem perm (h : Emission created pending order blocked) : (order ++ blocked).Perm pending := by
  induction h with
  | done => exact .refl _
  | emit _ _ _ ih => exact (ih.cons _).trans List.perm_middle.symm

/-- The dependencies of an emitted plan come before it. -/
theorem ready (h : Emission created pending order blocked) {first : List Plan} {p : Plan}
    {rest : List Plan} (ho : order = first ++ p :: rest) :
    ∀ b ∈ p.dependencies, b ∈ created ++ first.map Plan.name := by
  induction h generalizing first with
  | done => simp at ho
  | @emit created _ q _ _ _ _ hq _ ih =>
    cases first with
    | nil =>
      obtain ⟨rfl, -⟩ := List.cons.inj ho
      simpa [Plan.isReady] using hq
    | cons q' first =>
      obtain ⟨rfl, ho'⟩ := List.cons.inj ho
      simpa using ih ho'

/-- A blocked plan has a dependency that is never created. -/
theorem not_ready (h : Emission created pending order blocked) :
    ∀ p ∈ blocked, ∃ b ∈ p.dependencies, b ∉ created ++ order.map Plan.name := by
  induction h with
  | done hb =>
    intro p hp
    simpa [Plan.isReady] using hb p hp
  | emit _ _ _ ih => simpa using ih

end Emission

/-! ## Events -/

/-- The call that creates a plan. -/
def Plan.call (d : Dialect) (p : Plan) : Call := .createTable p.name (p.definitions d)

/-- The events of creating plans one after the other, up to the first failure. -/
inductive Made (d : Dialect) : List Plan → List (Event σ) → Prop
  | nil : Made d [] []
  | failed {p ps e} : e.call = p.call d → Made d (p :: ps) [e]
  | cons {p ps e es} : e.call = p.call d → e.succeeded = true → Made d ps es →
      Made d (p :: ps) (e :: es)

/-- When a table is created, all before it have been. -/
theorem Made.split {d : Dialect} {ps : List Plan} {es : List (Event σ)} (h : Made d ps es)
    {earlier : List (Event σ)} {e : Event σ} {later : List (Event σ)}
    (hes : es = earlier ++ e :: later) :
    ∃ first p rest, ps = first ++ p :: rest ∧ e.call = p.call d ∧
      ∀ q ∈ first, ∃ x ∈ earlier, x.Creates q.name := by
  induction h generalizing earlier with
  | nil => simp at hes
  | @failed p ps x hx =>
    cases earlier with
    | nil =>
      obtain ⟨rfl, -⟩ := List.cons.inj hes
      exact ⟨[], p, ps, rfl, hx, by simp⟩
    | cons => simp at hes
  | @cons p ps x xs hx hs _ ih =>
    cases earlier with
    | nil =>
      obtain ⟨rfl, -⟩ := List.cons.inj hes
      exact ⟨[], p, ps, rfl, hx, by simp⟩
    | cons y earlier =>
      obtain ⟨rfl, hes'⟩ := List.cons.inj hes
      obtain ⟨first, q, rest, rfl, hq, hfirst⟩ := ih hes'
      refine ⟨p :: first, q, rest, rfl, hq, fun a ha => ?_⟩
      rcases List.mem_cons.1 ha with rfl | ha
      · exact ⟨x, List.mem_cons_self, hs, _, hx⟩
      · obtain ⟨z, hz, hc⟩ := hfirst a ha
        exact ⟨z, List.mem_cons_of_mem _ hz, hc⟩

/-- Creating plans one after the other on a database: the events, and what comes of it.  The first
failure ends it. -/
inductive Creating (db : Database σ) :
    List Plan → Logged σ → List (Event σ) → Except Error Unit × Logged σ → Prop
  | nil {w} : Creating db [] w [] (.ok (), w)
  | failed {p ps w e w'} :
      (db.createTable p.name (p.definitions db.dialect)).outcome w = (.error e, w') →
      Creating db (p :: ps) w [⟨p.call db.dialect, w.state, false⟩] (.error e, w')
  | cons {p ps w w' es out} :
      (db.createTable p.name (p.definitions db.dialect)).outcome w = (.ok (), w') →
      Creating db ps ⟨w'.state, w'.log ++ [⟨.info, "Created table " ++ p.name⟩]⟩ es out →
      Creating db (p :: ps) w (⟨p.call db.dialect, w.state, true⟩ :: es) out

/-- **What the creation of plans does**, watched or not. -/
theorem creating_createEach (db : Database σ) : ∀ (ps : List Plan) (w : Logged (Watched σ)),
    ∃ es out, Creating db ps w.unwatched es out ∧ (createEach db ps).outcome w.unwatched = out ∧
      (createEach db.watched ps).outcome w =
        (out.1, ⟨⟨out.2.state, w.state.events ++ es⟩, out.2.log⟩)
  | [], w => ⟨[], _, .nil, rfl, by rw [List.append_nil]; rfl⟩
  | p :: ps, w => by
    rcases hr : (db.createTable p.name (p.definitions db.dialect)).outcome w.unwatched with ⟨r, w'⟩
    have hw : (db.watched.createTable p.name (p.definitions db.watched.dialect)).outcome w = _ :=
      outcome_watching hr
    rw [createEach, createEach]
    cases r with
    | error e =>
      rw [Action.outcome_bind_error hr, Action.outcome_bind_error hw]
      exact ⟨_, _, .failed hr, rfl, rfl⟩
    | ok =>
      rw [Action.outcome_bind_ok hr, Action.outcome_bind_ok (Action.outcome_info _ _),
        Action.outcome_bind_ok hw, Action.outcome_bind_ok (Action.outcome_info _ _)]
      obtain ⟨es, out, hc, ho, hwo⟩ := creating_createEach db ps
        ⟨⟨w'.state, w.state.events ++ [⟨p.call db.dialect, w.state.state, true⟩]⟩,
          w'.log ++ [⟨.info, "Created table " ++ p.name⟩]⟩
      refine ⟨_, out, .cons hr hc, ho, hwo.trans ?_⟩
      rw [List.append_assoc]
      rfl

namespace Creating
variable {db : Database σ} {ps : List Plan} {w : Logged σ} {es : List (Event σ)}
  {out : Except Error Unit × Logged σ}

theorem made (h : Creating db ps w es out) : Made db.dialect ps es := by
  induction h with
  | nil => exact .nil
  | failed => exact .failed rfl
  | cons _ _ ih => exact .cons rfl rfl ih

/-- If no call fails, then all plans are created. -/
theorem completes (h : Creating db ps w es out) (hs : ∀ e ∈ es, e.succeeded = true) :
    out.1 = .ok () ∧ es.map Event.call = ps.map (·.call db.dialect) := by
  induction h with
  | nil => exact ⟨rfl, rfl⟩
  | failed => cases hs _ List.mem_cons_self
  | cons _ _ ih =>
    obtain ⟨hok, hcalls⟩ := ih fun e he => hs e (List.mem_cons_of_mem _ he)
    exact ⟨hok, by rw [List.map_cons, List.map_cons, hcalls]⟩

/-- **A call that fails is the last one**: the calls are those for the plans up to there, and the
error of the database is what comes of it. -/
theorem stops (h : Creating db ps w es out) {k : Nat} {e : Event σ} (hk : es[k]? = some e)
    (hf : e.succeeded = false) :
    es.map Event.call = (ps.map (·.call db.dialect)).take (k + 1) ∧
      ∃ p ∈ ps, e.call = p.call db.dialect ∧ ∃ err w₁ w₂, w₁.state = e.before ∧
        (db.createTable p.name (p.definitions db.dialect)).outcome w₁ = (.error err, w₂) ∧
        out.1 = .error err := by
  induction h generalizing k with
  | nil => cases hk
  | @failed p _ w err w₂ hr =>
    cases k with
    | zero =>
      cases hk
      exact ⟨rfl, p, List.mem_cons_self, rfl, err, w, w₂, rfl, hr, rfl⟩
    | succ k => cases hk
  | cons _ _ ih =>
    cases k with
    | zero =>
      cases hk
      cases hf
    | succ k =>
      obtain ⟨hcalls, p, hp, hstop⟩ := ih hk
      refine ⟨?_, p, List.mem_cons_of_mem _ hp, hstop⟩
      rw [List.map_cons, List.map_cons, List.take_succ_cons, hcalls]

/-- If all plans are created, then no call fails. -/
theorem succeeds (h : Creating db ps w es out) (ho : out.1 = .ok ()) :
    ∀ e ∈ es, e.succeeded = true := by
  induction h with
  | nil => exact fun e he => absurd he List.not_mem_nil
  | failed => cases ho
  | cons _ _ ih => exact List.forall_mem_cons.2 ⟨rfl, ih ho⟩

end Creating

/-- The events that creating plans adds: all of them when it succeeds. -/
theorem made_createEach (db : Database σ) (ps : List Plan) (w : Logged (Watched σ)) :
    ∃ es, ((createEach db.watched ps).outcome w).2.state.events = w.state.events ++ es ∧
      Made db.dialect ps es ∧ (((createEach db.watched ps).outcome w).1 = .ok () →
        es.map Event.call = ps.map (·.call db.dialect)) := by
  obtain ⟨es, out, hc, -, hw⟩ := creating_createEach db ps w
  rw [hw]
  exact ⟨es, rfl, hc.made, fun ho => (hc.completes (hc.succeeds ho)).2⟩

theorem outcome_createEach {db : Database σ} (h : db.AlwaysCreates) :
    ∀ (ps : List Plan) (w : Logged σ), ((createEach db ps).outcome w).1 = .ok ()
  | [], _ => rfl
  | p :: ps, w => by
    rw [createEach, Action.outcome_bind_ok (Prod.ext (h _ _ w) rfl),
      Action.outcome_bind_ok (Action.outcome_info _ _)]
    exact outcome_createEach h ps _

end TableService.Schema
