/-
  The calls that an action makes on a database.

  * `Action.outcome` runs an action; `outcome_bind` takes a run apart.
  * An `Event` is a call with the state that it found and whether it succeeded; `requested` are the
    tables that events were to create.
    `Database.watched` is a database that keeps the events beside its state, and `eventsOf` are
    those of a run.
  * `Keeps`: an invariant of the state that an action keeps, whether it succeeds or fails.
  * `Mirrors`: an action on the watched database does what it does on the database itself, so the
    events are those of the run that nobody watches.
  * `Calls`: an action makes only calls of a kind; `Blind`: it does not look at the events before.
  * `Composes`: all these are kept when actions are put together.
-/
import TableService.Database

namespace TableService

variable {σ α β : Type}

namespace Action

/-- What comes of an action: its result, and the state and the log after it. -/
def outcome (a : Action σ α) (w : Logged σ) : Except Error α × Logged σ := a.run.run w

@[simp] theorem outcome_pure (x : α) (w : Logged σ) :
    (pure x : Action σ α).outcome w = (.ok x, w) := rfl

@[simp] theorem outcome_throw (e : Error) (w : Logged σ) :
    (throw e : Action σ α).outcome w = (.error e, w) := rfl

@[simp] theorem outcome_log (level : Level) (text : String) (w : Logged σ) :
    (log level text : Action σ Unit).outcome w =
      (.ok (), ⟨w.state, w.log ++ [⟨level, text⟩]⟩) := rfl

@[simp] theorem outcome_info (text : String) (w : Logged σ) :
    (info text : Action σ Unit).outcome w = (.ok (), ⟨w.state, w.log ++ [⟨.info, text⟩]⟩) := rfl

theorem outcome_bind (a : Action σ α) (f : α → Action σ β) (w : Logged σ) :
    (a >>= f).outcome w =
      match a.outcome w with
      | (.ok x, w') => (f x).outcome w'
      | (.error e, w') => (.error e, w') := by
  unfold outcome ExceptT.run StateT.run
  simp only [bind, ExceptT.bind, ExceptT.mk, StateT.bind, ExceptT.bindCont]
  rcases a w with ⟨e | x, w'⟩ <;> rfl

theorem outcome_bind_ok {a : Action σ α} {f : α → Action σ β} {w w' : Logged σ} {x : α}
    (h : a.outcome w = (.ok x, w')) : (a >>= f).outcome w = (f x).outcome w' := by
  rw [outcome_bind, h]

theorem outcome_bind_error {a : Action σ α} {f : α → Action σ β} {w w' : Logged σ} {e : Error}
    (h : a.outcome w = (.error e, w')) : (a >>= f).outcome w = (.error e, w') := by
  rw [outcome_bind, h]

/-- What has succeeded has done so in both parts. -/
theorem outcome_bind_eq_ok {a : Action σ α} {f : α → Action σ β} {w w' : Logged σ} {y : β} :
    (a >>= f).outcome w = (.ok y, w') ↔
      ∃ x w₁, a.outcome w = (.ok x, w₁) ∧ (f x).outcome w₁ = (.ok y, w') := by
  rw [outcome_bind]
  rcases a.outcome w with ⟨e | x, w₁⟩
  · constructor
    · intro h
      cases congrArg Prod.fst h
    · rintro ⟨x, w₂, h, -⟩
      cases congrArg Prod.fst h
  · constructor
    · exact fun h => ⟨x, w₁, rfl, h⟩
    · rintro ⟨x', w₂, h, h'⟩
      cases h
      exact h'

/-- What goes on with a request has found it admitted. -/
theorem outcome_ofQuery_bind_eq_ok {r : Except QueryError α} {f : α → Action σ β}
    {w w' : Logged σ} {y : β} :
    (ofQuery r >>= f).outcome w = (.ok y, w') ↔
      ∃ x, r = .ok x ∧ (f x).outcome w = (.ok y, w') := by
  cases r with
  | error e =>
    constructor
    · intro h
      cases congrArg Prod.fst h
    · rintro ⟨x, h, -⟩
      cases h
  | ok x =>
    constructor
    · exact fun h => ⟨x, rfl, h⟩
    · rintro ⟨_, ⟨rfl⟩, h⟩
      exact h

end Action

/-- Creating a table never fails. -/
def Database.AlwaysCreates (db : Database σ) : Prop :=
  ∀ table definitions w, ((db.createTable table definitions).outcome w).1 = .ok ()

/-! ## Events -/

/-- What a database is asked for. -/
inductive Call where
  | createTable (table : String) (definitions : List String)
  | insert (c : Insert)
  | select (c : Select)
  | update (c : Update)
  | delete (c : Delete)
  | execute (s : Statement)
  | fetch (s : Statement)
  | tableExists (table : String)
  | disconnect

/-- A call as it was made. -/
structure Event (σ : Type) where
  call : Call
  /-- The state that the call found. -/
  before : σ
  succeeded : Bool

/-- The call created the table. -/
def Event.Creates (e : Event σ) (table : String) : Prop :=
  e.succeeded = true ∧ ∃ definitions, e.call = .createTable table definitions

/-- The table that a call is to create. -/
def Call.creates? : Call → Option String
  | .createTable table _ => some table
  | _ => none

/-- The tables that were to be created, whether or not they were. -/
def requested (es : List (Event σ)) : List String := es.filterMap (·.call.creates?)

/-- The state of a database with the events so far. -/
structure Watched (σ : Type) where
  state : σ
  events : List (Event σ)

/-- The state and the log that a watched database has underneath. -/
def Logged.unwatched (w : Logged (Watched σ)) : Logged σ := ⟨w.state.state, w.log⟩

/-- Begins to watch. -/
def Logged.watched (w : Logged σ) : Logged (Watched σ) := ⟨⟨w.state, []⟩, w.log⟩

@[simp] theorem Logged.watched_events (w : Logged σ) : w.watched.state.events = [] := rfl

/-- Makes a call and keeps it as an event. -/
def watching (c : Call) (a : Action σ α) : Action (Watched σ) α :=
  ExceptT.mk (StateT.mk fun w =>
    let (r, after) := a.outcome w.unwatched
    (r, ⟨⟨after.state, w.state.events ++ [⟨c, w.state.state, r.isOk⟩]⟩, after.log⟩))

/-- The database, with every call on it kept as an event. -/
def Database.watched (db : Database σ) : Database (Watched σ) where
  dialect := db.dialect
  createTable table definitions :=
    watching (.createTable table definitions) (db.createTable table definitions)
  insert c := watching (.insert c) (db.insert c)
  select c := watching (.select c) (db.select c)
  update c := watching (.update c) (db.update c)
  delete c := watching (.delete c) (db.delete c)
  execute s := watching (.execute s) (db.execute s)
  fetch s := watching (.fetch s) (db.fetch s)
  tableExists table := watching (.tableExists table) (db.tableExists table)
  disconnect := watching .disconnect db.disconnect

/-- The events of a run. -/
def eventsOf (a : Action (Watched σ) α) (w : Logged σ) : List (Event σ) :=
  (a.outcome w.watched).2.state.events

theorem outcome_watching {c : Call} {a : Action σ α} {w : Logged (Watched σ)} {r : Except Error α}
    {w' : Logged σ} (h : a.outcome w.unwatched = (r, w')) :
    (watching c a).outcome w =
      (r, ⟨⟨w'.state, w.state.events ++ [⟨c, w.state.state, r.isOk⟩]⟩, w'.log⟩) := by
  rw [show r = (a.outcome w.unwatched).1 by rw [h], show w' = (a.outcome w.unwatched).2 by rw [h]]
  rfl

/-! ## Actions put together -/

/-- A relation between actions on the watched database and actions on the database itself that is
kept when actions are put together. -/
structure Composes (J : (α : Type) → Action (Watched σ) α → Action σ α → Prop) : Prop where
  pure : ∀ {α} (x : α), J α (Pure.pure x) (Pure.pure x)
  throw : ∀ {α} (e : Error), J α (MonadExcept.throw e) (MonadExcept.throw e)
  log : ∀ level text, J Unit (Action.log level text) (Action.log level text)
  bind : ∀ {α β b a} {g : α → Action (Watched σ) β} {f : α → Action σ β}, J α b a →
    (∀ x, J β (g x) (f x)) → J β (b >>= g) (a >>= f)

/-- A property of the state that an action keeps, whether it succeeds or fails. -/
def Keeps (I : σ → Prop) (a : Action σ α) : Prop :=
  ∀ w, I w.state → I (a.outcome w).2.state

theorem Keeps.bind {I : σ → Prop} {a : Action σ α} {f : α → Action σ β} (ha : Keeps I a)
    (hf : ∀ x, Keeps I (f x)) : Keeps I (a >>= f) := by
  intro w h
  have ha := ha w h
  rw [Action.outcome_bind]
  rcases hr : a.outcome w with ⟨e | x, w'⟩ <;> rw [hr] at ha
  · exact ha
  · exact hf x w' ha

theorem composes_keeps (I : Watched σ → Prop) : Composes fun _ b (_ : Action σ _) => Keeps I b where
  pure _ := fun _ h => h
  throw _ := fun _ h => h
  log _ _ := fun _ h => h
  bind := Keeps.bind

/-- An action on the watched state has the result of the other, and leaves its state and log
underneath. -/
def Mirrors (b : Action (Watched σ) α) (a : Action σ α) : Prop :=
  ∀ w, (b.outcome w).1 = (a.outcome w.unwatched).1 ∧
    (b.outcome w).2.unwatched = (a.outcome w.unwatched).2

theorem mirrors_watching (c : Call) (a : Action σ α) : Mirrors (watching c a) a :=
  fun _ => ⟨rfl, rfl⟩

theorem Mirrors.bind {b : Action (Watched σ) α} {a : Action σ α} {g : α → Action (Watched σ) β}
    {f : α → Action σ β} (h : Mirrors b a) (hf : ∀ x, Mirrors (g x) (f x)) :
    Mirrors (b >>= g) (a >>= f) := by
  intro w
  obtain ⟨h1, h2⟩ := h w
  rw [Action.outcome_bind, Action.outcome_bind]
  rcases hb : b.outcome w with ⟨rb, wb⟩
  rcases ha : a.outcome w.unwatched with ⟨ra, wa⟩
  rw [hb, ha] at h1 h2
  obtain rfl : rb = ra := h1
  obtain rfl : wb.unwatched = wa := h2
  cases rb with
  | ok x => exact hf x wb
  | error e => exact ⟨rfl, rfl⟩

theorem composes_mirrors : Composes (σ := σ) fun _ b a => Mirrors b a where
  pure _ := fun _ => ⟨rfl, rfl⟩
  throw _ := fun _ => ⟨rfl, rfl⟩
  log _ _ := fun _ => ⟨rfl, rfl⟩
  bind := Mirrors.bind

/-- The calls that an action on the watched database makes are of a kind. -/
def Calls (P : Call → Prop) (b : Action (Watched σ) α) : Prop :=
  ∀ w, ∃ es, (b.outcome w).2.state.events = w.state.events ++ es ∧ ∀ e ∈ es, P e.call

theorem calls_watching {P : Call → Prop} {c : Call} (hc : P c) (a : Action σ α) :
    Calls P (watching c a) :=
  fun w => ⟨[⟨c, w.state.state, (a.outcome w.unwatched).1.isOk⟩], rfl,
    List.forall_mem_singleton.2 hc⟩

theorem Calls.bind {P : Call → Prop} {b : Action (Watched σ) α} {g : α → Action (Watched σ) β}
    (h : Calls P b) (hg : ∀ x, Calls P (g x)) : Calls P (b >>= g) := by
  intro w
  obtain ⟨es, he, hes⟩ := h w
  rw [Action.outcome_bind]
  rcases hb : b.outcome w with ⟨e | x, w'⟩ <;> rw [hb] at he
  · exact ⟨es, he, hes⟩
  · obtain ⟨es', he', hes'⟩ := hg x w'
    exact ⟨es ++ es', by rw [he', he, List.append_assoc], List.forall_mem_append.2 ⟨hes, hes'⟩⟩

theorem composes_calls (P : Call → Prop) : Composes fun _ b (_ : Action σ _) => Calls P b where
  pure _ := fun _ => ⟨[], (List.append_nil _).symm, by simp⟩
  throw _ := fun _ => ⟨[], (List.append_nil _).symm, by simp⟩
  log _ _ := fun _ => ⟨[], (List.append_nil _).symm, by simp⟩
  bind := Calls.bind

/-- The state of a watched database that has other events before its own. -/
def Logged.after (past : List (Event σ)) (w : Logged (Watched σ)) : Logged (Watched σ) :=
  ⟨⟨w.state.state, past ++ w.state.events⟩, w.log⟩

theorem Logged.after_watched (w : Logged (Watched σ)) :
    w.unwatched.watched.after w.state.events = w := by
  rw [after, watched, List.append_nil]
  rfl

/-- An action on the watched database only adds to the events, and does not look at them. -/
def Blind (b : Action (Watched σ) α) : Prop :=
  ∀ past w, b.outcome (w.after past) = ((b.outcome w).1, (b.outcome w).2.after past)

theorem blind_watching (c : Call) (a : Action σ α) : Blind (watching c a) := by
  intro past w
  have h : w.unwatched = (w.after past).unwatched := rfl
  rcases hr : a.outcome w.unwatched with ⟨r, w'⟩
  rw [outcome_watching hr, outcome_watching (h ▸ hr), Logged.after, Logged.after, List.append_assoc]

theorem Blind.bind {b : Action (Watched σ) α} {g : α → Action (Watched σ) β} (h : Blind b)
    (hg : ∀ x, Blind (g x)) : Blind (b >>= g) := by
  intro past w
  rw [Action.outcome_bind, Action.outcome_bind, h past w]
  rcases b.outcome w with ⟨e | x, w'⟩
  · rfl
  · exact hg x past w'

theorem composes_blind : Composes fun _ b (_ : Action σ _) => Blind b where
  pure _ := fun _ _ => rfl
  throw _ := fun _ _ => rfl
  log _ _ := fun _ _ => rfl
  bind := Blind.bind

/-- The events of an action after those before it. -/
theorem Blind.events {b : Action (Watched σ) α} (h : Blind b) (w : Logged (Watched σ)) :
    (b.outcome w).2.state.events = w.state.events ++ eventsOf b w.unwatched := by
  have hw := h w.state.events w.unwatched.watched
  rw [w.after_watched] at hw
  rw [hw]
  rfl

end TableService
