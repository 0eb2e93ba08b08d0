/-
  What requests make a service ask of its database.

  * `mirrors_serve`: a service on the watched database answers requests as the service itself does.
  * `Registry.Permits`: a call is a command on a registered table that mentions only columns
    registered for it, and its text names nothing else.
  * `Task.Strays`: a task is on a table that is not registered, names a column that is not registered
    for it, or has an entry of an order that is none; `command_of_strays`: it has no command.
  * `requests_permitted`: so requests make a service that has been started ask only what its registry
    permits, and those that stray are refused before anything is asked.
-/
import TableService.Proofs.Catalogue
import TableService.Proofs.Http.Task
import TableService.Proofs.Schema.Cycles
import TableService.Proofs.Schema.Registration
import TableService.Proofs.Sql.Names

namespace TableService

variable {σ α : Type}

/-- The call of a command. -/
def Command.call : Command → Call
  | .insert c => .insert c
  | .select c => .select c
  | .update c => .update c
  | .delete c => .delete c

/-- The call is a command on a registered table, which mentions only columns registered for it; its
text names the table and nothing but these columns. -/
def Registry.Permits (r : Registry) (d : Dialect) (c : Call) : Prop :=
  ∃ command table t, c = Command.call command ∧ r.get? table = some t ∧ command.Within table t ∧
    ∃ ts, Sql.tokens d (command.statement d).sql.toList = some ts ∧
      ∀ n ∈ Sql.namesIn ts, n = table ∨ n ∈ t.names

theorem Registry.permits_of_within {r : Registry} {d : Dialect} {c : Command} {table : String}
    {t : TableDescription} (hr : r.get? table = some t) (h : c.Within table t) :
    r.Permits d c.call := by
  obtain ⟨ts, hts, hnames⟩ := c.namesIn_statement d
  refine ⟨c, table, t, rfl, hr, h, ts, hts, ?_⟩
  intro n hn
  rcases hnames n hn with rfl | ⟨i, hi, rfl⟩
  · exact .inl h.table
  · exact .inr (h.known i hi)

/-! ## Watching -/

theorem mirrors_run (db : Database σ) (c : Command) : Mirrors (db.watched.run c) (db.run c) := by
  cases c with
  | insert c => exact (mirrors_watching _ _).bind fun _ => composes_mirrors.pure _
  | select c => exact (mirrors_watching _ _).bind fun _ => composes_mirrors.pure _
  | update c => exact (mirrors_watching _ _).bind fun _ => composes_mirrors.pure _
  | delete c => exact (mirrors_watching _ _).bind fun _ => composes_mirrors.pure _

theorem calls_run {P : Call → Prop} (db : Database σ) {c : Command} (h : P c.call) :
    Calls P (db.watched.run c) := by
  cases c with
  | insert c => exact (calls_watching h _).bind fun _ => (composes_calls P).pure _
  | select c => exact (calls_watching h _).bind fun _ => (composes_calls P).pure _
  | update c => exact (calls_watching h _).bind fun _ => (composes_calls P).pure _
  | delete c => exact (calls_watching h _).bind fun _ => (composes_calls P).pure _

namespace Http

section
variable {J : (α : Type) → Action (Watched σ) α → Action σ α → Prop} (hJ : Composes J)
include hJ

theorem Task.composes_reply (table : String) (t : Task) (x : Outcome) :
    J Response (t.reply table x) (t.reply table x) := by
  have hfound (id : Int64) (n : Nat) :
      J Nat (Service.found table id n) (Service.found table id n) := by
    cases n with
    | zero => exact hJ.throw _
    | succ n => exact hJ.pure _
  cases t with
  | read o => exact hJ.pure _
  | create row => exact hJ.bind (hJ.log _ _) fun _ => hJ.pure _
  | get id =>
    obtain ⟨rows, n⟩ := x
    cases rows with
    | nil => exact hJ.throw _
    | cons row rows => exact hJ.pure _
  | update id row => exact hJ.bind (hfound id x.changed) fun _ => hJ.pure _
  | delete id => exact hJ.bind (hfound id x.changed) fun _ => hJ.pure _

/-- What is kept when actions are put together holds of an answer if it holds of the command. -/
theorem Asked.composes_answer (s : Service σ) (a : Asked)
    (hrun : ∀ table t c, a = .rows table t → t.command s table = .ok c →
      J Outcome (s.database.watched.run c) (s.database.run c)) :
    J Response (a.answer s.watched) (a.answer s) := by
  cases a with
  | health => exact hJ.pure _
  | schema => exact hJ.pure _
  | rows table t =>
    have hcommand : t.command s.watched table = t.command s table := by cases t <;> rfl
    show J Response (t.perform s.watched table) (t.perform s table)
    rw [Task.perform_eq, Task.perform_eq, hcommand]
    cases hc : t.command s table with
    | error e => exact hJ.throw e
    | ok c =>
      have hok {τ : Type} : (Action.ofExcept (.ok c) : Action τ Command) = pure c := rfl
      rw [hok, hok, pure_bind, pure_bind]
      exact hJ.bind (hrun table t c rfl hc) fun x => t.composes_reply hJ table x

end

variable {s : Service σ}

/-- A watched service answers a request as the service itself does. -/
theorem mirrors_respond (s : Service σ) (r : Request) (w : Logged (Watched σ)) :
    ((respond s.watched r).run w).1 = ((respond s r).run w.unwatched).1 ∧
      ((respond s.watched r).run w).2.unwatched = ((respond s r).run w.unwatched).2 := by
  rw [respond_eq, respond_eq]
  cases r.asked with
  | error x => exact ⟨rfl, rfl⟩
  | ok a =>
    obtain ⟨hresult, hstate⟩ := Asked.composes_answer composes_mirrors s a
      (fun _ _ c _ _ => mirrors_run s.database c) w
    exact ⟨congrArg r.finish hresult, hstate⟩

/-- **A watched service answers requests as the service itself does.** -/
theorem mirrors_serve (s : Service σ) (rs : List Request) :
    ∀ w : Logged (Watched σ), ((serve s.watched rs).run w).1 = ((serve s rs).run w.unwatched).1 ∧
      ((serve s.watched rs).run w).2.unwatched = ((serve s rs).run w.unwatched).2 := by
  induction rs with
  | nil => exact fun _ => ⟨rfl, rfl⟩
  | cons r rs ih =>
    intro w
    obtain ⟨hresult, hstate⟩ := mirrors_respond s r w
    obtain ⟨hresults, hend⟩ := ih ((respond s.watched r).run w).2
    rw [serve_cons, serve_cons, hresult, hresults, hend, hstate]
    exact ⟨rfl, rfl⟩

/-! ## What is asked of the database -/

/-- An answer makes only calls that the registry permits. -/
theorem calls_answer (hkeyed : s.registry.Keyed) (a : Asked) :
    Calls (s.registry.Permits s.database.dialect) (a.answer s.watched) := by
  refine a.composes_answer (composes_calls _) s fun table t c _ hc => calls_run s.database ?_
  have hvets := t.vets_command hkeyed table
  unfold Service.Vets at hvets
  cases hr : s.registry.get? table with
  | none =>
    rw [hr, hc] at hvets
    cases hvets
  | some d =>
    rw [hr] at hvets
    exact Registry.permits_of_within hr (hvets.admitted hc).1

/-- The events that a service has after it has answered requests, none having been before. -/
def served (s : Service σ) (rs : List Request) (w : Logged σ) : List (Event σ) :=
  ((serve s.watched rs).run w.watched).2.state.events

theorem served_permitted (hkeyed : s.registry.Keyed) (rs : List Request) (w : Logged σ) :
    ∀ e ∈ served s rs w, s.registry.Permits s.database.dialect e.call := by
  refine serve_keeps (I := fun w : Logged (Watched σ) =>
    ∀ e ∈ w.state.events, s.registry.Permits s.database.dialect e.call) ?_ rs w.watched nofun
  intro r w hw
  rw [respond_eq]
  cases r.asked with
  | error x => exact hw
  | ok a =>
    obtain ⟨es, hevents, hes⟩ := calls_answer hkeyed a w
    dsimp only
    rw [hevents]
    exact List.forall_mem_append.2 ⟨hw, hes⟩

/-! ## What is refused -/

/-- The task is on a table that is not registered, names a column that is not registered for it, or
has an entry of an order that is none. -/
def Task.Strays (r : Registry) (table : String) (t : Task) : Prop :=
  ∀ d, r.get? table = some d →
    (∃ n ∈ t.named, n ∉ d.names) ∨ ∃ e ∈ t.order, ¬ OrderTerm.WellFormed e

/-- A task that strays has no command. -/
theorem command_of_strays (hkeyed : s.registry.Keyed) {table : String} {t : Task}
    (h : t.Strays s.registry table) : ∃ e, t.command s table = .error e ∧
      e.status = if (s.registry.get? table).isSome then 400 else 404 := by
  have hvets := t.vets_command hkeyed table
  unfold Service.Vets at hvets
  cases hr : s.registry.get? table with
  | none =>
    rw [hr] at hvets
    exact ⟨_, hvets, rfl⟩
  | some d =>
    rw [hr] at hvets
    cases hc : t.command s table with
    | error e => exact ⟨e, rfl, hvets.refused hc⟩
    | ok c =>
      obtain ⟨-, hnamed, horder⟩ := hvets.admitted hc
      rcases h d hr with ⟨n, hn, hstray⟩ | ⟨e, he, hstray⟩
      · exact absurd (hnamed n hn) hstray
      · exact absurd (horder e he) hstray

/-- A request that strays is refused, and leaves all as it is. -/
theorem respond_of_strays (hkeyed : s.registry.Keyed) {r : Request} {table : String} {t : Task}
    (hr : r.asked = .ok (.rows table t)) (h : t.Strays s.registry table) (w : Logged σ) :
    ∃ x, (respond s r).run w = (x, w) ∧
      x.status = if (s.registry.get? table).isSome then 400 else 404 := by
  obtain ⟨e, he, hstatus⟩ := command_of_strays hkeyed h
  exact ⟨_, respond_asked hr (Task.outcome_error he),
    by rw [Request.status_finish_error, hstatus]⟩

/-- The table of what is asked, the columns that are named, and the entries of the order. -/
def Asked.outline : Asked → Option (String × List String × List String)
  | .rows table t => some (table, t.named, t.order)
  | .health | .schema => none

theorem Request.asked_of_outline {r : Request} {table : String} {named order : List String}
    (h : r.asked.map Asked.outline = .ok (some (table, named, order))) :
    ∃ t, r.asked = .ok (.rows table t) ∧ t.named = named ∧ t.order = order := by
  obtain ⟨a, ha, h⟩ := map_eq_ok.1 h
  cases a with
  | health => cases h
  | schema => cases h
  | rows table t =>
    cases h
    exact ⟨t, ha, rfl, rfl⟩

theorem Request.asked_of_refused {r : Request} {x : Response}
    (h : r.asked.map Asked.outline = .error x) : r.asked = .error x := by
  cases ha : r.asked with
  | ok a =>
    rw [ha] at h
    cases h
  | error y =>
    rw [ha] at h
    cases h
    rfl

/-- The registry of the shop. -/
def shopRegistry : Registry := Schema.register .sqlite [Schema.shopOrders, Schema.shopItems] .empty

theorem shop_start : ∃ w₁, (Schema.start (.listing .sqlite []) Schema.shopContext
    Schema.shop).outcome ⟨["users"], []⟩ = (.ok shopRegistry, w₁) := by
  rw [Schema.start_eq, Schema.compile_eq Schema.shop_plans, Schema.shop_emission.createAll_eq]
  exact ⟨_, rfl⟩

/-- A request to the shop, with a body in JSON. -/
def shopRequest (method : Method) (target body : String) : Request :=
  ⟨method, target, some "application/json", body⟩

/-- The shop, its tables being kept as a list. -/
def shopService : Service (List String) := ⟨.listing .sqlite [], shopRegistry⟩

/-- Reads the items of the shop and removes an order. -/
def shopRequests : List Request :=
  [shopRequest .post "/api/items" "\x7b\x7d", shopRequest .delete "/api/orders/7" ""]

/-- A read of the items of the shop in an order by no direction. -/
def misdirected : Request := shopRequest .post "/api/items" "\x7b\"orderBy\": \"name UPWARDS\"\x7d"

/-- A request for a table that the shop does not register. -/
def misplaced : Request := shopRequest .get "/api/users/7" ""

/-- A read of a table that the shop does not register, with a body that is not JSON. -/
def untyped : Request := ⟨.post, "/api/users", some "text/plain", "\x7b\x7d"⟩

end Http
end TableService
