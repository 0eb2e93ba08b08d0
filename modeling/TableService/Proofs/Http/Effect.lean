/-
  What requests leave as it is.

  * `reply_state`, `reply_success`: the reply to a task changes nothing, and it is a success if the
    command has counted rows.
  * `perform_keeps`: so a task changes the database only if it does not only read, and then its
    answer is a success, where commands are careful.
  * `Running` is a service that has been started on the embedded database; `answer_keeps`: a request
    that is refused, or that only reads, leaves it as it is, if the row of a change does not go with
    rows that make way for it, as it may (`copy_gone_with_plan`).
-/
import TableService.Proofs.Schema.Plans
import TableService.Proofs.Store.MakeWay

namespace TableService.Http

variable {σ : Type}

namespace Task

/-- The task only reads. -/
def Reads : Task → Prop
  | .read _ | .get _ => True
  | .create _ | .update _ _ | .delete _ => False

/-- The reply to a task leaves the database as it is. -/
theorem reply_state (table : String) (t : Task) (x : Outcome) (w : Logged σ) :
    ((t.reply table x).outcome w).2.state = w.state := by
  obtain ⟨rows, n⟩ := x
  cases t with
  | read o => rfl
  | create row => rfl
  | get id => cases rows <;> rfl
  | update id row => cases n <;> rfl
  | delete id => cases n <;> rfl

/-- The reply to a task that has counted rows is a success. -/
theorem reply_success (table : String) {t : Task} (ht : ¬ t.Reads) {x : Outcome}
    (hx : x.changed ≠ 0) (w : Logged σ) :
    ∃ y, ((t.reply table x).outcome w).1 = .ok y ∧ y.status < 400 := by
  have hcreated : 201 < 400 := by decide
  have hdone : 200 < 400 := by decide
  obtain ⟨rows, n⟩ := x
  obtain ⟨m, rfl⟩ := Nat.exists_eq_succ_of_ne_zero hx
  cases t with
  | read o => exact absurd trivial ht
  | create row => exact ⟨_, rfl, hcreated⟩
  | get id => exact absurd trivial ht
  | update id row => exact ⟨_, rfl, hdone⟩
  | delete id => exact ⟨_, rfl, hdone⟩

theorem command_of_reads {s : Service σ} {table : String} {t : Task} {c : Command} (ht : t.Reads)
    (h : t.command s table = .ok c) : ∃ q, c = .select q := by
  cases t with
  | read o | get id =>
    obtain ⟨q, -, rfl⟩ := map_eq_ok.1 h
    exact ⟨q, rfl⟩
  | create row => exact ht.elim
  | update id row => exact ht.elim
  | delete id => exact ht.elim

/-- The command of a task is an update if the task is one. -/
theorem task_of_update {s : Service σ} {table : String} {t : Task} {q : Update}
    (h : t.command s table = .ok (.update q)) :
    q.table.name = table ∧ ∃ id row, t = .update id row := by
  cases t with
  | update id row =>
    obtain ⟨_, hq, ⟨⟩⟩ := map_eq_ok.1 h
    obtain ⟨_, -, hcheck⟩ := bind_eq_ok.1 hq
    exact ⟨(Update.check_ok (mapError_eq_ok.1 hcheck)).1, id, row, rfl⟩
  | read | create | get | delete =>
    obtain ⟨_, -, ⟨⟩⟩ := map_eq_ok.1 h

/-- **A task changes the database only if it does not only read, and then its answer is a success.** -/
theorem perform_keeps {s : Service σ} {table : String} {t : Task} {w : Logged σ}
    (hrun : ∀ c, t.command s table = .ok c → Careful (s.database.run c) w) :
    ((t.perform s table).outcome w).2.state = w.state ∨
      ¬ t.Reads ∧ ∃ y, ((t.perform s table).outcome w).1 = .ok y ∧ y.status < 400 := by
  cases hc : t.command s table with
  | error e =>
    left
    rw [outcome_error hc]
  | ok c =>
    rw [outcome_ok hc, Action.outcome_bind]
    have hcareful := hrun c hc
    unfold Careful at hcareful
    rcases hout : (s.database.run c).outcome w with ⟨e | x, w'⟩ <;> rw [hout] at hcareful
    · left
      rcases hcareful with h | ⟨x, hx, -⟩
      · exact h
      · cases hx
    · dsimp only at hcareful ⊢
      rw [reply_state]
      refine hcareful.imp_right ?_
      rintro ⟨y, ⟨rfl⟩, hx⟩
      have ht : ¬ t.Reads := by
        intro ht
        obtain ⟨q, rfl⟩ := command_of_reads ht hc
        obtain ⟨rows, w'', -, h⟩ := Action.outcome_bind_eq_ok.1 hout
        cases h
        exact hx rfl
      exact ⟨ht, reply_success table ht hx w'⟩

end Task

/-! ## Requests -/

/-- The request is to look something up, by its method, or to read rows, by its method and route. -/
def Request.Reads (r : Request) : Prop :=
  r.method = .get ∨ r.method = .head ∨
    r.method = .post ∧ ∃ table, Route.ofPath? r.target = some (.table table)

/-- The endpoint is one where something is looked up or read. -/
def Endpoint.Reads : Endpoint → Prop
  | .health | .schema | .readRows _ | .getRow _ _ => True
  | .createRow _ | .updateRow _ _ | .deleteRow _ _ => False

theorem Endpoint.reads_of {r : Request} {route : Route} {e : Endpoint} (hr : r.Reads)
    (hroute : Route.ofPath? r.target = some route) (he : of? r.method route = some e) :
    e.Reads := by
  rcases hr with hm | hm | ⟨hm, table, ht⟩
  · rw [hm] at he
    cases route <;> cases he <;> trivial
  · rw [hm] at he
    cases route <;> cases he <;> trivial
  · obtain rfl := Option.some.inj (hroute.symm.trans ht)
    rw [hm] at he
    cases he
    trivial

theorem Endpoint.reads_asked {r : Request} {e : Endpoint} {table : String} {t : Task} (he : e.Reads)
    (h : e.asked r = .ok (.rows table t)) : t.Reads := by
  cases e with
  | health => cases h
  | schema => cases h
  | readRows text =>
    obtain ⟨_, -, h⟩ := bind_eq_ok.1 h
    obtain ⟨_, -, h⟩ := bind_eq_ok.1 h
    cases h
    trivial
  | getRow text id =>
    obtain ⟨_, -, h⟩ := bind_eq_ok.1 h
    obtain ⟨_, -, h⟩ := bind_eq_ok.1 h
    cases h
    trivial
  | createRow text => exact he.elim
  | updateRow text id => exact he.elim
  | deleteRow text id => exact he.elim

/-- The task of a request that only reads is one that only reads. -/
theorem Request.reads_asked {r : Request} {table : String} {t : Task} (hr : r.Reads)
    (h : r.asked = .ok (.rows table t)) : t.Reads := by
  unfold asked at h
  by_cases hoptions : r.method = .options
  · rw [if_pos hoptions] at h
    cases h
  · rw [if_neg hoptions] at h
    cases hroute : Route.ofPath? r.target with
    | none =>
      rw [hroute] at h
      cases h
    | some route =>
      rw [hroute] at h
      cases he : Endpoint.of? r.method route with
      | none =>
        simp only [he] at h
        cases h
      | some e =>
        simp only [he] at h
        exact Endpoint.reads_asked (Endpoint.reads_of hr hroute he) h

/-- A request that is refused, or that only reads, leaves the database as it is. -/
theorem respond_keeps {s : Service σ} {r : Request} {w : Logged σ}
    (hrun : ∀ table t c, r.asked = .ok (.rows table t) → t.command s table = .ok c →
      Careful (s.database.run c) w) (h : 400 ≤ ((respond s r).run w).1.status ∨ r.Reads) :
    ((respond s r).run w).2.state = w.state := by
  rw [respond_eq] at h ⊢
  cases hr : r.asked with
  | error x => rfl
  | ok a =>
    rw [hr] at h
    cases a with
    | health => rfl
    | schema => rfl
    | rows table t =>
      rcases t.perform_keeps (hrun table t · hr) with hstate | ⟨ht, y, hy, hstatus⟩
      · exact hstate
      · exfalso
        rcases h with h | h
        · dsimp only [Asked.answer] at h
          rw [hy, Request.status_finish_ok] at h
          omega
        · exact ht (Request.reads_asked h hr)

/-! ## Running services -/

/-- A service that has been started on the embedded database: what it registers, and the connection
with the log. -/
structure Running where
  registry : Registry
  world : Logged Store.Connection

namespace Running

/-- Answers a request. -/
def answer (s : Running) (r : Request) : Response × Running :=
  let (x, world) := (respond ⟨Store.database, s.registry⟩ r).run s.world
  (x, ⟨s.registry, world⟩)

/-- What the service has: its registry, and the database it is connected to. -/
def contents (s : Running) : Registry × Store.Connection := (s.registry, s.world.state)

/-- If the request is to change a row, this row stays where others make way for it. -/
def Spares (s : Running) (r : Request) : Prop :=
  ∀ table id row st, r.asked = .ok (.rows table (.update id row)) → s.world.state = .open st →
    Store.Spares st table

theorem careful {s : Running} {r : Request} (h : s.Spares r ∨ r.Reads) {table : String} {t : Task}
    {c : Command} (hr : r.asked = .ok (.rows table t))
    (hc : t.command ⟨Store.database, s.registry⟩ table = .ok c) :
    Careful (Store.database.run c) s.world := by
  refine Store.careful_run c fun q st hq hst => ?_
  subst hq
  obtain ⟨rfl, id, row, rfl⟩ := Task.task_of_update hc
  rcases h with h | h
  · exact h _ id row st hr hst
  · exact (Request.reads_asked h hr).elim

end Running

/-- Items of a shop, one of which there is. -/
def stocked : Running where
  registry := Schema.register .sqlite [Schema.shopItems] .empty
  world := ⟨.open ⟨[⟨"items", [⟨"name", .text, some .abort, none⟩], [⟨[.cell 0], none⟩], [],
    .put .empty ⟨1, [.text "lamp"]⟩, 1⟩]⟩, []⟩

/-- A removal of an item that there is not, and a second item of the same name. -/
def vainRequests : List Request :=
  [⟨.delete, "/api/items/7", none, ""⟩,
    ⟨.post, "/api/items/new", some "application/json", "\x7b\"name\": \"lamp\"\x7d"⟩]

/-- Files with a name. -/
def files : Schema.Document := ⟨[⟨"files", [.column ⟨"name", "TEXT", false, false, false⟩]⟩]⟩

/-- The table of the files is there already. -/
def filesContext : Schema.Context := ⟨["files"], none⟩

/-- A plan with a copy, and a note.  A file with the name of another one takes its place, and copies go
with what they are copies of. -/
def filesStore : Store.Contents := ⟨[
  ⟨"files", [⟨"name", .text, none, none⟩, ⟨"original", .numeric, none, none⟩],
    [⟨[.cell 0], some .replace⟩], [⟨.cell 1, "files", some "id", .cascade, .noAction⟩],
    ((Store.Entries.put .empty ⟨1, [.text "plan", .null]⟩).put
      ⟨2, [.text "copy", .integer 1]⟩).put ⟨3, [.text "note", .null]⟩, 3⟩]⟩

/-- The service of the files, after its start. -/
def filesService : Running where
  registry := (Schema.compile Store.database filesContext files .empty).1
  world := ((Schema.start Store.database filesContext files).outcome ⟨.open filesStore, []⟩).2

theorem files_start :
    (Schema.start Store.database filesContext files).outcome ⟨.open filesStore, []⟩ =
      (.ok filesService.registry, filesService.world) := by
  have hok : ((Schema.start Store.database filesContext files).outcome
    ⟨.open filesStore, []⟩).1.isOk = true := by decide +kernel
  rcases h : (Schema.start Store.database filesContext files).outcome
    ⟨.open filesStore, []⟩ with ⟨e | registry, w⟩
  · rw [h] at hok
    cases hok
  · rw [Schema.registry_start h, filesService, h]

/-- A request for a file, to give it the name of the plan if it is to be changed. -/
def fileRequest (method : Method) (key : String) : Request :=
  ⟨method, "/api/files/" ++ key, some "application/json", "\x7b\"name\": \"plan\"\x7d"⟩

end TableService.Http
