/-
  What requests ask of the service, and how they are answered.

  * `Request.asked` reads a request; one whose form is not right has its response at once
    (`refused_asked`).
  * A `Task` is what is asked of the rows of a table.  `Task.perform_eq`: a task is checked, its
    command is run, and the outcome is the reply.
  * `respond_eq`: a request that is read is answered by what it asks for.
  * `serve` answers requests one after the other; `serve_run`: what every answer keeps is kept by all
    of them.
-/
import TableService.Http.Response
import TableService.Proofs.Service.Command

namespace TableService

variable {σ : Type}

/-- What a command has come to: the rows that were read, and the number of those that were changed. -/
structure Outcome where
  rows : List Row
  changed : Nat

/-- Runs a command. -/
def Database.run (db : Database σ) : Command → Action σ Outcome
  | .insert c => db.insert c >>= fun _ => pure ⟨[], 1⟩
  | .select c => db.select c >>= fun rows => pure ⟨rows, 0⟩
  | .update c => db.update c >>= fun n => pure ⟨[], n⟩
  | .delete c => db.delete c >>= fun n => pure ⟨[], n⟩

/-- The service on the watched database. -/
def Service.watched (s : Service σ) : Service (Watched σ) := ⟨s.database.watched, s.registry⟩

theorem Action.ofExcept_map {α β γ : Type} (x : Except Error α) (f : α → β) (g : β → Action σ γ) :
    (Action.ofExcept (x.map f) >>= g) = Action.ofExcept x >>= fun a => g (f a) := by
  cases x <;> rfl

namespace Http

/-! ## Tasks -/

/-- What is asked of the rows of a table. -/
inductive Task where
  | read (o : ReadOptions)
  | create (row : Row)
  | get (id : Int64)
  | update (id : Int64) (row : Row)
  | delete (id : Int64)

namespace Task

/-- The columns that a task names. -/
def named : Task → List String
  | .read o => o.named
  | .create row | .update _ row => row.names
  | .get _ | .delete _ => []

/-- The entries of the order that a task asks for. -/
def order : Task → List String
  | .read o => o.orderBy.getD []
  | .create _ | .get _ | .update _ _ | .delete _ => []

/-- The command of a task. -/
def command (s : Service σ) (table : String) : Task → Except Error Command
  | .read o => (s.selection table o).map .select
  | .create row => (s.insertion table row).map .insert
  | .get id => (s.lookup table id).map .select
  | .update id row => (s.revision table id row).map .update
  | .delete id => (s.removal table id).map .delete

/-- The reply to what the command of a task has come to. -/
def reply (table : String) : Task → Outcome → Action σ Response
  | .read _, x => return .json 200 (rowsJson x.rows)
  | .create _, _ => do
    Action.info ("Created row in " ++ table)
    return .json 201 (.object [("success", .bool true)])
  | .get id, x =>
    match x.rows with
    | row :: _ => return .json 200 (.object row.entries)
    | [] => throw (Service.missing table id)
  | .update id _, x => return .json 200 (counted "updated" (← Service.found table id x.changed))
  | .delete id, x => return .json 200 (counted "deleted" (← Service.found table id x.changed))

/-- Does what a task says. -/
def perform (s : Service σ) (table : String) : Task → Action σ Response
  | .read o => return .json 200 (rowsJson (← s.readRows table o))
  | .create row => do
    s.createRow table row
    return .json 201 (.object [("success", .bool true)])
  | .get id => return .json 200 (.object (← s.getRow table id).entries)
  | .update id row => return .json 200 (counted "updated" (← s.updateRow table id row))
  | .delete id => return .json 200 (counted "deleted" (← s.deleteRow table id))

/-- **A task is checked, its command is run, and the outcome is the reply.** -/
theorem perform_eq (s : Service σ) (table : String) (t : Task) :
    t.perform s table = Action.ofExcept (t.command s table) >>= fun c =>
      s.database.run c >>= t.reply table := by
  cases t with
  | read o =>
    simp only [perform, Service.readRows_eq, command, Action.ofExcept_map, Database.run, reply,
      bind_assoc, pure_bind]
  | create row =>
    simp only [perform, Service.createRow_eq, command, Action.ofExcept_map, Database.run, reply,
      bind_assoc, pure_bind]
  | get id =>
    simp only [perform, Service.getRow_eq, command, Action.ofExcept_map, Database.run, reply,
      bind_assoc, pure_bind]
    refine bind_congr fun c => bind_congr fun rows => ?_
    cases rows <;> rfl
  | update id row =>
    simp only [perform, Service.updateRow_eq, command, Action.ofExcept_map, Database.run, reply,
      bind_assoc, pure_bind]
  | delete id =>
    simp only [perform, Service.deleteRow_eq, command, Action.ofExcept_map, Database.run, reply,
      bind_assoc, pure_bind]

section
variable {s : Service σ} {table : String} {t : Task} {w : Logged σ}

theorem outcome_error {e : Error} (h : t.command s table = .error e) :
    (t.perform s table).outcome w = (.error e, w) := by
  rw [perform_eq, h]
  rfl

theorem outcome_ok {c : Command} (h : t.command s table = .ok c) :
    (t.perform s table).outcome w = (s.database.run c >>= t.reply table).outcome w := by
  rw [perform_eq, h]
  rfl

end

/-- What a task is checked for: its command is within the table, and so is what the task names. -/
theorem vets_command {s : Service σ} (hkeyed : s.registry.Keyed) (table : String) (t : Task) :
    s.Vets table (fun d c => c.Within table d ∧ (∀ n ∈ t.named, n ∈ d.names) ∧
      ∀ e ∈ t.order, OrderTerm.WellFormed e) (t.command s table) := by
  cases t with
  | read o => exact (Service.vets_selection hkeyed o).map fun _ _ h => h
  | create row =>
    exact (Service.vets_insertion row).map fun _ _ h => ⟨h.1, h.2, List.forall_mem_nil _⟩
  | get id =>
    exact (Service.vets_lookup hkeyed id).map fun _ _ h =>
      ⟨h, List.forall_mem_nil _, List.forall_mem_nil _⟩
  | update id row =>
    exact (Service.vets_revision hkeyed id row).map fun _ _ h => ⟨h.1, h.2, List.forall_mem_nil _⟩
  | delete id =>
    exact (Service.vets_removal hkeyed id).map fun _ _ h =>
      ⟨h, List.forall_mem_nil _, List.forall_mem_nil _⟩

end Task

/-! ## Requests -/

/-- What a request asks of the service. -/
inductive Asked where
  | health
  | schema
  | rows (table : String) (t : Task)

/-- The answer to what is asked. -/
def Asked.answer (s : Service σ) : Asked → Action σ Response
  | .health => return ⟨200, .text "OK"⟩
  | .schema => return .json 200 (Registry.json s.registry)
  | .rows table t => t.perform s table

/-- Reads a request for an endpoint. -/
def Endpoint.asked (r : Request) : Endpoint → Except Response Asked
  | .health => .ok .health
  | .schema => .ok .schema
  | .readRows table => do
    let table ← parameter table
    return .rows table (.read (← bodyAs ReadOptions.shape r))
  | .createRow table => do
    let table ← parameter table
    return .rows table (.create (← bodyAs Shape.row r))
  | .getRow table id => do
    let table ← parameter table
    return .rows table (.get (← idParameter id))
  | .updateRow table id => do
    let table ← parameter table
    let id ← idParameter id
    return .rows table (.update id (← bodyAs Shape.row r))
  | .deleteRow table id => do
    let table ← parameter table
    return .rows table (.delete (← idParameter id))

namespace Request

/-- What a request asks for, or the response if its form is not right. -/
def asked (r : Request) : Except Response Asked :=
  if r.method = .options then .error ⟨200, .text ""⟩
  else match Route.ofPath? r.target with
    | none => .error (.rejected 404)
    | some route =>
      match Endpoint.of? r.method route with
      | none => .error (.rejected 405)
      | some endpoint => endpoint.asked r

/-- The response to a request, given the answer. -/
def finish (r : Request) (answer : Except Error Response) : Response :=
  let response := match answer with
    | .ok response => response
    | .error e => .ofError e
  if r.method = .head then response.bodiless else response

end Request

theorem orReject_bind {α β : Type} (x : Except Response α) (f : α → Except Response β) :
    (orReject (x >>= f) : Answering σ β) = orReject x >>= fun a => orReject (f a) := by
  cases x <;> rfl

theorem orReject_pure {α : Type} (a : α) :
    (orReject (pure a) : Answering σ α) = pure a := rfl

theorem orFail_bind {α β : Type} (a : Action σ α) (f : α → Action σ β) :
    orFail (a >>= f) = orFail a >>= fun x => orFail (f x) := by
  refine ExceptT.ext ?_
  simp only [orFail, ExceptT.run_bind, ExceptT.run_mk, bind_assoc, pure_bind]
  refine bind_congr fun r => ?_
  cases r <;> rfl

theorem orFail_pure {α : Type} (a : α) :
    (orFail (pure a : Action σ α)) = pure a := rfl

/-- A request is answered for an endpoint by what it asks there. -/
theorem answer_eq (s : Service σ) (r : Request) (e : Endpoint) :
    answer s r e = orReject (e.asked r) >>= fun a => orFail (a.answer s) := by
  cases e <;>
    simp only [answer, Endpoint.asked, Asked.answer, Task.perform, orReject_bind, orReject_pure,
      orFail_bind, orFail_pure, bind_assoc, pure_bind]
  · rfl
  · rfl

/-! ## Refusals -/

/-- What is refused has a status for its form, and a message that is not of the service. -/
def Rejects {α : Type} (x : Except Response α) : Prop :=
  ∀ y, x = .error y → ∃ n ∈ [400, 415, 422], y = .rejected n

theorem rejects_pure {α : Type} (a : α) : Rejects (pure a) := by
  rintro y ⟨⟩

theorem Rejects.bind {α β : Type} {x : Except Response α} {f : α → Except Response β}
    (h : Rejects x) (hf : ∀ a, Rejects (f a)) : Rejects (x >>= f) := by
  intro y hy
  rcases bind_eq_error.1 hy with hy | ⟨a, -, hy⟩
  · exact h y hy
  · exact hf a y hy

theorem rejects_parameter (text : String) : Rejects (parameter text) := by
  intro y hy
  unfold parameter at hy
  split at hy <;> cases hy
  exact ⟨400, by simp, rfl⟩

theorem rejects_idParameter (text : String) : Rejects (idParameter text) := by
  refine (rejects_parameter text).bind fun t => ?_
  intro y hy
  split at hy
  · split_ifs at hy <;> cases hy
    exact ⟨400, by simp, rfl⟩
  · cases hy
    exact ⟨400, by simp, rfl⟩

theorem rejects_bodyAs {α : Type} (shape : Shape α) (r : Request) : Rejects (bodyAs shape r) := by
  intro y hy
  unfold bodyAs at hy
  split_ifs at hy
  · cases hy
    exact ⟨415, by simp, rfl⟩
  · cases hread : Shape.read shape r.body with
    | ok a =>
      rw [hread] at hy
      cases hy
    | error f =>
      rw [hread] at hy
      cases hy
      refine ⟨faultStatus f, ?_, rfl⟩
      cases f <;> simp [faultStatus]

theorem Endpoint.rejects_asked (r : Request) (e : Endpoint) : Rejects (e.asked r) := by
  cases e with
  | health => exact rejects_pure _
  | schema => exact rejects_pure _
  | readRows table | createRow table =>
    exact (rejects_parameter table).bind fun _ => (rejects_bodyAs _ r).bind fun _ => rejects_pure _
  | getRow table id | deleteRow table id =>
    exact (rejects_parameter table).bind fun _ => (rejects_idParameter id).bind fun _ =>
      rejects_pure _
  | updateRow table id =>
    exact (rejects_parameter table).bind fun _ => (rejects_idParameter id).bind fun _ =>
      (rejects_bodyAs _ r).bind fun _ => rejects_pure _

/-- A request is refused for its form with a status of its own, unless it asks for the options. -/
theorem Request.asked_error {r : Request} {x : Response} (h : r.asked = .error x) :
    (r.method = .options ∧ x = ⟨200, .text ""⟩) ∨
      (r.method ≠ .options ∧ ∃ n ∈ [400, 404, 405, 415, 422], x = .rejected n) := by
  unfold asked at h
  by_cases hoptions : r.method = .options
  · rw [if_pos hoptions] at h
    cases h
    exact .inl ⟨hoptions, rfl⟩
  · rw [if_neg hoptions] at h
    refine .inr ⟨hoptions, ?_⟩
    split at h
    · cases h
      exact ⟨404, by simp, rfl⟩
    · split at h
      · cases h
        exact ⟨405, by simp, rfl⟩
      · obtain ⟨n, hn, hx⟩ := Endpoint.rejects_asked r _ x h
        simp only [List.mem_cons, List.not_mem_nil, or_false] at hn
        rcases hn with rfl | rfl | rfl <;> exact ⟨_, by simp, hx⟩

/-! ## Responses -/

/-- **What a request that is read asks for is its answer.** -/
theorem respond_eq (s : Service σ) (r : Request) (w : Logged σ) :
    (respond s r).run w =
      match r.asked with
      | .error x => (x, w)
      | .ok a => (r.finish ((a.answer s).outcome w).1, ((a.answer s).outcome w).2) := by
  unfold respond Request.asked
  by_cases hoptions : r.method = .options
  · rw [if_pos hoptions, if_pos hoptions]
    rfl
  rw [if_neg hoptions, if_neg hoptions]
  cases Route.ofPath? r.target with
  | none => rfl
  | some route =>
    dsimp only
    cases Endpoint.of? r.method route with
    | none => rfl
    | some e =>
      dsimp only
      rw [answer_eq]
      cases ha : e.asked r with
      | error x =>
        obtain ⟨n, -, rfl⟩ := Endpoint.rejects_asked r e x ha
        by_cases hhead : r.method = .head
        · simp only [hhead]
          rfl
        · simp only [hhead]
          rfl
      | ok a =>
        have hok : (orReject (.ok a) : Answering σ Asked) = pure a := rfl
        have hrun : (orFail (a.answer s)).run.run w =
          (((a.answer s).outcome w).1.mapError Response.ofError, ((a.answer s).outcome w).2) := rfl
        rw [hok, pure_bind, StateT.run_bind, hrun]
        dsimp only
        rcases (a.answer s).outcome w with ⟨_ | _, w'⟩ <;> rfl

section
variable {s : Service σ} {r : Request} {w : Logged σ}

theorem respond_refused {x : Response} (h : r.asked = .error x) : (respond s r).run w = (x, w) := by
  rw [respond_eq, h]

theorem respond_asked {a : Asked} {answer : Except Error Response} {w' : Logged σ}
    (h : r.asked = .ok a) (ha : (a.answer s).outcome w = (answer, w')) :
    (respond s r).run w = (r.finish answer, w') := by
  rw [respond_eq, h]
  simp only [ha]

end

@[simp] theorem Request.status_finish_ok (r : Request) (x : Response) :
    (r.finish (.ok x)).status = x.status := by
  unfold finish
  split_ifs <;> rfl

@[simp] theorem Request.status_finish_error (r : Request) (e : Error) :
    (r.finish (.error e)).status = e.status := by
  unfold finish
  split_ifs <;> rfl

/-! ## Runs -/

/-- Answers requests, one after the other. -/
def serve (s : Service σ) : List Request → StateM (Logged σ) (List Response)
  | [] => return []
  | r :: rs => do
    let x ← respond s r
    return x :: (← serve s rs)

theorem serve_cons (s : Service σ) (r : Request) (rs : List Request) (w : Logged σ) :
    (serve s (r :: rs)).run w =
      (((respond s r).run w).1 :: ((serve s rs).run ((respond s r).run w).2).1,
        ((serve s rs).run ((respond s r).run w).2).2) := rfl

/-- What every answer keeps is kept by all of them. -/
theorem serve_keeps {s : Service σ} {I : Logged σ → Prop}
    (h : ∀ r w, I w → I ((respond s r).run w).2) :
    ∀ rs w, I w → I ((serve s rs).run w).2 := by
  intro rs
  induction rs with
  | nil => exact fun _ hw => hw
  | cons r rs ih =>
    intro w hw
    rw [serve_cons]
    exact ih _ (h r w hw)

end Http
end TableService
