/-
  The row with a key, as requests find, change and remove it.

  * `Request.asked_row`: what requests to the route of a row ask for.
  * `answer_look`: a look at the row with a key is answered by whether there is one;
    `missing_of_look` and `there_of_look`: nothing else is answered 404 or 200.
  * `Task.Alters`: a task is to change or to remove the row with a key; `Task.Does` is the deed and
    the name of its count.  `answer_alters`: what a request for such a task comes to.
  * `rows_by_key`: so a look, a change and a removal find the same row, or none; a change or a
    removal counts this row only, and what it does to other ones is what foreign keys ask for.
    `not_only_by_key`: a change may also remove a row that makes way, and a removed row be found again.
-/
import TableService.Proofs.Http.Effect
import TableService.Proofs.Store.RowByKey

namespace TableService.Http

/-! ## Requests for a row -/

/-- What a request to the route of a row asks for, by its method. -/
theorem Request.asked_row {r : Request} {text key table : String} {id : Int64}
    (hroute : Route.ofPath? r.target = some (.row text key)) (htable : parameter text = .ok table)
    (hid : idParameter key = .ok id) :
    (r.method = .get → r.asked = .ok (.rows table (.get id))) ∧
      (r.method = .delete → r.asked = .ok (.rows table (.delete id))) ∧
      (r.method = .put → ∀ row, bodyAs Shape.row r = .ok row →
        r.asked = .ok (.rows table (.update id row))) := by
  refine ⟨fun hmethod => ?_, fun hmethod => ?_, fun hmethod row hrow => ?_⟩
  · rw [asked, hmethod, if_neg nofun, hroute]
    exact bind_eq_ok.2 ⟨table, htable, bind_eq_ok.2 ⟨id, hid, rfl⟩⟩
  · rw [asked, hmethod, if_neg nofun, hroute]
    exact bind_eq_ok.2 ⟨table, htable, bind_eq_ok.2 ⟨id, hid, rfl⟩⟩
  · rw [asked, hmethod, if_neg nofun, hroute]
    exact bind_eq_ok.2 ⟨table, htable, bind_eq_ok.2 ⟨id, hid, bind_eq_ok.2 ⟨row, hrow, rfl⟩⟩⟩

namespace Running

/-- The service that is running. -/
def service (s : Running) : Service Store.Connection := ⟨Store.database, s.registry⟩

/-- A request on the rows of a table is answered by what its task comes to. -/
theorem answer_asked {s : Running} {r : Request} {table : String} {task : Task}
    (hr : r.asked = .ok (.rows table task)) {x : Except Error Response}
    {w : Logged Store.Connection} (hx : (task.perform s.service table).outcome s.world = (x, w)) :
    s.answer r = (r.finish x, ⟨s.registry, w⟩) := by
  have hrespond : (respond s.service r).run s.world = (r.finish x, w) := respond_asked hr hx
  have hanswer : s.answer r = (((respond s.service r).run s.world).1,
    ⟨s.registry, ((respond s.service r).run s.world).2⟩) := rfl
  rw [hanswer, hrespond]

end Running

section
variable {s : Running} {table : String} {id : Int64}

/-! ## A look at a row -/

theorem lookup_ok {c : Select} (h : s.service.lookup table id = .ok c) :
    c.table.name = table ∧ c.tests = Store.keyTests id ∧ c.order = [] ∧ c.limit = some 1 ∧
      c.offset = none := by
  obtain ⟨_, -, hcheck⟩ := bind_eq_ok.1 h
  obtain ⟨htable, -, htests, horder, hlimit, hoffset⟩ := Select.check_ok (mapError_eq_ok.1 hcheck)
  refine ⟨htable, ?_, (Except.ok.inj horder).symm, hlimit, hoffset⟩
  exact Except.ok.inj (htests.symm.trans (Store.testsOf_byId id))

theorem valid_of_lookup {c : Select} (h : s.service.lookup table id = .ok c) :
    Identifier.Valid table := by
  rw [← (lookup_ok h).1]
  exact ⟨c.table.nonempty, c.table.noNul, c.table.fits⟩

variable {look : Request} (hlook : look.asked = .ok (.rows table (.get id)))
include hlook

/-- A look at a row is answered by the first row that its selection finds. -/
theorem answer_selected {c : Select} (hc : s.service.lookup table id = .ok c) {st : Store.Contents}
    (hst : s.world.state = .open st) :
    s.answer look = (look.finish (match st.select c with
      | .error f => .error f.toError
      | .ok [] => .error (Service.missing table id)
      | .ok (row :: _) => .ok (.json 200 (.object row.entries))), s) := by
  obtain ⟨registry, state, log⟩ := s
  obtain rfl : state = .open st := hst
  have hcommand : (Task.get id).command (Running.service ⟨registry, .open st, log⟩) table =
      .ok (.select c) := map_eq_ok.2 ⟨c, hc, rfl⟩
  have hselect : (Store.database.select c).outcome ⟨.open st, log⟩ =
      ((st.select c).mapError Store.Fault.toError, ⟨.open st, log⟩) := rfl
  refine Running.answer_asked hlook ((Task.outcome_ok hcommand).trans ?_)
  rw [Running.service, Database.run, bind_assoc]
  rcases hrows : st.select c with f | rows <;> rw [hrows] at hselect
  · exact Action.outcome_bind_error hselect
  · rw [Action.outcome_bind_ok hselect]
    cases rows <;> rfl

/-- **A look at the row with a key** is answered 200 if there is one, and 404 if there is none. -/
theorem answer_look {c : Select} (hc : s.service.lookup table id = .ok c) {st : Store.Contents}
    (hst : s.world.state = .open st) {u : Store.Table} (hu : st.find? table = some u) :
    (s.answer look).1.status = if (st.row table id).isSome then 200 else 404 := by
  obtain ⟨htable, htests, horder, hlimit, hoffset⟩ := lookup_ok hc
  rw [answer_selected hlook hc hst, Store.select_byId hu htable htests horder hlimit hoffset]
  cases st.row table id with
  | none => exact Request.status_finish_error look _
  | some e => exact Request.status_finish_ok look _

/-- A look that is answered 200 or 404 has found the table. -/
theorem found_of_look (hs : s.registry.Keyed) {t : TableDescription}
    (ht : s.registry.get? table = some t)
    (h : (s.answer look).1.status = 200 ∨ (s.answer look).1.status = 404) :
    ∃ c st u, s.service.lookup table id = .ok c ∧ s.world.state = .open st ∧
      st.find? table = some u := by
  -- any other end has a status of its own
  have hother {e : Error} {s' : Running} (he : e.status ∈ [400, 500, 503]) :
      s.answer look ≠ (look.finish (.error e), s') := by
    intro hx
    rw [hx, Request.status_finish_error] at h
    rcases h with h | h <;> rw [h] at he <;> revert he <;> decide
  have hvets : s.service.Vets table _ (s.service.lookup table id) := Service.vets_lookup hs id
  unfold Service.Vets at hvets
  rw [show s.service.registry.get? table = some t from ht] at hvets
  cases hc : s.service.lookup table id with
  | error e =>
    have hcommand : (Task.get id).command s.service table = .error e := by
      rw [Task.command, hc]
      rfl
    exact absurd (Running.answer_asked hlook (Task.outcome_error hcommand))
      (hother (by rw [hvets.refused hc]; decide))
  | ok c =>
    have hcommand : (Task.get id).command s.service table = .ok (.select c) :=
      map_eq_ok.2 ⟨c, hc, rfl⟩
    have houtcome := Task.outcome_ok (w := s.world) hcommand
    obtain ⟨registry, state, log⟩ := s
    cases state with
    | closed =>
      have hanswer := Running.answer_asked hlook houtcome
      exact absurd hanswer (hother (by decide))
    | unreadable =>
      have hanswer := Running.answer_asked hlook houtcome
      exact absurd hanswer (hother (by decide))
    | «open» st =>
      cases hu : st.find? table with
      | some u => exact ⟨c, st, u, rfl, rfl, hu⟩
      | none =>
        obtain ⟨f, hselect⟩ : ∃ f, st.select c = .error f := by
          rw [Store.Contents.select, (lookup_ok hc).1, Store.Contents.get, hu]
          exact ⟨_, rfl⟩
        have hstatus : f.toError.status = 500 := rfl
        have hanswer := answer_selected hlook hc rfl
        rw [hselect] at hanswer
        exact absurd hanswer (hother (by rw [hstatus]; decide))

section
variable (hs : s.registry.Keyed) {t : TableDescription} (ht : s.registry.get? table = some t)
include hs ht

/-- Where a look is answered 404 there is no such row. -/
theorem missing_of_look (h : (s.answer look).1.status = 404) :
    ∃ c st, s.service.lookup table id = .ok c ∧ s.world.state = .open st ∧
      st.row table id = none := by
  obtain ⟨c, st, u, hc, hst, hu⟩ := found_of_look hlook hs ht (.inr h)
  refine ⟨c, st, hc, hst, ?_⟩
  rw [answer_look hlook hc hst hu] at h
  by_contra hrow
  rw [if_pos (Option.isSome_iff_ne_none.2 hrow)] at h
  cases h

/-- Where a look is answered 200 there is such a row. -/
theorem there_of_look (h : (s.answer look).1.status = 200) :
    ∃ c st u e, s.service.lookup table id = .ok c ∧ s.world.state = .open st ∧
      st.find? table = some u ∧ st.row table id = some e := by
  obtain ⟨c, st, u, hc, hst, hu⟩ := found_of_look hlook hs ht (.inl h)
  rw [answer_look hlook hc hst hu] at h
  cases hrow : st.row table id with
  | some e => exact ⟨c, st, u, e, hc, hst, hu, hrow⟩
  | none =>
    rw [hrow] at h
    cases h

end

/-- A look is answered 404 after a request that has left no such row in the table. -/
theorem look_gone {c : Select} (hc : s.service.lookup table id = .ok c) {s' : Running}
    {st : Store.Contents} (h : s'.contents = (s.registry, .open st)) {u : Store.Table}
    (hu : st.find? table = some u) (hrow : st.row table id = none) :
    (s'.answer look).1.status = 404 := by
  obtain ⟨registry, state, log⟩ := s'
  cases h
  have hlast := answer_look (s := ⟨s.registry, .open st, log⟩) hlook hc rfl hu
  rwa [hrow] at hlast

end

/-! ## Changes and removals -/

/-- The task is to change or to remove the row with a key. -/
inductive Task.Alters (id : Int64) : Task → Prop
  | update (row : Row) : Alters id (.update id row)
  | delete : Alters id (.delete id)

/-- What a task does to the row with a key, and the name of its count: it gives the row the values
that it carries, with initial ones instead of missing ones where the columns say so, or removes the
row. -/
inductive Task.Does (u : Store.Table) (id : Int64) : Task → String → Store.Deed → Prop
  | update {row : Row} {values : List (Store.Place × Store.Cell)}
    (h : u.located .noColumn (row.entries.map fun e => (e.1, .ofJson e.2)) = .ok values) :
    Does u id (.update id row) "updated" (.assign (u.filled values.reverse))
  | delete : Does u id (.delete id) "deleted" .remove

theorem Task.Does.ne_refuse {u : Store.Table} {id : Int64} {task : Task} {name : String}
    {deed : Store.Deed} (h : task.Does u id name deed) : deed ≠ .refuse := by
  cases h <;> nofun

/-- No row of the table makes way for one that the task changes: there is no constraint that says so. -/
def Task.SparesOthers (task : Task) (st : Store.Contents) (table : String) : Prop :=
  ∀ id row, task = .update id row → ∀ u ∈ st.find? table, u.displacing = []

section
variable {s : Running} {table : String} {id : Int64} {task : Task} (halters : task.Alters id)
include halters

/-- What a task does on a store: nothing if there is no row with the key; otherwise, if no other rows
make way, it counts nothing or is a deed on the rows that pass the tests for the key. -/
structure Task.Effect (task : Task) (table : String) (id : Int64) (name : String)
    (st st' : Store.Contents) (n : Nat) : Prop where
  missed : st.row table id = none → n = 0 ∧ st' = st
  done : task.SparesOthers st table → n = 0 ∨ ∃ u deed, st.find? table = some u ∧
    task.Does u id name deed ∧
    st.run ⟨table, deed, Store.picking st table (Store.keyTests id)⟩ = .ok (st', n)

/-- **The command of a change or a removal** is one statement on the store, whose count is the
reply. -/
theorem command_alters {c : Command} (hc : task.command s.service table = .ok c) :
    ∃ (name : String) (f : Store.Contents → Except Store.Fault (Store.Contents × Nat)),
      (Store.database.run c >>= task.reply table) = (Store.changing f >>= fun n =>
        Service.found table id n >>= fun n => pure (.json 200 (counted name n))) ∧
      ∀ st st' n, f st = .ok (st', n) → task.Effect table id name st st' n := by
  cases halters with
  | update row =>
    obtain ⟨q, hq, rfl⟩ := map_eq_ok.1 hc
    obtain ⟨_, -, hcheck⟩ := bind_eq_ok.1 hq
    obtain ⟨rfl, hrow, htests⟩ := Update.check_ok (mapError_eq_ok.1 hcheck)
    refine ⟨"updated", fun st => st.update q.table.name (Store.cellsOf q.row)
      (Store.picking st q.table.name q.tests), bind_assoc .., fun st st' n h => ?_⟩
    have hcells : Store.cellsOf q.row = row.entries.map fun e => (e.1, .ofJson e.2) := by
      rw [← (Assignments.check_ok hrow).2, List.map_map]
      rfl
    rw [hcells, Except.ok.inj (htests.symm.trans (Store.testsOf_byId id))] at h
    refine ⟨fun hnone => Store.update_byId_none hnone h, fun hspares => ?_⟩
    obtain ⟨u, hu, -⟩ := bind_eq_ok.1 h
    have hu := Store.find?_of_get hu
    cases hrow : st.row q.table.name id with
    | none => exact .inl (Store.update_byId_none hrow h).1
    | some e =>
      rcases Store.update_single hu (hspares id row rfl u hu) (Store.picked_byId hu hrow) h with
        ⟨hcount, -⟩ | ⟨values, hvalues, hrun⟩
      · exact .inl hcount
      · exact .inr ⟨u, _, hu, .update hvalues, hrun⟩
  | delete =>
    obtain ⟨q, hq, rfl⟩ := map_eq_ok.1 hc
    obtain ⟨_, -, hcheck⟩ := bind_eq_ok.1 hq
    obtain ⟨rfl, htests⟩ := Delete.check_ok (mapError_eq_ok.1 hcheck)
    refine ⟨"deleted", fun st => st.delete q.table.name
      (Store.picking st q.table.name q.tests), bind_assoc .., fun st st' n h => ?_⟩
    rw [Except.ok.inj (htests.symm.trans (Store.testsOf_byId id))] at h
    obtain ⟨u, hu, -⟩ := bind_eq_ok.1 h
    have hdeed : Store.Deed.remove ≠ .refuse := nofun
    exact ⟨fun hnone => Store.run_byId_none hdeed hnone h,
      fun _ => .inr ⟨u, _, Store.find?_of_get hu, .delete, h⟩⟩

/-- A change in columns that are described, or a removal, is refused only for a row without
columns. -/
theorem error_alters {t : TableDescription} (ht : s.registry.get? table = some t)
    (hdescribed : Schema.Described table t) (htable : Identifier.Valid table)
    (hknown : ∀ n ∈ task.named, n ∈ t.names) {e : Error}
    (h : task.command s.service table = .error e) : ∃ text, e = .emptyPayload text := by
  have hdescription : s.service.description table = .ok t := by
    rw [Service.description, show s.service.registry.get? table = some t from ht]
  obtain ⟨i, hi⟩ := Identifier.ofName_of_valid htable
  have htests := Store.testsOf_byId id
  cases halters with
  | update row =>
    have hrow : s.service.checkRow table row = .ok () := by
      rw [Service.checkRow, hdescription]
      exact Service.checkColumns_of_mem hknown table
    by_cases hempty : row.names = []
    · have hnone : row.isEmpty = true := by
        rw [Record.isEmpty, List.map_eq_nil_iff.1 hempty]
        rfl
      have hcheck : Update.check table row (some (Service.byId id)) =
          .error (.emptyRow .update) := by
        rw [Update.check, Assignments.check, if_pos hnone]
        rfl
      rw [Task.command, Service.revision, hrow, hcheck] at h
      cases h
      exact ⟨_, rfl⟩
    · obtain ⟨a, ha⟩ := Assignments.check_of_valid .update hempty
        fun n hn => hdescribed.valid n (hknown n hn)
      have hcheck : Update.check table row (some (Service.byId id)) = .ok ⟨i, a, _⟩ :=
        bind_eq_ok.2 ⟨a, ha, bind_eq_ok.2 ⟨_, htests, bind_eq_ok.2 ⟨i, hi, rfl⟩⟩⟩
      rw [Task.command, Service.revision, hrow, hcheck] at h
      cases h
  | delete =>
    have hcheck : Delete.check table (some (Service.byId id)) = .ok ⟨i, _⟩ :=
      bind_eq_ok.2 ⟨_, htests, bind_eq_ok.2 ⟨i, hi, rfl⟩⟩
    rw [Task.command, Service.removal, hdescription, hcheck] at h
    cases h

/-- **A change or a removal of the row with a key** fails in the database, or is answered by the count
of its effect. -/
theorem answer_alters {r : Request} (hr : r.asked = .ok (.rows table task)) {c : Command}
    (hc : task.command s.service table = .ok c) {st : Store.Contents}
    (hst : s.world.state = .open st) :
    (∃ text, (s.answer r).1 = r.finish (.error (.database text))) ∨
      ∃ name st' n, task.Effect table id name st st' n ∧
        (s.answer r).2.contents = (s.registry, .open st') ∧
        (s.answer r).1 = r.finish (if n = 0 then .error (Service.missing table id)
          else .ok (.json 200 (counted name n))) := by
  obtain ⟨name, f, hrun, hdoes⟩ := command_alters halters hc
  obtain ⟨registry, state, log⟩ := s
  obtain rfl : state = .open st := hst
  have houtcome := Task.outcome_ok (w := ⟨.open st, log⟩) hc
  rw [Running.service, hrun] at houtcome
  cases hf : f st with
  | error e =>
    rw [Action.outcome_bind_error (Store.changing_error hf log)] at houtcome
    exact .inl ⟨_, congrArg Prod.fst (Running.answer_asked hr houtcome)⟩
  | ok x =>
    obtain ⟨st', n⟩ := x
    rw [Action.outcome_bind_ok (Store.changing_ok hf log)] at houtcome
    refine .inr ⟨name, st', n, hdoes st st' n hf, ?_⟩
    cases n <;> rw [Running.answer_asked hr houtcome] <;> exact ⟨rfl, rfl⟩

end

namespace Request

/-- The answer to a request is an error of the database, or one of its payload. -/
def Fails (r : Request) (x : Response) : Prop :=
  ∃ text, x = r.finish (.error (.database text)) ∨ x = r.finish (.error (.emptyPayload text))

theorem status_of_fails {r : Request} {x : Response} (h : r.Fails x) :
    x.status = 500 ∨ x.status = 400 := by
  obtain ⟨text, rfl | rfl⟩ := h
  · exact .inl (status_finish_error r _)
  · exact .inr (status_finish_error r _)

/-- The answer to a request is a count of one row.  Its task has done its deed to the row with the
key, and the other changes of rows ensue. -/
structure Counts (r : Request) (s : Running) (table : String) (id : Int64) (task : Task)
    (st st' : Store.Contents) (ys : List Store.RowChange) : Prop where
  before : s.world.state = .open st
  after : (s.answer r).2.contents = (s.registry, .open st')
  done : ∃ u name deed x, st.find? table = some u ∧ task.Does u id name deed ∧
    (s.answer r).1 = r.finish (.ok (.json 200 (counted name 1))) ∧
    Store.DoneTo st st' table id deed x ys

end Request

section
variable {s : Running} (hs : Schema.Filled s.registry) {table : String} {t : TableDescription}
  (ht : s.registry.get? table = some t) {id : Int64} {task : Task} (halters : task.Alters id)
  {look r : Request} (hlook : look.asked = .ok (.rows table (.get id)))
  (hr : r.asked = .ok (.rows table task))
include hs ht halters hlook hr

/-- Where a look at a row is answered 404, a change or a removal fails, or is answered so too and
changes nothing. -/
theorem missed_by_key (hknown : ∀ n ∈ task.named, n ∈ t.names)
    (hstatus : (s.answer look).1.status = 404) :
    r.Fails (s.answer r).1 ∨ (s.answer r).1 = r.finish (.error (Service.missing table id)) ∧
      (s.answer r).1.status = 404 ∧ (s.answer r).2.contents = s.contents := by
  obtain ⟨q, st, hq, hst, hrow⟩ := missing_of_look hlook hs.keyed ht hstatus
  cases hc : task.command s.service table with
  | error e =>
    obtain ⟨text, rfl⟩ :=
      error_alters halters ht (hs.described ht) (valid_of_lookup hq) hknown hc
    rw [Running.answer_asked hr (Task.outcome_error hc)]
    exact .inl ⟨text, .inr rfl⟩
  | ok c =>
    rcases answer_alters halters hr hc hst with
      ⟨text, hfails⟩ | ⟨name, st', n, heffect, hcontents, hanswer⟩
    · exact .inl ⟨text, .inl hfails⟩
    obtain ⟨rfl, rfl⟩ := heffect.missed hrow
    rw [if_pos rfl] at hanswer
    refine .inr ⟨hanswer, by rw [hanswer]; exact Request.status_finish_error r _, ?_⟩
    rw [hcontents, ← hst]
    rfl

/-- Where a look at a row is answered 200, a change or a removal is answered by an error, or counts
the row; then it is gone if it was to be removed, unless its key has been given to another one. -/
theorem counted_by_key (hspares : ∀ st, s.world.state = .open st → task.SparesOthers st table)
    (hstatus : (s.answer look).1.status = 200) :
    (∃ e, (s.answer r).1 = r.finish (.error e)) ∨ ∃ st st' ys, r.Counts s table id task st st' ys ∧
      (task = .delete id →
        ((s.answer r).2.answer look).1.status = 404 ∨ Store.Regained st table id ys) := by
  obtain ⟨q, st, u, e, hq, hst, hu, hrow⟩ := there_of_look hlook hs.keyed ht hstatus
  cases hc : task.command s.service table with
  | error e => exact .inl ⟨e, congrArg Prod.fst (Running.answer_asked hr (Task.outcome_error hc))⟩
  | ok c =>
    rcases answer_alters halters hr hc hst with
      ⟨text, hfails⟩ | ⟨name, st', n, heffect, hcontents, hanswer⟩
    · exact .inl ⟨_, hfails⟩
    obtain rfl | ⟨u, deed, hu, hdoes, hrun⟩ := heffect.done (hspares st hst)
    · exact .inl ⟨_, hanswer⟩
    obtain ⟨rfl, x, ys, hdone⟩ := Store.run_byId_some hdoes.ne_refuse hrow hrun
    refine .inr ⟨st, st', ys, ⟨hst, hcontents, u, name, deed, x, hu, hdoes, hanswer, hdone⟩, ?_⟩
    rintro rfl
    cases hdoes
    -- the tables are still there after what has been done to their rows
    obtain ⟨u', hu', -⟩ := Store.find?_layout (hdone.after ▸ Store.layout_after).symm hu
    exact hdone.gone.imp_left (look_gone hlook hq hcontents hu')

/-- **The requests for the row with a key agree**, in whatever state the service is.  Its registry
has been filled by documents, and the table is in it; a request is to change the row, in columns
that are described, or to remove it.

If a look at the row is answered 404, such a request fails in the database or for its payload, or is
answered 404 and changes nothing.  If the look is answered 200, the request is answered by an error,
or counts one: it has done its deed to the row with the key, and all other changes are what foreign
keys ask for, directly or after each other.  After a removal the look is answered 404, unless such a
change has given the key to another row of the table, by a foreign key on the key.  A change must
not be to a table with constraints for which other rows make way. -/
theorem rows_by_key (hknown : ∀ n ∈ task.named, n ∈ t.names) :
    ((s.answer look).1.status = 404 →
      r.Fails (s.answer r).1 ∨ (s.answer r).1 = r.finish (.error (Service.missing table id)) ∧
        (s.answer r).1.status = 404 ∧ (s.answer r).2.contents = s.contents) ∧
    ((∀ st, s.world.state = .open st → task.SparesOthers st table) → (s.answer look).1.status = 200 →
      (∃ e, (s.answer r).1 = r.finish (.error e)) ∨
        ∃ st st' ys, r.Counts s table id task st st' ys ∧
          (task = .delete id →
            ((s.answer r).2.answer look).1.status = 404 ∨ Store.Regained st table id ys)) :=
  ⟨missed_by_key hs ht halters hlook hr hknown, counted_by_key hs ht halters hlook hr⟩

end

/-! ## An attic -/

/-- Boxes with a label, and things that go with their box. -/
def atticTables : Schema.Document := ⟨[
  ⟨"boxes", [.column ⟨"label", "TEXT", false, false, false⟩]⟩,
  ⟨"things", [.relation ⟨"box", "INTEGER", true, ⟨"boxes", "id", false, some .cascade, none⟩⟩]⟩]⟩

/-- A box of books with two things in it. -/
def atticStore : Store.Contents := ⟨[
  ⟨"boxes", [⟨"label", .text, none, none⟩], [], [],
    Store.Entries.put .empty ⟨1, [.text "books"]⟩, 1⟩,
  ⟨"things", [⟨"box", .numeric, some .abort, none⟩], [],
    [⟨.cell 0, "boxes", some "id", .cascade, .noAction⟩],
    (Store.Entries.put .empty ⟨1, [.integer 1]⟩).put ⟨2, [.integer 1]⟩, 2⟩]⟩

/-- The service of the attic. -/
def attic : Running where
  registry := (Schema.compile Store.database ⟨[], none⟩ atticTables .empty).1
  world := ⟨.open atticStore, []⟩

/-- A request for the box with a key, with a body in JSON. -/
def boxRequest (method : Method) (key : String) : Request :=
  ⟨method, "/api/boxes/" ++ key, some "application/json", "\x7b\"label\": \"maps\"\x7d"⟩

/-- A box that there is not is neither changed nor removed.  The box that there is goes with what is
in it, and is not found again. -/
theorem attic_by_key :
    (∀ m ∈ [Method.put, .delete], (attic.answer (boxRequest m "7")).1.status = 404 ∧
      (attic.answer (boxRequest m "7")).2.contents = attic.contents) ∧
    ∃ st' x ys, (attic.answer (boxRequest .delete "1")).1 = .json 200 (counted "deleted" 1) ∧
      (attic.answer (boxRequest .delete "1")).2.contents = (attic.registry, .open st') ∧
      Store.DoneTo atticStore st' "boxes" 1 .remove x ys ∧
      ((attic.answer (boxRequest .delete "1")).2.answer (boxRequest .get "1")).1.status = 404 := by
  have hs : Schema.Filled attic.registry := .compile _ _ _ .empty
  obtain ⟨t, ht, hnames⟩ : ∃ t, attic.registry.get? "boxes" = some t ∧ t.names = ["id", "label"] :=
    Option.map_eq_some_iff.1 (by decide +kernel)
  have htable : parameter "boxes" = .ok "boxes" := by decide +kernel
  constructor
  · have hid : idParameter "7" = .ok 7 := by decide +kernel
    have hroute : Route.ofPath? "/api/boxes/7" = some (.row "boxes" "7") := by decide +kernel
    have hasked (m : Method) := Request.asked_row (r := boxRequest m "7") hroute htable hid
    have hlook : (attic.answer (boxRequest .get "7")).1.status = 404 := by decide +kernel
    have hmissed : ∀ m ∈ [Method.put, .delete],
      (attic.answer (boxRequest m "7")).1.status = 404 := by decide +kernel
    obtain ⟨row, hrow, hlabel⟩ : ∃ row, bodyAs Shape.row (boxRequest .put "7") = .ok row ∧
      row.names = ["label"] := map_eq_ok.1 (by decide +kernel)
    have hkept {m : Method} {task : Task} (hm : (boxRequest m "7").asked = .ok (.rows "boxes" task))
        (halters : task.Alters 7) (hknown : ∀ n ∈ task.named, n ∈ t.names)
        (hstatus : (attic.answer (boxRequest m "7")).1.status = 404) :
        (attic.answer (boxRequest m "7")).2.contents = attic.contents := by
      obtain ⟨hmissing, -⟩ := rows_by_key hs ht halters ((hasked .get).1 rfl) hm hknown
      rcases hmissing hlook with hfail | ⟨-, -, hcontents⟩
      · rcases Request.status_of_fails hfail with h | h <;> cases h.symm.trans hstatus
      · exact hcontents
    intro m hm
    refine ⟨hmissed m hm, ?_⟩
    rcases List.mem_pair.1 hm with rfl | rfl
    · refine hkept ((hasked .put).2.2 rfl row hrow) (.update row) ?_ (hmissed _ hm)
      rw [Task.named, hlabel, hnames]
      decide
    · exact hkept ((hasked .delete).2.1 rfl) .delete nofun (hmissed _ hm)
  · have hid : idParameter "1" = .ok 1 := by decide +kernel
    have hroute : Route.ofPath? "/api/boxes/1" = some (.row "boxes" "1") := by decide +kernel
    have hasked (m : Method) := Request.asked_row (r := boxRequest m "1") hroute htable hid
    have hlook : (attic.answer (boxRequest .get "1")).1.status = 200 := by decide +kernel
    have hremoved : (attic.answer (boxRequest .delete "1")).1 =
      .json 200 (counted "deleted" 1) := by decide +kernel
    have hkeys : ∀ u ∈ atticStore.tables, ∀ fk ∈ u.foreignKeys, fk.place ≠ .key := by decide +kernel
    obtain ⟨-, hthere⟩ :=
      rows_by_key hs ht .delete ((hasked .get).1 rfl) ((hasked .delete).2.1 rfl) nofun
    rcases hthere (fun _ _ => nofun) hlook with ⟨e, he⟩ | ⟨st, st', ys, hcounts, hgone⟩
    · have hstatus : e.status = 200 := (Request.status_finish_error _ e).symm.trans
        (congrArg Response.status (he.symm.trans hremoved))
      cases e <;> cases hstatus
    · obtain ⟨hst, hcontents, u, name, deed, x, -, hdoes, -, hdone⟩ := hcounts
      cases hst
      cases hdoes
      refine ⟨st', x, ys, hremoved, hcontents, hdone, (hgone rfl).resolve_right ?_⟩
      rintro ⟨-, u, hu, -, fk, hfk, hkey⟩
      exact hkeys u hu fk hfk hkey

/-! ## Profiles -/

/-- Profiles with a name. -/
def profiles : Schema.Document := ⟨[⟨"profiles", [.column ⟨"name", "TEXT", false, false, false⟩]⟩]⟩

/-- The tables of the profiles are there already. -/
def profilesContext : Schema.Context := ⟨["profiles", "accounts", "numbers"], none⟩

/-- The key of a profile is the number of an account, which has the value of a number or else 1; the
number of the second account is held by the first profile, which owns the first account. -/
def profilesStore : Store.Contents := ⟨[
  ⟨"numbers", [⟨"value", .numeric, none, none⟩, ⟨"holder", .numeric, none, none⟩],
    [⟨[.cell 0], none⟩], [⟨.cell 1, "profiles", some "id", .cascade, .noAction⟩],
    (Store.Entries.put .empty ⟨1, [.integer 1, .null]⟩).put ⟨2, [.integer 7, .integer 1]⟩, 2⟩,
  ⟨"accounts", [⟨"number", .numeric, none, some (.integer 1)⟩, ⟨"owner", .numeric, none, none⟩],
    [⟨[.cell 0], none⟩], [⟨.cell 1, "profiles", some "id", .cascade, .noAction⟩,
      ⟨.cell 0, "numbers", some "value", .setDefault, .noAction⟩],
    (Store.Entries.put .empty ⟨1, [.integer 1, .integer 1]⟩).put ⟨2, [.integer 7, .null]⟩, 2⟩,
  ⟨"profiles", [⟨"name", .text, none, none⟩], [],
    [⟨.key, "accounts", some "number", .noAction, .cascade⟩],
    (Store.Entries.put .empty ⟨1, [.text "one"]⟩).put ⟨7, [.text "seven"]⟩, 7⟩]⟩

/-- A request for the first profile. -/
def profileRequest (method : Method) : Request := ⟨method, "/api/profiles/1", none, ""⟩

/-- The service of the profiles, after its start. -/
def profilesService : Running where
  registry := (Schema.compile Store.database profilesContext profiles .empty).1
  world := ((Schema.start Store.database profilesContext profiles).outcome
    ⟨.open profilesStore, []⟩).2

theorem profiles_start :
    (Schema.start Store.database profilesContext profiles).outcome ⟨.open profilesStore, []⟩ =
      (.ok profilesService.registry, profilesService.world) := by
  have hok : ((Schema.start Store.database profilesContext profiles).outcome
    ⟨.open profilesStore, []⟩).1.isOk = true := by decide +kernel
  rcases h : (Schema.start Store.database profilesContext profiles).outcome
    ⟨.open profilesStore, []⟩ with ⟨e | registry, w⟩
  · rw [h] at hok
    cases hok
  · rw [Schema.registry_start h, profilesService, h]

/-- A removed profile is found again: the number of the second account has gone with the first
profile, so this account has the default instead, which becomes the key of the second profile. -/
theorem profile_found_again :
    (∀ u ∈ profilesStore.tables, u.name ∈ profilesContext.exempt) ∧
    (Schema.start Store.database profilesContext profiles).outcome ⟨.open profilesStore, []⟩ =
      (.ok profilesService.registry, profilesService.world) ∧
    (profilesService.registry.get? "profiles").isSome = true ∧
    (profileRequest .get).asked = .ok (.rows "profiles" (.get 1)) ∧
    (profileRequest .delete).asked = .ok (.rows "profiles" (.delete 1)) ∧
    (profilesService.answer (profileRequest .get)).1.status = 200 ∧
    (profilesService.answer (profileRequest .delete)).1 = .json 200 (counted "deleted" 1) ∧
    ((profilesService.answer (profileRequest .delete)).2.answer (profileRequest .get)).1.status =
      200 := by
  have hroute : Route.ofPath? "/api/profiles/1" = some (.row "profiles" "1") := by decide +kernel
  have htable : parameter "profiles" = .ok "profiles" := by decide +kernel
  have hid : idParameter "1" = .ok 1 := by decide +kernel
  have hasked (m : Method) := Request.asked_row (r := profileRequest m) hroute htable hid
  refine ⟨by decide +kernel, profiles_start, by decide +kernel, (hasked .get).1 rfl,
    (hasked .delete).2.1 rfl, ?_⟩
  decide +kernel

/-- **Requests with the key of a row may concern others**: a removed profile is found again, and a note
that gets the name of the plan takes its place. -/
theorem not_only_by_key :
    ((Schema.start Store.database profilesContext profiles).outcome ⟨.open profilesStore, []⟩ =
        (.ok profilesService.registry, profilesService.world) ∧
      (profilesService.answer (profileRequest .get)).1.status = 200 ∧
      (profilesService.answer (profileRequest .delete)).1 = .json 200 (counted "deleted" 1) ∧
      ((profilesService.answer (profileRequest .delete)).2.answer (profileRequest .get)).1.status =
        200) ∧
    (Schema.start Store.database filesContext files).outcome ⟨.open filesStore, []⟩ =
      (.ok filesService.registry, filesService.world) ∧
    (filesService.answer (fileRequest .get "3")).1.status = 200 ∧
    (filesService.answer (fileRequest .put "3")).1 = .json 200 (counted "updated" 1) ∧
    (Store.rowsIn "files" filesService.contents.2).length = 3 ∧
    Store.rowsIn "files" (filesService.answer (fileRequest .put "3")).2.contents.2 =
      [⟨3, [.text "plan", .null]⟩] := by
  obtain ⟨-, hstart, -, -, -, hlook, hremoved, hagain⟩ := profile_found_again
  exact ⟨⟨hstart, hlook, hremoved, hagain⟩, files_start, by decide +kernel⟩

end TableService.Http
