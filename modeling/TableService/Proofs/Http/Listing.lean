/-
  The columns that are read where a request names none.

  * `served_asked`: a request on the rows of a table makes one call, that of its command, or is
    refused before any.
  * `Task.columns_command`: the columns that a task reads are those that it names in a list of
    columns, or else those that are to be displayed.
  * `listing_columns`: so over a registry that documents have filled, a read without a list of
    columns and a look at one row name the columns that are not binary, in order, and at least the
    key; a binary column is read only where the list of a request has it.
-/
import TableService.Proofs.Http.Effect
import TableService.Proofs.Http.Vocabulary

namespace TableService

variable {σ : Type}

/-! ## Calls of a request -/

theorem events_watching_bind {α β : Type} (c : Call) (a : Action σ α) (f : α → β)
    (w : Logged (Watched σ)) :
    ((watching c a >>= fun x => pure (f x)).outcome w).2.state.events =
      w.state.events ++ [⟨c, w.state.state, (a.outcome w.unwatched).1.isOk⟩] := by
  rw [Action.outcome_bind]
  rcases h : a.outcome w.unwatched with ⟨_ | x, w'⟩
  · rw [outcome_watching h]
  · rw [outcome_watching h]
    rfl

/-- A command is run by one call. -/
theorem events_run (db : Database σ) (c : Command) (w : Logged (Watched σ)) :
    ∃ e, ((db.watched.run c).outcome w).2.state.events = w.state.events ++ [e] ∧
      e.call = c.call := by
  cases c with
  | insert c => exact ⟨_, events_watching_bind _ _ _ w, rfl⟩
  | select c => exact ⟨_, events_watching_bind _ _ _ w, rfl⟩
  | update c => exact ⟨_, events_watching_bind _ _ _ w, rfl⟩
  | delete c => exact ⟨_, events_watching_bind _ _ _ w, rfl⟩

namespace Http

theorem events_reply (table : String) (t : Task) (x : Outcome) (w : Logged (Watched σ)) :
    ((t.reply table x : Action (Watched σ) Response).outcome w).2.state.events =
      w.state.events := by
  obtain ⟨es, hevents, hes⟩ := t.composes_reply (composes_calls fun _ => False) table x w
  rw [hevents, List.eq_nil_iff_forall_not_mem.2 hes, List.append_nil]

theorem Task.command_watched (s : Service σ) (table : String) (t : Task) :
    t.command s.watched table = t.command s table := by
  cases t <;> rfl

/-- **A request on the rows of a table makes one call**, that of its command; if it has no command it
is refused before any. -/
theorem served_asked (s : Service σ) {r : Request} {table : String} {t : Task}
    (h : r.asked = .ok (.rows table t)) (w : Logged σ) :
    match t.command s table with
    | .error e => served s [r] w = [] ∧ ((respond s r).run w).1 = r.finish (.error e)
    | .ok c => ∃ e, served s [r] w = [e] ∧ e.call = c.call := by
  have hserved : served s [r] w =
      ((t.perform s.watched table).outcome w.watched).2.state.events := by
    rw [served, serve_cons, respond_eq, h]
    rfl
  have hwatched := t.command_watched s table
  rw [hserved]
  cases hc : t.command s table with
  | error e =>
    rw [hc] at hwatched
    rw [Task.outcome_error hwatched, respond_asked h (Task.outcome_error hc)]
    exact ⟨rfl, rfl⟩
  | ok c =>
    rw [hc] at hwatched
    obtain ⟨e, hevents, hcall⟩ := events_run s.database c w.watched
    refine ⟨e, ?_, hcall⟩
    rw [Task.outcome_ok hwatched, Service.watched, Action.outcome_bind]
    rcases hx : (s.database.watched.run c).outcome w.watched with ⟨_ | x, w'⟩ <;> rw [hx] at hevents
    · exact hevents
    · exact (events_reply table t x w').trans hevents

/-! ## Columns of a task -/

namespace Task

/-- The list of columns that a task asks for; it is empty if there is none. -/
def wanted : Task → List String
  | .read o => o.fields.getD []
  | .create _ | .get _ | .update _ _ | .delete _ => []

/-- The task reads rows and does not say which columns. -/
structure Lists (task : Task) : Prop where
  reads : task.Reads
  wanted : task.wanted = []

/-- The columns that a task reads: those that it asks for, or else those to be displayed. -/
def columns (t : TableDescription) (task : Task) : List String :=
  if task.wanted = [] then t.displayFields else task.wanted

variable {s : Service σ} {table : String} {t : TableDescription} {task : Task}

theorem shownColumns_eq (ht : s.registry.get? table = some t) (o : ReadOptions) :
    s.shownColumns table o.fields = some (columns t (.read o)) := by
  obtain ⟨fields, _, _, _, _⟩ := o
  have hshown : s.registry.displayFields table = some t.displayFields := by
    rw [Registry.displayFields, ht]
    rfl
  rcases fields with _ | _ | ⟨f, fs⟩
  · exact hshown
  · exact hshown
  · rfl

/-- **A task that reads a table reads these columns.** -/
theorem columns_command (ht : s.registry.get? table = some t) {c : Select}
    (h : task.command s table = .ok (.select c)) :
    c.table.name = table ∧ c.columns.map (·.name) = task.columns t := by
  cases task with
  | read o =>
    obtain ⟨c', hselection, hc⟩ := map_eq_ok.1 h
    cases hc
    obtain ⟨o', ho, hcheck⟩ := bind_eq_ok.1 hselection
    obtain ⟨htable, hcolumns, -⟩ := Select.check_ok (mapError_eq_ok.1 hcheck)
    have hvets : s.Vets table _ (s.checkRead table o) := Service.vets_checkRead o
    unfold Service.Vets at hvets
    rw [ht] at hvets
    obtain ⟨-, rfl⟩ := hvets.admitted ho
    refine ⟨htable, hcolumns.trans ?_⟩
    rw [shownColumns_eq ht]
    rfl
  | get id =>
    obtain ⟨c', hlookup, hc⟩ := map_eq_ok.1 h
    cases hc
    obtain ⟨_, -, hcheck⟩ := bind_eq_ok.1 hlookup
    obtain ⟨htable, hcolumns, -⟩ := Select.check_ok (mapError_eq_ok.1 hcheck)
    refine ⟨htable, hcolumns.trans ?_⟩
    rw [Service.optionsById, Registry.displayFields, ht]
    rfl
  | create row | update id row | delete id =>
    obtain ⟨c', -, hc⟩ := map_eq_ok.1 h
    cases hc

end Task

/-! ## What is displayed -/

open TableDescription (displayFields_sublist)

/-- The columns to be displayed are those that are not binary. -/
theorem mem_displayFields_iff {t : TableDescription} {e : String × FieldDescription}
    (he : e ∈ t.entries) : e.1 ∈ t.displayFields ↔ e.2.kind ≠ .binary := by
  constructor
  · intro h
    obtain ⟨e', he', hname⟩ := List.mem_map.1 h
    obtain ⟨hmem, hkind⟩ := List.mem_filter.1 he'
    -- a name has one entry
    obtain rfl : e' = e := List.inj_on_of_nodup_map t.distinct hmem he hname
    simpa using hkind
  · exact fun h => List.mem_map_of_mem (List.mem_filter.2 ⟨he, by simpa using h⟩)

theorem Select.text_of_columns {c : Select} (h : c.columns ≠ []) (d : Dialect) :
    ∃ rest, (c.statement d).sql = "SELECT " ++
      commaSpaced ((c.columns.map (·.name)).map d.quoteText) ++ " FROM " ++
        d.quoteText c.table.name ++ rest := by
  refine ⟨Test.whereSql d 0 c.tests ++ tailSql d c.order c.limit c.offset, ?_⟩
  have hcolumns : c.columnsSql d = commaSpaced ((c.columns.map (·.name)).map d.quoteText) := by
    rw [Select.columnsSql, if_neg (by simpa using h), List.map_map]
    rfl
  rw [← hcolumns, ← String.append_assoc]
  rfl

/-! ## Reads -/

section
variable {s : Service σ} (hs : Schema.Filled s.registry) {table : String} {t : TableDescription}
  (ht : s.registry.get? table = some t)
include hs ht

theorem columns_ne_nil (task : Task) : task.columns t ≠ [] := by
  unfold Task.columns
  split_ifs with h
  · exact List.ne_nil_of_mem (hs.keyed table t ht)
  · exact h

variable {r : Request} {task : Task} (hr : r.asked = .ok (.rows table task)) (w : Logged σ)
include hr

/-- A read without a list of columns is refused, or is one selection with the columns to be displayed
in its text. -/
theorem served_listing (h : task.Lists) :
    (served s [r] w = [] ∧ ((respond s r).run w).1.status = 400) ∨
      ∃ e c rest, served s [r] w = [e] ∧ e.call = .select c ∧
        c.columns.map (·.name) = t.displayFields ∧
        (c.statement s.database.dialect).sql = "SELECT " ++
          commaSpaced (t.displayFields.map s.database.dialect.quoteText) ++ " FROM " ++
            s.database.dialect.quoteText table ++ rest := by
  have hserved := served_asked s hr w
  cases hc : task.command s table with
  | error e =>
    have hvets := task.vets_command hs.keyed table
    unfold Service.Vets at hvets
    rw [ht] at hvets
    rw [hc] at hserved
    exact .inl ⟨hserved.1, by rw [hserved.2, Request.status_finish_error, hvets.refused hc]⟩
  | ok c =>
    rw [hc] at hserved
    obtain ⟨e, hevents, hcall⟩ := hserved
    obtain ⟨c, rfl⟩ := Task.command_of_reads h.reads hc
    obtain ⟨rfl, hcolumns⟩ := Task.columns_command ht hc
    have hsome : c.columns ≠ [] := fun hnil => columns_ne_nil hs ht task (by rw [← hcolumns, hnil]; rfl)
    obtain ⟨rest, htext⟩ := Select.text_of_columns hsome s.database.dialect
    rw [hcolumns] at htext
    rw [Task.columns, if_pos h.wanted] at hcolumns htext
    exact .inr ⟨e, c, rest, hevents, hcall, hcolumns, htext⟩

/-- A selection for a request lists columns, and a binary one only if the request does. -/
theorem served_binary {e : Event σ} (he : e ∈ served s [r] w) {c : Select}
    (hselect : e.call = .select c) : c.columns ≠ [] ∧
      ∀ f ∈ t.entries, f.2.kind = .binary → f.1 ∈ c.columns.map (·.name) → f.1 ∈ task.wanted := by
  have hserved := served_asked s hr w
  cases hc : task.command s table with
  | error e =>
    rw [hc] at hserved
    rw [hserved.1] at he
    cases he
  | ok command =>
    rw [hc] at hserved
    obtain ⟨e', hevents, hcall⟩ := hserved
    rw [hevents] at he
    obtain rfl := List.mem_singleton.1 he
    -- the only command whose call is a selection is a selection
    obtain rfl : command = .select c := by
      cases command <;> cases hcall.symm.trans hselect
      rfl
    obtain ⟨-, hcolumns⟩ := Task.columns_command ht hc
    refine ⟨fun hnil => columns_ne_nil hs ht task (by rw [← hcolumns, hnil]; rfl),
      fun f hf hbinary hmem => ?_⟩
    rw [hcolumns, Task.columns] at hmem
    split_ifs at hmem with h
    · exact absurd hbinary ((mem_displayFields_iff hf).1 hmem)
    · exact hmem

/-- **A read that names no columns reads those to be displayed.**  The registry has been filled by
documents, so a table in it is described with the key and the columns that were declared for it, in
order.  The columns to be displayed are those that are not binary, in this order, and the key is one
of them.  A read without a list of columns, and a look at one
row, either is refused before anything is asked, or sends one selection, which lists exactly these
columns in its text.  So a binary column is never read unless the list of a read has it, nor are all
columns read at once. -/
theorem listing_columns :
    (∃ (ctx : Schema.Context) (declared : Schema.Table), declared.name = table ∧
      t.names = "id" :: declared.fields.flatMap (·.columnNames ctx)) ∧
    (t.displayFields.Sublist t.names ∧ "id" ∈ t.displayFields ∧
      ∀ e ∈ t.entries, e.1 ∈ t.displayFields ↔ e.2.kind ≠ .binary) ∧
    (task.Lists →
      (served s [r] w = [] ∧ ((respond s r).run w).1.status = 400) ∨
      ∃ e c rest, served s [r] w = [e] ∧ e.call = .select c ∧
        c.columns.map (·.name) = t.displayFields ∧
        (c.statement s.database.dialect).sql = "SELECT " ++
          commaSpaced (t.displayFields.map s.database.dialect.quoteText) ++ " FROM " ++
            s.database.dialect.quoteText table ++ rest) ∧
    ∀ e ∈ served s [r] w, ∀ c, e.call = .select c → c.columns ≠ [] ∧
      ∀ f ∈ t.entries, f.2.kind = .binary → f.1 ∈ c.columns.map (·.name) → f.1 ∈ task.wanted :=
  ⟨(hs.described ht).names,
    ⟨displayFields_sublist t, hs.keyed table t ht, fun _ he => mem_displayFields_iff he⟩,
    served_listing hs ht hr w, fun _ he _ hc => served_binary hs ht hr w he hc⟩

end

/-! ## Pictures -/

/-- The table of what is asked, and the list of columns. -/
def Asked.listed : Asked → Option (String × List String)
  | .rows table t => some (table, t.wanted)
  | .health | .schema => none

theorem Request.asked_of_listed {r : Request} {table : String} {wanted : List String}
    (h : r.asked.map Asked.listed = .ok (some (table, wanted))) :
    ∃ t, r.asked = .ok (.rows table t) ∧ t.wanted = wanted := by
  obtain ⟨a, ha, h⟩ := map_eq_ok.1 h
  cases a with
  | health => cases h
  | schema => cases h
  | rows table t =>
    cases h
    exact ⟨t, ha, rfl⟩

/-- Pictures with a scan and a title. -/
def gallery : Schema.Document := ⟨[⟨"pictures", [.column ⟨"scan", "LONGBLOB", true, false, false⟩,
  .column ⟨"title", "TEXT", false, false, false⟩]⟩]⟩

/-- The gallery, its tables being kept as a list. -/
def galleryService : Service (List String) where
  database := .listing .postgres []
  registry := (Schema.compile (.listing .postgres []) ⟨[], none⟩ gallery .empty).1

/-- A look at a picture, and a read of all pictures with an empty list of columns. -/
def galleryRequests : List Request :=
  [shopRequest .get "/api/pictures/7" "",
    shopRequest .post "/api/pictures" "\x7b\"fields\": []\x7d"]

/-- The scans are not read unless they are listed. -/
theorem gallery_columns : ∃ t, galleryService.registry.get? "pictures" = some t ∧
    t.names = ["id", "scan", "title"] ∧
    ∀ r ∈ galleryRequests, ∃ e c rest, served galleryService [r] ⟨[], []⟩ = [e] ∧
      e.call = .select c ∧
      (c.statement .postgres).sql = "SELECT \"id\", \"title\" FROM \"pictures\"" ++ rest := by
  have hs : Schema.Filled galleryService.registry := .compile _ _ _ .empty
  obtain ⟨t, ht⟩ : ∃ t, galleryService.registry.get? "pictures" = some t :=
    Option.isSome_iff_exists.1 (by decide +kernel)
  have hcolumns : (galleryService.registry.get? "pictures").map (fun t => (t.names, t.displayFields)) =
      some (["id", "scan", "title"], ["id", "title"]) := by decide +kernel
  rw [ht] at hcolumns
  obtain ⟨hnames, hshown⟩ := Prod.mk.inj (Option.some.inj hcolumns)
  refine ⟨t, ht, hnames, fun r hr => ?_⟩
  have hreads : r.Reads := by
    rcases List.mem_pair.1 hr with rfl | rfl
    · exact .inl rfl
    · exact .inr (.inr ⟨rfl, "pictures", by decide +kernel⟩)
  have hlisted : ∀ r ∈ galleryRequests,
    r.asked.map Asked.listed = .ok (some ("pictures", [])) := by decide +kernel
  have hasks : ∀ r ∈ galleryRequests, (served galleryService [r] ⟨[], []⟩).length = 1 := by
    decide +kernel
  obtain ⟨task, hasked, hwanted⟩ := Request.asked_of_listed (hlisted r hr)
  obtain ⟨-, -, hlisting, -⟩ := listing_columns hs ht hasked ⟨[], []⟩
  rcases hlisting ⟨Request.reads_asked hreads hasked, hwanted⟩ with ⟨hnone, -⟩ | ⟨e, c, rest, hserved, hselect, -, htext⟩
  · exact absurd (hasks r hr) (by rw [hnone]; decide)
  · refine ⟨e, c, rest, hserved, hselect, htext.trans ?_⟩
    rw [hshown]
    exact congrArg (· ++ rest) (by decide +kernel)

end Http
end TableService
