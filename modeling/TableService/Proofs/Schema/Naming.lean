/-
  The names under which the tables of a document are created.

  * `createStatement` is the statement that creates a table; it can be written exactly if the name of
    the table is valid (`createStatement_ok_iff`).
  * `Database.Writes`: creating a table fails only where its statement cannot be written, as on
    `Database.script`.
  * `Creating.writes`: on such a database the creation of plans ends at the first name that is not
    valid.
  * `names_checked_late`: a document has plans whatever the names of its tables are.  So a compilation
    ends with a fault of a name exactly if a table that is to be created has no valid one; by then
    all tables have been registered, and those before it created.
  * `Database.ChecksNames` holds of the embedded database and of servers; `valid_registered`: so a
    start that succeeds registers tables with valid names only.
-/
import TableService.Proofs.Query.Acceptance
import TableService.Proofs.Schema.Failure
import TableService.Proofs.Schema.Registration
import TableService.Server.Remote
import TableService.Store.Connection

namespace TableService

variable {σ : Type}

/-! ## Statements -/

/-- The statement that creates a table, if it can be written. -/
def createStatement (d : Dialect) (name : String) (definitions : List String) :
    Except QueryError String :=
  (Identifier.ofName name).map fun table => createTableSql d table definitions

/-- **A table can be created exactly under a valid name.** -/
theorem createStatement_ok_iff {d : Dialect} {name : String} {definitions : List String} :
    (∃ sql, createStatement d name definitions = .ok sql) ↔ Identifier.Valid name :=
  map_ok_iff.trans Identifier.ofName_ok_iff

theorem createStatement_error {d : Dialect} {name : String} {definitions : List String}
    {e : QueryError} (h : createStatement d name definitions = .error e) :
    ∃ fault, Identifier.check name = .error fault ∧ e = .identifier fault := by
  unfold createStatement Identifier.ofName at h
  cases hc : Identifier.check name with
  | ok table =>
    rw [hc] at h
    cases h
  | error fault =>
    rw [hc] at h
    cases h
    exact ⟨fault, rfl, rfl⟩

/-- Creating a table fails exactly where its statement cannot be written. -/
def Database.Writes (db : Database σ) : Prop :=
  ∀ name definitions w, ((db.createTable name definitions).outcome w).1 =
    ((createStatement db.dialect name definitions).mapError QueryError.toError).map fun _ => ()

section
variable {db : Database σ} (hdb : db.Writes) {name : String} {definitions : List String}
  {w w' : Logged σ}
include hdb

theorem valid_of_created (h : (db.createTable name definitions).outcome w = (.ok (), w')) :
    Identifier.Valid name := by
  have hw := hdb name definitions w
  rw [h] at hw
  obtain ⟨sql, hsql, -⟩ := map_eq_ok.1 hw.symm
  exact createStatement_ok_iff.1 ⟨sql, mapError_eq_ok.1 hsql⟩

theorem fault_of_refused {e : Error}
    (h : (db.createTable name definitions).outcome w = (.error e, w')) :
    ∃ fault, Identifier.check name = .error fault ∧ e = .validation fault.message := by
  have hw := hdb name definitions w
  rw [h] at hw
  cases hs : createStatement db.dialect name definitions with
  | ok sql =>
    rw [hs] at hw
    cases hw
  | error q =>
    obtain ⟨fault, hfault, rfl⟩ := createStatement_error hs
    rw [hs] at hw
    cases hw
    exact ⟨fault, hfault, rfl⟩

end

/-- A database that keeps the statements that create its tables, and nothing else. -/
def Database.script (d : Dialect) : Database (List String) where
  dialect := d
  createTable name definitions := do
    let sql ← Action.ofQuery (createStatement d name definitions)
    Action.setState ((← Action.state) ++ [sql])
  insert _ := return ()
  select _ := return []
  update _ := return 0
  delete _ := return 0
  execute _ := return ()
  fetch _ := return []
  tableExists _ := return true
  disconnect := return ()

theorem writes_script (d : Dialect) : (Database.script d).Writes := by
  intro name definitions w
  dsimp only [Database.script]
  cases createStatement d name definitions <;> rfl

/-- A table is created only under a valid name. -/
def Database.ChecksNames (db : Database σ) : Prop :=
  ∀ {name definitions w w'}, (db.createTable name definitions).outcome w = (.ok (), w') →
    Identifier.Valid name

theorem valid_of_ofName_bind {α : Type} {name : String} {f : Identifier → Action σ α} {a : α}
    {w w' : Logged σ}
    (h : (Action.ofQuery (Identifier.ofName name) >>= f).outcome w = (.ok a, w')) :
    Identifier.Valid name := by
  obtain ⟨table, hname, -⟩ := Action.outcome_ofQuery_bind_eq_ok.1 h
  exact Identifier.ofName_ok_iff.1 ⟨table, hname⟩

theorem checksNames_store : Store.database.ChecksNames := valid_of_ofName_bind

theorem Server.checksNames_remote (r : Remote σ) : r.database.ChecksNames := valid_of_ofName_bind

theorem checksNames_script (d : Dialect) : (Database.script d).ChecksNames :=
  valid_of_created (writes_script d)

namespace Schema

/-! ## Creation -/

/-- **The creation of plans ends at the first name that is not valid**, after the creation of those
before it. -/
theorem Creating.writes {db : Database σ} (hdb : db.Writes) {ps : List Plan} {w : Logged σ}
    {es : List (Event σ)} {out : Except Error Unit × Logged σ} (h : Creating db ps w es out) :
    (out.1 = .ok () ∧ ∀ p ∈ ps, Identifier.Valid p.name) ∨
      ∃ first p rest fault, ps = first ++ p :: rest ∧ (∀ q ∈ first, Identifier.Valid q.name) ∧
        Identifier.check p.name = .error fault ∧ out.1 = .error (.validation fault.message) ∧
        es.map Event.call = (first ++ [p]).map (·.call db.dialect) := by
  induction h with
  | nil => exact .inl ⟨rfl, by simp⟩
  | @failed p ps w e w' hr =>
    obtain ⟨fault, hfault, rfl⟩ := fault_of_refused hdb hr
    exact .inr ⟨[], p, ps, fault, rfl, by simp, hfault, rfl, rfl⟩
  | @cons p ps w w' es out hr _ ih =>
    have hp : Identifier.Valid p.name := valid_of_created hdb hr
    rcases ih with ⟨hout, hall⟩ | ⟨first, q, rest, fault, rfl, hfirst, hfault, hout, hes⟩
    · exact .inl ⟨hout, List.forall_mem_cons.2 ⟨hp, hall⟩⟩
    · refine .inr ⟨p :: first, q, rest, fault, rfl, List.forall_mem_cons.2 ⟨hp, hfirst⟩, hfault,
        hout, ?_⟩
      rw [List.map_cons, hes]
      rfl

theorem conclude_ne_validation (created : List String) (blocked : List Plan) (w : Logged σ)
    (text : String) : ((conclude created blocked).outcome w).1 ≠ .error (.validation text) := by
  cases blocked with
  | nil => exact nofun
  | cons p ps =>
    rw [conclude_cons]
    exact nofun

theorem not_valid_of_fault {name : String} {fault : Identifier.Fault}
    (h : Identifier.check name = .error fault) : ¬ Identifier.Valid name := by
  intro hv
  obtain ⟨i, hi⟩ := Identifier.check_ok_iff.2 hv
  cases hi.symm.trans h

/-- What a compilation leaves behind that ends at a table whose name is not valid. -/
structure StoppedBy (db : Database σ) (ctx : Context) (doc : Document) (plans : List Plan)
    (r : Registry) (w : Logged σ) (text : String) : Prop where
  /-- All tables are registered. -/
  registered : (compile db ctx doc r).1 = register db.dialect plans r
  /-- The tables before it have been created, and nothing is tried after it. -/
  calls : ∃ (first : List Plan) (p : Plan) (fault : Identifier.Fault),
    first ++ [p] ⊆ plans ∧ (∀ q ∈ first, Identifier.Valid q.name) ∧
      Identifier.check p.name = .error fault ∧ text = fault.message ∧
      (eventsOf (compile db.watched ctx doc r).2 w).map Event.call =
        (first ++ [p]).map (·.call db.dialect)

/-- **The names of tables are checked only where these are created.**  The statement of a planned
table can be written exactly if its name is valid.  So, where creating a table fails only for want of
its statement, a compilation ends with a fault of a name exactly if one of the tables from which no
cycle can be reached has no valid name; then all tables are registered and some may have been
created. -/
theorem names_checked_late {db : Database σ} (hdb : db.Writes) {ctx : Context} {doc : Document}
    {plans : List Plan} (hp : doc.plans ctx = .ok plans) (r : Registry) (w : Logged σ) :
    (∀ p ∈ plans, (∃ sql, createStatement db.dialect p.name (p.definitions db.dialect) = .ok sql) ↔
      Identifier.Valid p.name) ∧
    ((∃ text, ((compile db ctx doc r).2.outcome w).1 = .error (.validation text)) ↔
      ∃ t ∈ doc.names, ¬ Identifier.Valid t ∧ ¬ ReachesCycle (doc.Refers ctx) t) ∧
    ∀ text, ((compile db ctx doc r).2.outcome w).1 = .error (.validation text) →
      StoppedBy db ctx doc plans r w text := by
  obtain ⟨order, blocked, hem⟩ := Emission.exists [] plans
  obtain ⟨out, hc, hok, herror⟩ := compile_creating db hp hem r w
  refine ⟨fun p _ => createStatement_ok_iff, ?_⟩
  rcases hc.writes hdb with ⟨hout, hall⟩ | ⟨first, p, rest, fault, ho, hfirst, hfault, hout, hes⟩
  · have hend : ∀ text, ((compile db ctx doc r).2.outcome w).1 ≠ .error (.validation text) := by
      intro text
      rw [hok hout]
      exact conclude_ne_validation _ _ _ _
    refine ⟨⟨fun ⟨text, h⟩ => absurd h (hend text), ?_⟩, fun text h => absurd h (hend text)⟩
    rintro ⟨t, ht, hvalid, hcycle⟩
    obtain ⟨q, hq, rfl⟩ := List.mem_map.1 ((mem_emission_iff hp hem).2 ⟨ht, hcycle⟩)
    exact absurd (hall q hq) hvalid
  · have hend := herror _ hout
    have hp' : p ∈ order := by
      rw [ho]
      exact List.mem_append_right _ List.mem_cons_self
    refine ⟨⟨fun _ => ?_, fun _ => ⟨_, hend⟩⟩, fun text h => ?_⟩
    · obtain ⟨hn, hcycle⟩ := (mem_emission_iff hp hem).1 (List.mem_map_of_mem hp')
      exact ⟨p.name, hn, not_valid_of_fault hfault, hcycle⟩
    · cases hend.symm.trans h
      have hsub : first ++ [p] ⊆ plans := by
        intro q hq
        refine hem.perm.subset (List.mem_append_left _ ?_)
        rw [ho]
        rw [List.mem_append, List.mem_singleton] at hq
        rw [List.mem_append, List.mem_cons]
        exact hq.imp_right .inl
      exact ⟨by rw [compile_eq hp], first, p, fault, hsub, hfirst, hfault, rfl, hes⟩

/-! ## Services -/

theorem valid_createEach {db : Database σ} (hdb : db.ChecksNames) {ps : List Plan} {w w' : Logged σ}
    (h : (createEach db ps).outcome w = (.ok (), w')) : ∀ p ∈ ps, Identifier.Valid p.name := by
  induction ps generalizing w with
  | nil => exact List.forall_mem_nil _
  | cons p ps ih =>
    obtain ⟨_, w₁, hcreate, h⟩ := Action.outcome_bind_eq_ok.1 h
    obtain ⟨_, w₂, -, h⟩ := Action.outcome_bind_eq_ok.1 h
    exact List.forall_mem_cons.2 ⟨hdb hcreate, ih h⟩

/-- **A start that succeeds registers tables with valid names only.** -/
theorem valid_registered {db : Database σ} (hdb : db.ChecksNames) {ctx : Context} {doc : Document}
    {w w' : Logged σ} {registry : Registry}
    (h : (start db ctx doc).outcome w = (.ok registry, w')) {name : String} {t : TableDescription}
    (ht : registry.get? name = some t) : Identifier.Valid name := by
  obtain ⟨plans, order, _, _, hp, hem, -, hcreate, -, -⟩ := start_ok h
  obtain ⟨plans', hp', p, hmem, rfl, -⟩ := (get?_start h).1 ht
  obtain rfl : plans = plans' := Except.ok.inj (hp.symm.trans hp')
  have hperm := hem.perm
  rw [List.append_nil] at hperm
  exact valid_createEach hdb hcreate p (hperm.mem_iff.2 hmem)

/-! ## A table without a name -/

/-- Rooms, and a table without a name. -/
def nameless : Document := ⟨[⟨"rooms", []⟩, ⟨"", []⟩]⟩

theorem nameless_plans : nameless.plans ⟨[], none⟩ = .ok [⟨"rooms", [], []⟩, ⟨"", [], []⟩] := by
  decide +kernel

theorem nameless_emission : Emission [] [⟨"rooms", [], []⟩, ⟨"", [], []⟩]
    [⟨"rooms", [], []⟩, ⟨"", [], []⟩] [] :=
  @Emission.emit [] [] ⟨"rooms", [], []⟩ [⟨"", [], []⟩] _ _ (by decide) (by decide)
    (@Emission.emit ["rooms"] [] ⟨"", [], []⟩ [] _ _ (by decide) (by decide) (.done (by decide)))

/-- The table without a name stops the creation, in any order of the tables. -/
theorem nameless_checked_late : (Database.script .sqlite).Writes ∧
    nameless.plans ⟨[], none⟩ = .ok [⟨"rooms", [], []⟩, ⟨"", [], []⟩] ∧
    ∃ text, StoppedBy (.script .sqlite) ⟨[], none⟩ nameless [⟨"rooms", [], []⟩, ⟨"", [], []⟩]
      .empty ⟨[], []⟩ text := by
  obtain ⟨-, hiff, hstop⟩ :=
    names_checked_late (writes_script .sqlite) nameless_plans .empty ⟨[], []⟩
  have hacyclic : ¬ ReachesCycle (nameless.Refers ⟨[], none⟩) "" := by
    rintro ⟨c, -, hc⟩
    obtain ⟨b, hb, -⟩ := Relation.TransGen.head'_iff.1 hc
    simp [Document.Refers, nameless] at hb
  obtain ⟨text, htext⟩ := hiff.2 ⟨"", by decide, fun h => h.1 rfl, hacyclic⟩
  exact ⟨writes_script .sqlite, nameless_plans, text, hstop text htext⟩

/-- The document has plans, of which one has no statement.  This is found when the rooms have been
created and both tables are registered. -/
theorem nameless_found_late : (∃ plans, nameless.plans ⟨[], none⟩ = .ok plans ∧
      ∃ p ∈ plans, ¬ ∃ sql, createStatement .sqlite p.name (p.definitions .sqlite) = .ok sql) ∧
    ((compile (Database.script .sqlite) ⟨[], none⟩ nameless .empty).2.outcome ⟨[], []⟩).1 =
      .error (.validation "Identifier cannot be empty") ∧
    ((compile (Database.script .sqlite) ⟨[], none⟩ nameless .empty).2.outcome ⟨[], []⟩).2.state =
      ["CREATE TABLE IF NOT EXISTS \"rooms\" (\"id\" INTEGER PRIMARY KEY AUTOINCREMENT)"] ∧
    (compile (Database.script .sqlite) ⟨[], none⟩ nameless .empty).1.names = ["", "rooms"] := by
  refine ⟨⟨_, nameless_plans, ⟨"", [], []⟩, by simp, ?_⟩, ?_⟩
  · rw [createStatement_ok_iff]
    exact fun h => h.1 rfl
  · rw [compile_eq nameless_plans, nameless_emission.createAll_eq]
    decide +kernel

end Schema

end TableService
