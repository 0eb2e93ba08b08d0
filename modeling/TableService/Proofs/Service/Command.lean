/-
  The commands that the requests to a service come to.

  * `Service.selection` and the others check a request against the registry and say which command
    it comes to; `Service.readRows_eq` and the others: the service checks a request, and then runs
    this one command.
  * `Command.Within`: a command mentions only columns that are registered for its table, and a
    selection mentions some.
  * `Service.Vets`: a check fails for a table that is not registered, and what it admits for one
    that is registered meets a condition; `vets_selection` and the others: a command is within the
    registry, and so are the columns of its request.
-/
import Mathlib.Data.List.Basic
import TableService.Proofs.Calls
import TableService.Proofs.Query.Request
import TableService.Service

namespace TableService

/-! ## What a command mentions -/

/-- The column of a test, unless it is constant. -/
def Test.column? : Test → Option Identifier
  | .compare column _ _ | .member column _ _ _ => some column
  | .constant _ => none

namespace Command

/-- The table of a command. -/
def table : Command → Identifier
  | .insert c => c.table
  | .select c => c.table
  | .update c => c.table
  | .delete c => c.table

/-- The columns to be read, and those to order by. -/
def shown : Command → List Identifier
  | .select c => c.columns ++ c.order.map OrderTerm.column
  | .insert _ | .update _ | .delete _ => []

/-- The columns that get values, that are read, that rows are ordered by, and that they are tested
by. -/
def mentioned (c : Command) : List Identifier :=
  c.row.map Prod.fst ++ c.shown ++ c.tests.filterMap Test.column?

/-- The command is on a table and mentions only columns that the table is described with, at least
one if it reads the table. -/
structure Within (table : String) (t : TableDescription) (c : Command) : Prop where
  table : c.table.name = table
  known : ∀ i ∈ c.mentioned, i.name ∈ t.names
  listed : ∀ s, c = .select s → s.columns ≠ []

end Command

/-- Every table has its key among the columns to display. -/
def Registry.Keyed (r : Registry) : Prop :=
  ∀ name t, r.get? name = some t → Identifier.id.name ∈ t.displayFields

theorem Test.column_ofOperator {column i : Identifier} {op : Operator} {operand : Json}
    (h : (ofOperator column op operand).column? = some i) : i = column := by
  unfold ofOperator at h
  split at h <;> cases h <;> rfl

theorem Test.column_ofCondition {c : String × Condition} {tests : List Test} {t : Test}
    {i : Identifier} (h : ofCondition c = .ok tests) (ht : t ∈ tests) (hi : t.column? = some i) :
    i.name = c.1 := by
  obtain ⟨field, condition⟩ := c
  obtain ⟨column, hcolumn, h⟩ := bind_eq_ok.1 h
  obtain rfl : column.name = field := Identifier.name_of_ofName hcolumn
  suffices i = column from congrArg Identifier.name this
  cases condition with
  | literal value =>
    cases h
    obtain rfl := List.mem_singleton.1 ht
    cases hi
    rfl
  | operators entries =>
    obtain ⟨e, -, he⟩ := forall₂_mem_right (mapM_eq_ok.1 h) t ht
    unfold ofEntry at he
    split at he
    · cases he
      exact column_ofOperator hi
    · cases he

/-- The tests of a filter are on its fields. -/
theorem Filter.column_testsOf {filter : Option Filter} {tests : List Test} {i : Identifier}
    (h : testsOf filter = .ok tests) (hmem : i ∈ tests.filterMap Test.column?) :
    i.name ∈ (filter.map Named.names).getD [] := by
  obtain ⟨t, ht, hi⟩ := List.mem_filterMap.1 hmem
  cases filter with
  | none =>
    cases h
    cases ht
  | some f =>
    obtain ⟨groups, hgroups, rfl⟩ := map_eq_ok.1 h
    obtain ⟨group, hgroup, ht⟩ := List.mem_flatten.1 ht
    obtain ⟨c, hc, hcondition⟩ := forall₂_mem_right (mapM_eq_ok.1 hgroups) group hgroup
    rw [Test.column_ofCondition hcondition ht hi]
    exact List.mem_map_of_mem hc

/-! ## The order of a request -/

/-- An entry of an order has the form of one: a word, which may be followed by a direction. -/
def OrderTerm.WellFormed (entry : String) : Prop :=
  ∃ field, Text.words entry = [field] ∨ ∃ word, Text.words entry = [field, word] ∧
    (Text.upper word = "ASC" ∨ Text.upper word = "DESC")

theorem OrderTerm.ofEntry_ok {entry : String} {term : OrderTerm} (h : ofEntry entry = .ok term) :
    WellFormed entry ∧ (Text.words entry).head? = some term.column.name := by
  unfold ofEntry at h
  split at h
  · rename_i field hwords
    obtain ⟨column, hcolumn, h⟩ := bind_eq_ok.1 h
    cases h
    rw [← Identifier.name_of_ofName hcolumn] at hwords
    exact ⟨⟨_, .inl hwords⟩, by rw [hwords]; rfl⟩
  · rename_i field word hwords
    obtain ⟨column, hcolumn, h⟩ := bind_eq_ok.1 h
    rw [← Identifier.name_of_ofName hcolumn] at hwords
    dsimp only at h
    split at h
    · rename_i direction hdirection
      cases h
      refine ⟨⟨_, .inr ⟨word, hwords, ?_⟩⟩, by rw [hwords]; rfl⟩
      unfold Direction.ofWord? at hdirection
      split_ifs at hdirection with hasc hdesc
      · exact .inl hasc
      · exact .inr hdesc
    · cases h
  · cases h

/-- The terms of an order are on the columns that it mentions, and its entries are well-formed. -/
theorem OrderTerm.ofEntries_ok {entries : Option (List String)} {order : List OrderTerm}
    (h : ofEntries entries = .ok order) :
    (∀ e ∈ entries.getD [], WellFormed e) ∧
      ∀ term ∈ order, term.column.name ∈ Service.orderColumns entries := by
  have hall := mapM_eq_ok.1 h
  refine ⟨fun e he => ?_, fun term hterm => ?_⟩
  · obtain ⟨term, -, hterm⟩ := forall₂_mem_left hall e he
    exact (ofEntry_ok hterm).1
  · obtain ⟨e, he, hterm⟩ := forall₂_mem_right hall term hterm
    exact List.mem_filterMap.2 ⟨e, he, (ofEntry_ok hterm).2⟩

/-! ## From requests to commands -/

/-- The columns that a read names: those of the filter, of the order, and those to be read. -/
def ReadOptions.named (o : ReadOptions) : List String :=
  (o.filter.map Named.names).getD [] ++ Service.orderColumns o.orderBy ++ o.fields.getD []

theorem QueryError.status_toError (e : QueryError) : e.toError.status = 400 := by
  cases e with
  | emptyRow w => cases w <;> rfl
  | _ => rfl

namespace Service

variable {σ : Type} (s : Service σ) (table : String)

/-- The command of a read. -/
def selection (o : ReadOptions) : Except Error Select := do
  (Select.check table (← s.checkRead table o)).mapError QueryError.toError

/-- The options of the read that looks up the row with a key. -/
def optionsById (id : Int64) : ReadOptions :=
  { ReadOptions.all.withFilter (byId id) with
    limit := some 1, fields := s.registry.displayFields table }

/-- The command that looks up the row with a key. -/
def lookup (id : Int64) : Except Error Select := do
  discard (s.description table)
  (Select.check table (s.optionsById table id)).mapError QueryError.toError

/-- The command that adds a row. -/
def insertion (row : Row) : Except Error Insert := do
  s.checkRow table row
  (Insert.check table row).mapError QueryError.toError

/-- The command that changes the row with a key. -/
def revision (id : Int64) (row : Row) : Except Error Update := do
  s.checkRow table row
  (Update.check table row (some (byId id))).mapError QueryError.toError

/-- The command that removes the row with a key. -/
def removal (id : Int64) : Except Error Delete := do
  discard (s.description table)
  (Delete.check table (some (byId id))).mapError QueryError.toError

/-- The number of rows that a command has found by a key; there is a row with the key. -/
def found (id : Int64) : Nat → Action σ Nat
  | 0 => throw (missing table id)
  | n + 1 => return n + 1

variable {s table}

theorem readRows_eq (o : ReadOptions) :
    s.readRows table o = Action.ofExcept (s.selection table o) >>= s.database.select := by
  unfold readRows selection Database.read
  cases s.checkRead table o <;> rfl

theorem getRow_eq (id : Int64) :
    s.getRow table id = Action.ofExcept (s.lookup table id) >>= fun c =>
      s.database.select c >>= fun
        | row :: _ => pure row
        | [] => throw (missing table id) := by
  have h : s.getRow table id = discard (Action.ofExcept (s.description table)) >>= fun _ =>
      (Action.ofQuery (Select.check table (s.optionsById table id)) >>= s.database.select) >>= fun
        | row :: _ => pure row
        | [] => throw (missing table id) := rfl
  rw [h, lookup]
  cases s.description table with
  | error e => rfl
  | ok t => cases Select.check table (s.optionsById table id) <;> rfl

theorem createRow_eq (row : Row) :
    s.createRow table row = Action.ofExcept (s.insertion table row) >>= fun c =>
      s.database.insert c >>= fun _ => Action.info ("Created row in " ++ table) := by
  unfold createRow insertion Database.create
  cases s.checkRow table row with
  | error e => rfl
  | ok => cases Insert.check table row <;> rfl

theorem updateRow_eq (id : Int64) (row : Row) :
    s.updateRow table id row = Action.ofExcept (s.revision table id row) >>= fun c =>
      s.database.update c >>= found table id := by
  have h : s.updateRow table id row = Action.ofExcept (s.checkRow table row) >>= fun _ =>
      (Action.ofQuery (Update.check table row (some (byId id))) >>= s.database.update) >>=
        found table id := by
    unfold updateRow
    refine bind_congr fun _ => bind_congr fun n => ?_
    cases n <;> rfl
  rw [h, revision]
  cases s.checkRow table row with
  | error e => rfl
  | ok => cases Update.check table row (some (byId id)) <;> rfl

theorem deleteRow_eq (id : Int64) :
    s.deleteRow table id = Action.ofExcept (s.removal table id) >>= fun c =>
      s.database.delete c >>= found table id := by
  have h : s.deleteRow table id = discard (Action.ofExcept (s.description table)) >>= fun _ =>
      (Action.ofQuery (Delete.check table (some (byId id))) >>= s.database.delete) >>=
        found table id := by
    unfold deleteRow
    refine bind_congr fun _ => bind_congr fun n => ?_
    cases n <;> rfl
  rw [h, removal]
  cases s.description table with
  | error e => rfl
  | ok => cases Delete.check table (some (byId id)) <;> rfl

end Service

/-! ## Checks -/

/-- A check that fails only for a bad request, and what it admits meets a condition. -/
structure Admits {α : Type} (P : α → Prop) (x : Except Error α) : Prop where
  refused : ∀ {e}, x = .error e → e.status = 400
  admitted : ∀ {a}, x = .ok a → P a

section
variable {α β : Type} {P : α → Prop} {Q : β → Prop}

theorem Admits.bind {x : Except Error α} {f : α → Except Error β} (h : Admits P x)
    (hf : ∀ a, P a → Admits Q (f a)) : Admits Q (x >>= f) where
  refused he := by
    rcases bind_eq_error.1 he with he | ⟨a, ha, he⟩
    · exact h.refused he
    · exact (hf a (h.admitted ha)).refused he
  admitted hb := by
    obtain ⟨a, ha, hb⟩ := bind_eq_ok.1 hb
    exact (hf a (h.admitted ha)).admitted hb

theorem Admits.pure {a : α} (h : P a) : Admits P (.ok a) where
  refused he := by cases he
  admitted ha := by cases ha; exact h

/-- What a query is refused for makes it a bad request. -/
theorem Admits.query {x : Except QueryError α} (h : ∀ a, x = .ok a → P a) :
    Admits P (x.mapError QueryError.toError) where
  refused he := by
    cases x with
    | ok a => cases he
    | error e =>
      cases he
      exact e.status_toError
  admitted ha := h _ (mapError_eq_ok.1 ha)

theorem admits_checkColumns (t : TableDescription) (table : String) (columns : List String) :
    Admits (fun _ => ∀ c ∈ columns, c ∈ t.names) (Service.checkColumns t table columns) := by
  unfold Service.checkColumns
  split
  · exact ⟨fun he => by cases he; rfl, fun ha => by cases ha⟩
  · rename_i h
    refine .pure fun c hc => ?_
    simpa [Named.contains_iff_mem] using List.find?_eq_none.1 h c hc

end

/-- The columns of a table pass the check. -/
theorem Service.checkColumns_of_mem {t : TableDescription} {columns : List String}
    (h : ∀ c ∈ columns, c ∈ t.names) (table : String) : checkColumns t table columns = .ok () := by
  have hnone : columns.find? (fun c => !t.contains c) = none :=
    List.find?_eq_none.2 fun c hc => by simpa [Named.contains_iff_mem] using h c hc
  rw [checkColumns, hnone]

namespace Service

variable {σ α β : Type} {s : Service σ} {table : String}

/-- A check of a request for a table: the table is not found unless it is registered, and what is
admitted for one that is registered meets a condition. -/
def Vets (s : Service σ) (table : String) (P : TableDescription → α → Prop) (x : Except Error α) :
    Prop :=
  match s.registry.get? table with
  | none => x = .error (.notFound ("Table " ++ table ++ " not found"))
  | some t => Admits (P t) x

theorem vets_description : Vets s table (fun t t' => t' = t) (s.description table) := by
  unfold Vets description
  cases s.registry.get? table with
  | none => rfl
  | some t => exact .pure rfl

theorem vets_discarded :
    Vets s table (fun _ _ => True) (discard (s.description table)) := by
  unfold Vets description
  cases s.registry.get? table with
  | none => rfl
  | some t => exact .pure trivial

theorem Vets.bind {P : TableDescription → α → Prop} {Q : TableDescription → β → Prop}
    {x : Except Error α} {f : α → Except Error β} (h : Vets s table P x)
    (hf : ∀ t a, s.registry.get? table = some t → P t a → Admits (Q t) (f a)) :
    Vets s table Q (x >>= f) := by
  unfold Vets at h ⊢
  cases hr : s.registry.get? table with
  | none =>
    rw [hr] at h
    exact bind_eq_error.2 (.inl h)
  | some t =>
    rw [hr] at h
    exact Admits.bind h (hf t · hr)

/-- The same of what is made of the result. -/
theorem Vets.map {P : TableDescription → α → Prop} {Q : TableDescription → β → Prop}
    {x : Except Error α} {f : α → β} (h : Vets s table P x) (hf : ∀ t a, P t a → Q t (f a)) :
    Vets s table Q (x.map f) := by
  have hx : x.map f = x >>= fun a => .ok (f a) := by cases x <;> rfl
  rw [hx]
  exact h.bind fun t a _ ha => .pure (hf t a ha)

theorem vets_checkRead (o : ReadOptions) :
    Vets s table (fun t o' => (∀ n ∈ o.named, n ∈ t.names) ∧
      o' = { o with fields := s.shownColumns table o.fields }) (s.checkRead table o) := by
  refine vets_description.bind fun t t' _ ht => ?_
  subst ht
  refine (admits_checkColumns _ _ _).bind fun _ hfilter => ?_
  refine (admits_checkColumns _ _ _).bind fun _ horder => ?_
  refine (admits_checkColumns _ _ _).bind fun _ hfields => .pure ⟨?_, rfl⟩
  exact List.forall_mem_append.2 ⟨List.forall_mem_append.2 ⟨hfilter, horder⟩, hfields⟩

theorem vets_checkRow (row : Row) :
    Vets s table (fun t _ => ∀ n ∈ row.names, n ∈ t.names) (s.checkRow table row) := by
  refine vets_description.bind fun t t' _ ht => ?_
  subst ht
  exact admits_checkColumns _ _ _

/-- The columns to be read are registered, and there are some. -/
theorem shownColumns_mem {t : TableDescription} {fields : Option (List String)}
    (hr : s.registry.get? table = some t) (hkeyed : s.registry.Keyed)
    (hfields : ∀ n ∈ fields.getD [], n ∈ t.names) :
    (s.shownColumns table fields).getD [] ≠ [] ∧
      ∀ n ∈ (s.shownColumns table fields).getD [], n ∈ t.names := by
  unfold shownColumns
  split
  · exact ⟨List.cons_ne_nil _ _, hfields⟩
  · rw [Registry.displayFields, hr]
    exact ⟨List.ne_nil_of_mem (hkeyed table t hr), t.displayFields_sublist.subset⟩

theorem vets_selection (hkeyed : s.registry.Keyed) (o : ReadOptions) :
    Vets s table (fun t c => (Command.select c).Within table t ∧ (∀ n ∈ o.named, n ∈ t.names) ∧
      ∀ e ∈ o.orderBy.getD [], OrderTerm.WellFormed e) (s.selection table o) := by
  refine (vets_checkRead o).bind ?_
  rintro t o' hr ⟨hnamed, rfl⟩
  obtain ⟨hnamed', hfields⟩ := List.forall_mem_append.1 hnamed
  obtain ⟨hfilter, horder⟩ := List.forall_mem_append.1 hnamed'
  obtain ⟨hne, hshown⟩ := shownColumns_mem hr hkeyed hfields
  refine .query fun c hc => ?_
  obtain ⟨htable, hcolumns, htests, hentries, -, -⟩ := Select.check_ok hc
  obtain ⟨hforms, hterms⟩ := OrderTerm.ofEntries_ok hentries
  refine ⟨⟨htable, ?_, ?_⟩, hnamed, hforms⟩
  · intro i hi
    simp only [Command.mentioned, Command.shown, Command.row, Command.tests, List.map_nil,
      List.nil_append, List.mem_append] at hi
    rcases hi with (hi | hi) | hi
    · refine hshown i.name ?_
      rw [← hcolumns]
      exact List.mem_map_of_mem hi
    · obtain ⟨term, hterm, rfl⟩ := List.mem_map.1 hi
      exact horder _ (hterms term hterm)
    · exact hfilter _ (Filter.column_testsOf htests hi)
  · rintro _ ⟨rfl⟩ hnil
    rw [hnil] at hcolumns
    exact hne hcolumns.symm

/-- The tests for a key are on the key column, which is registered. -/
theorem names_byId {t : TableDescription} {tests : List Test} {id : Int64}
    (hr : s.registry.get? table = some t) (hkeyed : s.registry.Keyed)
    (h : Filter.testsOf (some (byId id)) = .ok tests) :
    ∀ i ∈ tests.filterMap Test.column?, i.name ∈ t.names := by
  intro i hi
  have hname : i.name ∈ [Identifier.id.name] := Filter.column_testsOf h hi
  rw [List.mem_singleton.1 hname]
  exact t.displayFields_sublist.subset (hkeyed table t hr)

/-- The columns that get values are those of the row. -/
theorem names_assigned {t : TableDescription} {writing : Writing} {row : Row} {a : Assignments}
    (h : Assignments.check writing row = .ok a) (hrow : ∀ n ∈ row.names, n ∈ t.names) :
    ∀ i ∈ a.map Prod.fst, i.name ∈ t.names := by
  intro i hi
  obtain ⟨x, hx, rfl⟩ := List.mem_map.1 hi
  refine hrow x.1.name ?_
  rw [← Assignments.columns_check h]
  exact List.mem_map_of_mem hx

theorem vets_lookup (hkeyed : s.registry.Keyed) (id : Int64) :
    Vets s table (fun t c => (Command.select c).Within table t) (s.lookup table id) := by
  refine vets_discarded.bind ?_
  rintro t - hr -
  refine .query fun c hc => ?_
  obtain ⟨htable, hcolumns, htests, hentries, -, -⟩ := Select.check_ok hc
  have hshown : c.columns.map (·.name) = t.displayFields := by
    rw [hcolumns, optionsById, Registry.displayFields, hr]
    rfl
  have horder : c.order = [] := (Except.ok.inj hentries).symm
  refine ⟨htable, ?_, ?_⟩
  · intro i hi
    simp only [Command.mentioned, Command.shown, Command.row, Command.tests, List.map_nil,
      List.nil_append, List.mem_append, horder, List.not_mem_nil, or_false] at hi
    rcases hi with hi | hi
    · refine t.displayFields_sublist.subset ?_
      rw [← hshown]
      exact List.mem_map_of_mem hi
    · exact names_byId hr hkeyed htests i hi
  · rintro _ ⟨rfl⟩ hnil
    rw [hnil] at hshown
    exact List.ne_nil_of_mem (hkeyed table t hr) hshown.symm

theorem vets_insertion (row : Row) :
    Vets s table (fun t c => (Command.insert c).Within table t ∧ ∀ n ∈ row.names, n ∈ t.names)
      (s.insertion table row) := by
  refine (vets_checkRow row).bind ?_
  intro t _ hr hrow
  refine .query fun c hc => ?_
  obtain ⟨htable, hassigned⟩ := Insert.check_ok hc
  refine ⟨⟨htable, ?_, ?_⟩, hrow⟩
  · intro i hi
    simp only [Command.mentioned, Command.shown, Command.row, Command.tests, List.append_nil,
      List.filterMap_nil] at hi
    exact names_assigned hassigned hrow i hi
  · rintro _ ⟨⟩

theorem vets_revision (hkeyed : s.registry.Keyed) (id : Int64) (row : Row) :
    Vets s table (fun t c => (Command.update c).Within table t ∧ ∀ n ∈ row.names, n ∈ t.names)
      (s.revision table id row) := by
  refine (vets_checkRow row).bind ?_
  intro t _ hr hrow
  refine .query fun c hc => ?_
  obtain ⟨htable, hassigned, htests⟩ := Update.check_ok hc
  refine ⟨⟨htable, ?_, ?_⟩, hrow⟩
  · intro i hi
    simp only [Command.mentioned, Command.shown, Command.row, Command.tests, List.append_nil,
      List.mem_append] at hi
    rcases hi with hi | hi
    · exact names_assigned hassigned hrow i hi
    · exact names_byId hr hkeyed htests i hi
  · rintro _ ⟨⟩

theorem vets_removal (hkeyed : s.registry.Keyed) (id : Int64) :
    Vets s table (fun t c => (Command.delete c).Within table t) (s.removal table id) := by
  refine vets_discarded.bind ?_
  rintro t - hr -
  refine .query fun c hc => ?_
  obtain ⟨htable, htests⟩ := Delete.check_ok hc
  refine ⟨htable, ?_, ?_⟩
  · intro i hi
    simp only [Command.mentioned, Command.shown, Command.row, Command.tests, List.map_nil,
      List.nil_append] at hi
    exact names_byId hr hkeyed htests i hi
  · rintro _ ⟨⟩

end Service

end TableService
