/-
  Requests for rows, and the commands that they are once they are checked.

  * A `Request` that passes its checks is a `Command`, and that is written as a statement.
  * `Insert.check_ok` and the others say what a command has of its request.
  * `Assignments.check_of_valid`: a row passes if it has columns and these have valid names.
-/
import TableService.Proofs.Results
import TableService.Query.Command

namespace TableService

/-- What is asked of a database on the rows of a table. -/
inductive Request where
  | insert (table : String) (row : Row)
  | select (table : String) (o : ReadOptions)
  | update (table : String) (row : Row) (filter : Option Filter)
  | delete (table : String) (filter : Option Filter)

/-- The filter of a request. -/
def Request.filter? : Request → Option Filter
  | .insert .. => none
  | .select _ o => o.filter
  | .update _ _ filter | .delete _ filter => filter

/-- A request that has been checked. -/
inductive Command where
  | insert (c : Insert)
  | select (c : Select)
  | update (c : Update)
  | delete (c : Delete)

/-- Checks a request. -/
def Request.check : Request → Except QueryError Command
  | .insert table row => (Insert.check table row).map .insert
  | .select table o => (Select.check table o).map .select
  | .update table row filter => (Update.check table row filter).map .update
  | .delete table filter => (Delete.check table filter).map .delete

namespace Command

/-- The statement of a command. -/
def statement (d : Dialect) : Command → Statement
  | .insert c => c.statement d
  | .select c => c.statement d
  | .update c => c.statement d
  | .delete c => c.statement d

/-- The columns with their values, if the command has some. -/
def row : Command → Assignments
  | .insert c => c.row
  | .update c => c.row
  | .select _ | .delete _ => []

/-- The tests that rows have to pass, if the command has some. -/
def tests : Command → List Test
  | .select c => c.tests
  | .update c => c.tests
  | .delete c => c.tests
  | .insert _ => []

theorem params_statement (c : Command) :
    (c.statement d).params = c.row.map Prod.snd ++ Test.params c.tests := by
  cases c with
  | insert c => exact (List.append_nil _).symm
  | select c => rfl
  | update c => rfl
  | delete c => rfl

end Command

/-- The statement of a request. -/
def Request.statement (d : Dialect) (r : Request) : Except QueryError Statement :=
  r.check.map (·.statement d)

/-! ## Checks -/

theorem Identifier.name_of_ofName {name : String} {i : Identifier} (h : ofName name = .ok i) :
    i.name = name :=
  Identifier.name_of_check (mapError_eq_ok.1 h)

namespace Assignments
variable {writing : Writing} {row : Row} {a : Assignments} (h : check writing row = .ok a)
include h

theorem check_ok : a ≠ [] ∧ a.map (fun c => (c.1.name, c.2)) = row.entries := by
  unfold check at h
  split_ifs at h with hempty
  have hall := mapM_eq_ok.1 h
  have hentries : a.map (fun c => (c.1.name, c.2)) = row.entries := by
    rw [← List.map_id row.entries]
    refine forall₂_map_eq hall fun {e c} hc => ?_
    obtain ⟨i, hi, hc⟩ := bind_eq_ok.1 hc
    cases hc
    rw [Identifier.name_of_ofName hi]
    rfl
  refine ⟨?_, hentries⟩
  rintro rfl
  exact hempty (by rw [Record.isEmpty, ← hentries]; rfl)

theorem columns_check : a.map (·.1.name) = row.names := by
  rw [Record.names, ← (check_ok h).2, List.map_map]
  rfl

theorem values_check : a.map Prod.snd = row.entries.map Prod.snd := by
  rw [← (check_ok h).2, List.map_map]
  rfl

end Assignments

theorem names_of_mapM {fields : List String} {columns : List Identifier}
    (h : fields.mapM Identifier.ofName = .ok columns) : columns.map (·.name) = fields := by
  rw [← List.map_id fields]
  exact forall₂_map_eq (mapM_eq_ok.1 h) Identifier.name_of_ofName

theorem Insert.check_ok {table : String} {row : Row} {c : Insert} (h : check table row = .ok c) :
    c.table.name = table ∧ Assignments.check .insert row = .ok c.row := by
  obtain ⟨a, ha, h⟩ := bind_eq_ok.1 h
  obtain ⟨t, ht, h⟩ := bind_eq_ok.1 h
  cases h
  exact ⟨Identifier.name_of_ofName ht, ha⟩

theorem Select.check_ok {table : String} {o : ReadOptions} {c : Select}
    (h : check table o = .ok c) :
    c.table.name = table ∧ c.columns.map (·.name) = o.fields.getD [] ∧
      Filter.testsOf o.filter = .ok c.tests ∧ OrderTerm.ofEntries o.orderBy = .ok c.order ∧
      c.limit = o.limit ∧ c.offset = o.offset := by
  obtain ⟨columns, hcolumns, h⟩ := bind_eq_ok.1 h
  obtain ⟨tests, htests, h⟩ := bind_eq_ok.1 h
  obtain ⟨order, horder, h⟩ := bind_eq_ok.1 h
  obtain ⟨t, ht, h⟩ := bind_eq_ok.1 h
  cases h
  exact ⟨Identifier.name_of_ofName ht, names_of_mapM hcolumns, htests, horder, rfl, rfl⟩

theorem Update.check_ok {table : String} {row : Row} {filter : Option Filter} {c : Update}
    (h : check table row filter = .ok c) :
    c.table.name = table ∧ Assignments.check .update row = .ok c.row ∧
      Filter.testsOf filter = .ok c.tests := by
  obtain ⟨a, ha, h⟩ := bind_eq_ok.1 h
  obtain ⟨tests, htests, h⟩ := bind_eq_ok.1 h
  obtain ⟨t, ht, h⟩ := bind_eq_ok.1 h
  cases h
  exact ⟨Identifier.name_of_ofName ht, ha, htests⟩

theorem Delete.check_ok {table : String} {filter : Option Filter} {c : Delete}
    (h : check table filter = .ok c) :
    c.table.name = table ∧ Filter.testsOf filter = .ok c.tests := by
  obtain ⟨tests, htests, h⟩ := bind_eq_ok.1 h
  obtain ⟨t, ht, h⟩ := bind_eq_ok.1 h
  cases h
  exact ⟨Identifier.name_of_ofName ht, htests⟩

theorem Identifier.ofName_of_valid {name : String} (h : Valid name) : ∃ i, ofName name = .ok i := by
  obtain ⟨i, hi⟩ := check_ok_iff.2 h
  exact ⟨i, mapError_eq_ok.2 hi⟩

theorem Assignments.check_of_valid {row : Row} (writing : Writing) (hne : row.names ≠ [])
    (h : ∀ n ∈ row.names, Identifier.Valid n) : ∃ a, check writing row = .ok a := by
  have hentries : row.entries ≠ [] := fun he => hne (by rw [Record.names, he]; rfl)
  unfold check
  rw [if_neg (by simpa [Record.isEmpty] using hentries)]
  refine mapM_ok_iff.2 fun e he => ?_
  obtain ⟨i, hi⟩ := Identifier.ofName_of_valid (h e.1 (List.mem_map_of_mem he))
  exact ⟨(i, e.2), bind_eq_ok.2 ⟨i, hi, rfl⟩⟩

end TableService
