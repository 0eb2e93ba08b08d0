/-
  Reads, changes and removals with the same filter address the same rows.

  * `renumbers_where`: the predicate of the same tests after more parameters differs in the numbers
    of its marks only, by the number of those parameters.
  * `same_rows_addressed`: a selection and a deletion have the same predicate with the same
    parameters, and an update has it after its own; a filter that is refused is so for all three.
-/
import TableService.Proofs.Query.Statement
import TableService.Proofs.Sql.Renumber

namespace TableService

open Sql

variable {d : Dialect} {k : Nat}

/-! ## Predicates -/

namespace Test

theorem renumbers_comparison (c : Comparison) : Renumbers d k c.sql.toList c.sql.toList := by
  cases c
  case like => exact .word rfl
  all_goals first
    | exact .sign rfl (.sign rfl .nil)
    | exact .sign rfl .nil

theorem renumbers_marks (used count : Nat) :
    Renumbers d k (commaSpaced (marks d used count)).toList
      (commaSpaced (marks d (used + k) count)).toList := by
  refine .commaSpaced ?_
  rw [marks, marks, List.forall₂_map_left_iff, List.forall₂_map_right_iff, List.forall₂_same]
  intro i _
  rw [Nat.add_right_comm used k, Nat.add_right_comm _ k]
  exact .placeholder (used + i + 1)

theorem renumbers_member (negated : Bool) {cs cs' : List Char} (h : Renumbers d k cs cs') :
    Renumbers d k ((if negated then Operator.outside else .within).sql.toList ++ (" (".toList ++ cs))
      ((if negated then Operator.outside else .within).sql.toList ++ (" (".toList ++ cs')) := by
  have hin : Renumbers d k ("IN".toList ++ (" (".toList ++ cs)) ("IN".toList ++ (" (".toList ++ cs')) :=
    (Renumbers.word rfl).append (.space (.sign rfl h)) (.space _)
  cases negated with
  | false => exact hin
  | true =>
    have hnot : Renumbers d k "NOT".toList "NOT".toList := .word rfl
    exact hnot.append hin.space (.space _)

theorem renumbers_constant (holds : Bool) :
    Renumbers d k (d.constant holds).toList (d.constant holds).toList := by
  refine .word ?_
  cases d <;> cases holds <;> rfl

/-- **A test after more parameters** has the numbers of its marks greater by so many. -/
theorem renumbers_sql (t : Test) (used : Nat) :
    Renumbers d k (t.sql d used).toList (t.sql d (used + k)).toList := by
  cases t with
  | compare column c operand =>
    simp only [sql, String.toList_append, List.append_assoc]
    rw [Nat.add_right_comm]
    exact (Renumbers.quoted column.name).append
      ((renumbers_comparison c).append (Renumbers.placeholder _).space (.space _)).space (.space _)
  | member column negated first others =>
    have hmarks := (renumbers_marks (d := d) (k := k) used (others.length + 1)).append
      (.sign rfl .nil) (.bracket [])
    simp only [sql, String.toList_append, List.append_assoc]
    exact (Renumbers.quoted column.name).append (renumbers_member negated hmarks).space (.space _)
  | constant holds => exact renumbers_constant holds

theorem renumbers_clause (tests : List Test) (used : Nat) :
    Renumbers d k (clause d used tests).toList (clause d (used + k) tests).toList := by
  have hall : List.Forall₂ (fun t t' : String => Renumbers d k t.toList t'.toList)
      (sqls d used tests) (sqls d (used + k) tests) := by
    induction tests generalizing used with
    | nil => exact .nil
    | cons t ts ih =>
      have ih := ih (used + t.operands.length)
      rw [Nat.add_right_comm] at ih
      exact .cons (renumbers_sql t used) ih
  have hand : Renumbers d k "AND".toList "AND".toList := .word rfl
  have hsep : Renumbers d k " AND".toList " AND".toList := hand.space
  exact hsep.intercalate (.space "AND".toList) hall

/-- **The predicate after more parameters** has the numbers of its marks greater by so many. -/
theorem renumbers_where (tests : List Test) (used : Nat) :
    Renumbers d k (whereSql d used tests).toList (whereSql d (used + k) tests).toList := by
  unfold whereSql
  by_cases h : tests = []
  · subst h
    exact .nil
  · have hword : Renumbers d k "WHERE".toList "WHERE".toList := .word rfl
    have hkey : " WHERE ".toList = ' ' :: ("WHERE".toList ++ [' ']) := rfl
    simp only [if_neg (mt clause_eq_empty.1 h), String.toList_append, hkey, List.cons_append,
      List.append_assoc]
    exact (hword.append (renumbers_clause tests used).space (.space _)).space

end Test

/-! ## Statements -/

/-- The fields of a selection in its statement; without any, all are meant. -/
def fieldsSql (d : Dialect) (fields : List String) : String :=
  if fields = [] then "*" else commaSpaced (fields.map d.quoteText)

/-- The columns of a row in an update, each with its mark. -/
def settingsSql (d : Dialect) (row : Row) : String :=
  commaSpaced (row.entries.mapIdx fun i e => d.quoteText e.1 ++ " = " ++ d.placeholder (i + 1))

theorem Update.assignmentsSql_eq (row : Assignments) (used : Nat) :
    assignmentsSql d used row = (row.map fun a => (a.1.name, a.2)).mapIdx fun i e =>
      d.quoteText e.1 ++ " = " ++ d.placeholder (used + i + 1) := by
  induction row generalizing used with
  | nil => rfl
  | cons a row ih =>
    rw [assignmentsSql, ih, List.map_cons, List.mapIdx_cons]
    simp only [Nat.add_right_comm used, Nat.add_zero, Nat.add_assoc]
    rfl

theorem select_statement {table : String} {o : ReadOptions} {s : Statement}
    (h : (Request.select table o).statement d = .ok s) :
    ∃ tests rest, Filter.testsOf o.filter = .ok tests ∧
      tail d o.orderBy o.limit o.offset = .ok rest ∧
      s.sql = "SELECT " ++ fieldsSql d (o.fields.getD []) ++ " FROM " ++ d.quoteText table ++
        Test.whereSql d 0 tests ++ rest ∧ s.params = Test.params tests := by
  obtain ⟨_, hcheck, rfl⟩ := map_eq_ok.1 h
  obtain ⟨c, hc, rfl⟩ := map_eq_ok.1 hcheck
  obtain ⟨htable, hcolumns, htests, horder, hlimit, hoffset⟩ := Select.check_ok hc
  have hfields : c.columnsSql d = fieldsSql d (o.fields.getD []) := by
    rw [← hcolumns, fieldsSql, Select.columnsSql, List.map_map]
    by_cases h : c.columns = []
    · rw [h]
      rfl
    · rw [if_neg (by simpa using h), if_neg (by simpa using h)]
      rfl
  refine ⟨c.tests, _, htests, map_eq_ok.2 ⟨c.order, horder, rfl⟩, ?_, rfl⟩
  rw [← hfields, ← htable, ← hlimit, ← hoffset]
  rfl

theorem update_statement {table : String} {row : Row} {filter : Option Filter} {s : Statement}
    (h : (Request.update table row filter).statement d = .ok s) :
    ∃ tests, Filter.testsOf filter = .ok tests ∧
      s.sql = "UPDATE " ++ d.quoteText table ++ " SET " ++ settingsSql d row ++
        Test.whereSql d row.names.length tests ∧
      s.params = row.entries.map Prod.snd ++ Test.params tests := by
  obtain ⟨_, hcheck, rfl⟩ := map_eq_ok.1 h
  obtain ⟨c, hc, rfl⟩ := map_eq_ok.1 hcheck
  obtain ⟨htable, ha, htests⟩ := Update.check_ok hc
  have hsettings : commaSpaced (Update.assignmentsSql d 0 c.row) = settingsSql d row := by
    rw [settingsSql, ← (Assignments.check_ok ha).2, Update.assignmentsSql_eq]
    simp only [Nat.zero_add]
  have hlength : c.row.length = row.names.length := by
    rw [← Assignments.columns_check ha, List.length_map]
  refine ⟨c.tests, htests, ?_, ?_⟩
  · rw [← hsettings, ← htable, ← hlength]
    rfl
  · rw [← Assignments.values_check ha]
    rfl

theorem delete_statement {table : String} {filter : Option Filter} {s : Statement}
    (h : (Request.delete table filter).statement d = .ok s) :
    ∃ tests, Filter.testsOf filter = .ok tests ∧
      s.sql = "DELETE FROM " ++ d.quoteText table ++ Test.whereSql d 0 tests ∧
      s.params = Test.params tests := by
  obtain ⟨_, hcheck, rfl⟩ := map_eq_ok.1 h
  obtain ⟨c, hc, rfl⟩ := map_eq_ok.1 hcheck
  obtain ⟨htable, htests⟩ := Delete.check_ok hc
  refine ⟨c.tests, htests, ?_, rfl⟩
  rw [← htable]
  rfl

/-! ## Refused filters -/

section
variable {table : String} {filter : Filter} {e : QueryError} (h : filter.tests = .error e)
include h

theorem select_refused {o : ReadOptions} (ho : ∀ f ∈ o.fields.getD [], Identifier.Valid f) :
    (Request.select table (o.withFilter filter)).statement d = .error e := by
  obtain ⟨columns, hcolumns⟩ := mapM_ok_iff.2 fun f hf => Identifier.ofName_of_valid (ho f hf)
  have hcheck : Select.check table (o.withFilter filter) = .error e :=
    bind_eq_error.2 (.inr ⟨columns, hcolumns, bind_eq_error.2 (.inl h)⟩)
  rw [Request.statement, Request.check, hcheck]
  rfl

theorem update_refused {row : Row} (hne : row.names ≠ [])
    (hrow : ∀ n ∈ row.names, Identifier.Valid n) :
    (Request.update table row (some filter)).statement d = .error e := by
  obtain ⟨a, ha⟩ := Assignments.check_of_valid .update hne hrow
  have hcheck : Update.check table row (some filter) = .error e :=
    bind_eq_error.2 (.inr ⟨a, ha, bind_eq_error.2 (.inl h)⟩)
  rw [Request.statement, Request.check, hcheck]
  rfl

theorem delete_refused : (Request.delete table (some filter)).statement d = .error e := by
  have hcheck : Delete.check table (some filter) = .error e := bind_eq_error.2 (.inl h)
  rw [Request.statement, Request.check, hcheck]
  rfl

end

/-- **Reads, changes and removals with the same filter address the same rows.**  The statements of a
selection and of a deletion have the predicate `w` of the filter and the same parameters.  That of
an update has them after its own parameters, one for each column, and the numbers of the marks in
its predicate are greater by so many.  A filter that is refused is so for all three, with the same
error, unless something before it is refused. -/
theorem same_rows_addressed (d : Dialect) (table : String) (filter : Filter) (row : Row)
    (o : ReadOptions) :
    (∀ read change remove,
      (Request.select table (o.withFilter filter)).statement d = .ok read →
      (Request.update table row (some filter)).statement d = .ok change →
      (Request.delete table (some filter)).statement d = .ok remove →
      ∃ tests w w' rest, filter.tests = .ok tests ∧ w = Test.whereSql d 0 tests ∧
        tail d o.orderBy o.limit o.offset = .ok rest ∧
        read.sql = "SELECT " ++ fieldsSql d (o.fields.getD []) ++ " FROM " ++ d.quoteText table ++
          w ++ rest ∧
        remove.sql = "DELETE FROM " ++ d.quoteText table ++ w ∧
        change.sql = "UPDATE " ++ d.quoteText table ++ " SET " ++ settingsSql d row ++ w' ∧
        renumber d row.names.length w.toList = some w'.toList ∧
        read.params = remove.params ∧
        change.params = row.entries.map Prod.snd ++ remove.params) ∧
    ∀ e, filter.tests = .error e →
      ((∀ f ∈ o.fields.getD [], Identifier.Valid f) →
        (Request.select table (o.withFilter filter)).statement d = .error e) ∧
      (row.names ≠ [] → (∀ n ∈ row.names, Identifier.Valid n) →
        (Request.update table row (some filter)).statement d = .error e) ∧
      (Request.delete table (some filter)).statement d = .error e := by
  refine ⟨fun read change remove hread hchange hremove => ?_, fun e he =>
    ⟨select_refused he, update_refused he, delete_refused he⟩⟩
  obtain ⟨tests, rest, htests, hrest, hreadSql, hreadParams⟩ := select_statement hread
  obtain ⟨_, hchangeTests, hchangeSql, hchangeParams⟩ := update_statement hchange
  obtain ⟨_, hremoveTests, hremoveSql, hremoveParams⟩ := delete_statement hremove
  -- there is one filter, so the tests are the same
  cases htests.symm.trans hchangeTests
  cases htests.symm.trans hremoveTests
  have hwhere := (Test.renumbers_where (d := d) (k := row.names.length) tests 0).renumber_eq
  rw [Nat.zero_add] at hwhere
  exact ⟨tests, _, _, rest, htests, rfl, hrest, hreadSql, hremoveSql, hchangeSql, hwhere,
    hreadParams.trans hremoveParams.symm, by rw [hchangeParams, hremoveParams]⟩

/-- Options with a field whose name looks like a list, and with a tail. -/
def oddOptions : ReadOptions := ⟨some ["x, $1"], none, some ["y desc"], some 5, none⟩

/-- The odd filter in the three statements: in the update its four marks follow two others. -/
theorem oddFilter_addressed : ∃ read change remove w w' rest,
    (Request.select "t" (oddOptions.withFilter oddFilter)).statement .postgres = .ok read ∧
    (Request.update "t" oddRow (some oddFilter)).statement .postgres = .ok change ∧
    (Request.delete "t" (some oddFilter)).statement .postgres = .ok remove ∧
    read.sql = "SELECT \"x, $1\" FROM \"t\" WHERE \"a\"\" AND $1\" >= $1 AND " ++
      "\"a\"\" AND $1\" IN ($2, $3) AND \"?\" = $4 AND TRUE ORDER BY \"y\" DESC LIMIT 5" ∧
    read.sql = "SELECT " ++ fieldsSql .postgres ["x, $1"] ++ " FROM \"t\"" ++ w ++ rest ∧
    remove.sql = "DELETE FROM \"t\"" ++ w ∧
    change.sql = "UPDATE \"t\" SET " ++ settingsSql .postgres oddRow ++ w' ∧
    renumber .postgres 2 w.toList = some w'.toList := by
  have hread : (Request.select "t" (oddOptions.withFilter oddFilter)).statement .postgres = .ok _ :=
    rfl
  have hchange : (Request.update "t" oddRow (some oddFilter)).statement .postgres = .ok _ := rfl
  have hremove : (Request.delete "t" (some oddFilter)).statement .postgres = .ok _ := rfl
  obtain ⟨_, w, w', rest, -, -, -, hreadSql, hremoveSql, hchangeSql, hw, -, -⟩ :=
    (same_rows_addressed .postgres "t" oddFilter oddRow oddOptions).1 _ _ _ hread hchange hremove
  exact ⟨_, _, _, w, w', rest, hread, hchange, hremove, by decide +kernel, hreadSql, hremoveSql,
    hchangeSql, hw⟩

end TableService
