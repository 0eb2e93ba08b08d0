/-
  The values of a request do not show in the text of its statement.

  * `Request.Alike`: two requests differ only in the values of their rows and of their filters; a
    list operator is given equally many values in both.
  * `Command.Alike.text`: commands that differ only in values have the same text in every dialect.
  * `text_without_values`: so two requests that are alike are refused for the same cause, or have
    the same text.
-/
import TableService.Proofs.Query.Request

namespace TableService

/-! ## Requests that differ in values -/

/-- The number of values in a list; no other value is a list of values. -/
def Json.width : Json → Nat
  | .array items => items.length
  | _ => 0

/-- The operator is given another operand under the same key; if it takes a list of values, then
one of the same length. -/
structure SameOperator (e e' : String × Json) : Prop where
  key : e.1 = e'.1
  width : ∀ op, Operator.ofKey? e.1 = some op → op.isSet = true → e.2.width = e'.2.width

/-- Both are literals, or have the same operators in the same order. -/
inductive Condition.Alike : Condition → Condition → Prop
  | literal (v v' : Json) : Alike (.literal v) (.literal v')
  | operators {es es' : List (String × Json)} (h : List.Forall₂ SameOperator es es') :
    Alike (.operators es) (.operators es')

/-- The filters have the same fields in the same order, and alike conditions on them. -/
def Filter.Alike (filter filter' : Filter) : Prop :=
  List.Forall₂ (fun e e' => e.1 = e'.1 ∧ e.2.Alike e'.2) filter.entries filter'.entries

/-- The requests are the same but for the values in their rows and filters. -/
inductive Request.Alike : Request → Request → Prop
  | insert (table : String) {row row' : Row} (hrow : row.names = row'.names) :
    Alike (.insert table row) (.insert table row')
  | select (table : String) {o o' : ReadOptions} (hfields : o.fields = o'.fields)
    (hfilter : Option.Rel Filter.Alike o.filter o'.filter) (horder : o.orderBy = o'.orderBy)
    (hlimit : o.limit = o'.limit) (hoffset : o.offset = o'.offset) :
    Alike (.select table o) (.select table o')
  | update (table : String) {row row' : Row} {filter filter' : Option Filter}
    (hrow : row.names = row'.names) (hfilter : Option.Rel Filter.Alike filter filter') :
    Alike (.update table row filter) (.update table row' filter')
  | delete (table : String) {filter filter' : Option Filter}
    (hfilter : Option.Rel Filter.Alike filter filter') :
    Alike (.delete table filter) (.delete table filter')

/-! ## Tests -/

theorem Json.list_of_width {v : Json} {n : Nat} (h : v.width = n + 1) :
    ∃ first others, v = .array (first :: others) ∧ others.length = n := by
  cases v with
  | array items =>
    cases items with
    | nil => cases h
    | cons first others => exact ⟨first, others, rfl, Nat.succ.inj h⟩
  | _ => cases h

namespace Test
variable {d : Dialect}

/-- The tests have the same text after the same parameters, and bind equally many values. -/
structure Alike (t t' : Test) : Prop where
  text : ∀ d used, t.sql d used = t'.sql d used
  count : t.operands.length = t'.operands.length

/-- A list operator without a list of values is the same whatever it is given. -/
theorem ofOperator_of_width {op : Operator} {v : Json} (column : Identifier)
    (hop : op.isSet = true) (h : v.width = 0) :
    ofOperator column op v = ofOperator column op .null := by
  cases op with
  | compare c => cases hop
  | within | outside =>
    cases v with
    | array items =>
      cases items with
      | nil => rfl
      | cons first others => cases h
    | _ => rfl

theorem alike_member (column : Identifier) (negated : Bool) {others others' : List Json}
    (first first' : Json) (h : others.length = others'.length) :
    Alike (.member column negated first others) (.member column negated first' others') :=
  ⟨fun d used => by rw [sql, sql, h], congrArg (· + 1) h⟩

/-- **An operator looks at no more of its operand than the length of a list.** -/
theorem alike_ofOperator (column : Identifier) {op : Operator} {v v' : Json}
    (h : op.isSet = true → v.width = v'.width) :
    Alike (ofOperator column op v) (ofOperator column op v') := by
  cases hop : op.isSet with
  | false =>
    cases op with
    | compare c => exact ⟨fun _ _ => rfl, rfl⟩
    | within | outside => cases hop
  | true =>
    have hwidth := h hop
    cases hv : v.width with
    | zero =>
      rw [ofOperator_of_width column hop hv, ofOperator_of_width column hop (hwidth.symm.trans hv)]
      exact ⟨fun _ _ => rfl, rfl⟩
    | succ n =>
      obtain ⟨first, others, rfl, hlength⟩ := Json.list_of_width hv
      obtain ⟨first', others', rfl, hlength'⟩ := Json.list_of_width (hwidth.symm.trans hv)
      have hothers : others.length = others'.length := hlength.trans hlength'.symm
      cases op with
      | compare c => cases hop
      | within => exact alike_member column false first first' hothers
      | outside => exact alike_member column true first first' hothers

theorem alike_ofEntry (column : Identifier) {e e' : String × Json} (h : SameOperator e e') :
    Agree Alike (ofEntry column e) (ofEntry column e') := by
  unfold ofEntry
  rw [← h.key]
  cases hop : Operator.ofKey? e.1 with
  | none => exact .error _
  | some op => exact .ok (alike_ofOperator column (h.width op hop))

theorem alike_ofCondition {c c' : String × Condition} (hfield : c.1 = c'.1)
    (h : c.2.Alike c'.2) : Agree (List.Forall₂ Alike) (ofCondition c) (ofCondition c') := by
  obtain ⟨field, c⟩ := c
  obtain ⟨_, c'⟩ := c'
  obtain rfl := hfield
  refine (Agree.refl (R := Eq) (fun _ => rfl) (Identifier.ofName field)).bind ?_
  rintro column _ rfl
  cases h with
  | literal v v' => exact .ok (.cons ⟨fun _ _ => rfl, rfl⟩ .nil)
  | operators hall => exact .mapM hall (alike_ofEntry column)

variable {tests tests' : List Test} (h : List.Forall₂ Alike tests tests')
include h

theorem Alike.sqls_eq (used : Nat) : sqls d used tests = sqls d used tests' := by
  induction h generalizing used with
  | nil => rfl
  | cons ht _ ih => rw [sqls, sqls, ht.text, ht.count, ih]

theorem Alike.whereSql_eq (used : Nat) : whereSql d used tests = whereSql d used tests' := by
  rw [whereSql, whereSql, clause, clause, sqls_eq h]

theorem Alike.length_params : (params tests).length = (params tests').length := by
  rw [params, params, List.length_flatMap, List.length_flatMap]
  exact congrArg List.sum (forall₂_map_eq h fun ht => ht.count.symm).symm

end Test

namespace Filter

/-- **The tests of alike filters are alike**, or the filters are refused for the same cause. -/
theorem Alike.tests {filter filter' : Filter} (h : filter.Alike filter') :
    Agree (List.Forall₂ Test.Alike) filter.tests filter'.tests := by
  refine (Agree.mapM h fun he => Test.alike_ofCondition he.1 he.2).map fun {groups groups'} hall => ?_
  induction hall with
  | nil => exact .nil
  | cons hg _ ih => exact List.rel_append hg ih

theorem alike_testsOf {filter filter' : Option Filter} (h : Option.Rel Alike filter filter') :
    Agree (List.Forall₂ Test.Alike) (testsOf filter) (testsOf filter') := by
  cases h with
  | none => exact .ok .nil
  | some h => exact h.tests

end Filter

/-! ## Commands -/

/-- The rows have the same columns in the same order. -/
def Assignments.Alike (a a' : Assignments) : Prop := List.Forall₂ (fun x x' => x.1 = x'.1) a a'

/-- The commands are the same but for the values that they bind. -/
inductive Command.Alike : Command → Command → Prop
  | insert (table : Identifier) {row row' : Assignments} (hrow : row.Alike row') :
    Alike (.insert ⟨table, row⟩) (.insert ⟨table, row'⟩)
  | select (table : Identifier) (columns : List Identifier) {tests tests' : List Test}
    (order : List OrderTerm) (limit offset : Option UInt64)
    (htests : List.Forall₂ Test.Alike tests tests') :
    Alike (.select ⟨table, columns, tests, order, limit, offset⟩)
      (.select ⟨table, columns, tests', order, limit, offset⟩)
  | update (table : Identifier) {row row' : Assignments} {tests tests' : List Test}
    (hrow : row.Alike row') (htests : List.Forall₂ Test.Alike tests tests') :
    Alike (.update ⟨table, row, tests⟩) (.update ⟨table, row', tests'⟩)
  | delete (table : Identifier) {tests tests' : List Test}
    (htests : List.Forall₂ Test.Alike tests tests') :
    Alike (.delete ⟨table, tests⟩) (.delete ⟨table, tests'⟩)

theorem Assignments.alike_check (writing : Writing) {row row' : Row} (h : row.names = row'.names) :
    Agree Alike (check writing row) (check writing row') := by
  have hall : List.Forall₂ (fun e e' => e.1 = e'.1) row.entries row'.entries := by
    have heq : List.Forall₂ Eq (row.entries.map Prod.fst) (row'.entries.map Prod.fst) := by
      rw [List.forall₂_eq_eq_eq]
      exact h
    rwa [List.forall₂_map_left_iff, List.forall₂_map_right_iff] at heq
  have hempty : row.isEmpty = row'.isEmpty := by
    have heq := congrArg List.isEmpty h
    rwa [Record.names, Record.names, List.isEmpty_map, List.isEmpty_map] at heq
  unfold check
  rw [hempty]
  split
  · exact .error _
  · refine .mapM hall fun {e e'} he => ?_
    obtain ⟨column, v⟩ := e
    obtain ⟨_, v'⟩ := e'
    obtain rfl := he
    refine (Agree.refl (R := Eq) (fun _ => rfl) (Identifier.ofName column)).bind ?_
    rintro i _ rfl
    exact .ok rfl

namespace Assignments
variable {row row' : Assignments} (h : row.Alike row')
include h

theorem Alike.names_eq (d : Dialect) :
    row.map (fun a => d.quote a.1) = row'.map fun a => d.quote a.1 :=
  (forall₂_map_eq h fun ha => congrArg d.quote ha.symm).symm

theorem Alike.assignmentsSql_eq (d : Dialect) (used : Nat) :
    Update.assignmentsSql d used row = Update.assignmentsSql d used row' := by
  induction h generalizing used with
  | nil => rfl
  | cons ha _ ih => rw [Update.assignmentsSql, Update.assignmentsSql, ha, ih]

end Assignments

namespace Command
variable {c c' : Command} (h : c.Alike c') (d : Dialect)
include h

/-- **Commands that differ only in values have the same text.** -/
theorem Alike.text : (c.statement d).sql = (c'.statement d).sql := by
  cases h with
  | insert table hrow =>
    exact congrArg₂ (fun names count => "INSERT INTO " ++ d.quote table ++ " (" ++
      commaSpaced names ++ ") VALUES (" ++ commaSpaced (Test.marks d 0 count) ++ ")")
      (hrow.names_eq d) hrow.length_eq
  | select table columns order limit offset htests =>
    exact congrArg (fun w => "SELECT " ++ Select.columnsSql d ⟨table, columns, [], [], none, none⟩ ++
      " FROM " ++ d.quote table ++ w ++ tailSql d order limit offset)
      (Test.Alike.whereSql_eq htests 0)
  | @update table row row' tests tests' hrow htests =>
    have hwhere : Test.whereSql d row.length tests = Test.whereSql d row'.length tests' := by
      rw [hrow.length_eq, Test.Alike.whereSql_eq htests]
    exact congrArg₂ (fun settings w => "UPDATE " ++ d.quote table ++ " SET " ++
      commaSpaced settings ++ w) (hrow.assignmentsSql_eq d 0) hwhere
  | delete table htests =>
    exact congrArg ("DELETE FROM " ++ d.quote table ++ ·) (Test.Alike.whereSql_eq htests 0)

theorem Alike.count : (c.statement d).params.length = (c'.statement d).params.length := by
  simp only [params_statement, List.length_append, List.length_map]
  cases h with
  | insert table hrow => exact congrArg (· + 0) hrow.length_eq
  | select table columns order limit offset htests =>
    exact congrArg (0 + ·) (Test.Alike.length_params htests)
  | update table hrow htests =>
    exact congrArg₂ (· + ·) hrow.length_eq (Test.Alike.length_params htests)
  | delete table htests => exact congrArg (0 + ·) (Test.Alike.length_params htests)

end Command

/-- Requests that are alike are checked to commands that are alike. -/
theorem Request.Alike.check {r r' : Request} (h : r.Alike r') :
    Agree Command.Alike r.check r'.check := by
  have same {α : Type} (x : Except QueryError α) : Agree Eq x x := .refl (fun _ => rfl) x
  cases h with
  | insert table hrow =>
    refine Agree.map (R := fun c c' => Command.Alike (.insert c) (.insert c')) ?_ fun h => h
    refine (Assignments.alike_check .insert hrow).bind fun ha => (same _).bind ?_
    rintro t _ rfl
    exact .ok (.insert t ha)
  | select table hfields hfilter horder hlimit hoffset =>
    refine Agree.map (R := fun c c' => Command.Alike (.select c) (.select c')) ?_ fun h => h
    unfold Select.check
    rw [← hfields, ← horder, ← hlimit, ← hoffset]
    refine (same _).bind ?_
    rintro columns _ rfl
    refine (Filter.alike_testsOf hfilter).bind fun htests => (same _).bind ?_
    rintro order _ rfl
    refine (same _).bind ?_
    rintro t _ rfl
    exact .ok (.select t columns order _ _ htests)
  | update table hrow hfilter =>
    refine Agree.map (R := fun c c' => Command.Alike (.update c) (.update c')) ?_ fun h => h
    refine (Assignments.alike_check .update hrow).bind fun ha =>
      (Filter.alike_testsOf hfilter).bind fun htests => (same _).bind ?_
    rintro t _ rfl
    exact .ok (.update t ha htests)
  | delete table hfilter =>
    refine Agree.map (R := fun c c' => Command.Alike (.delete c) (.delete c')) ?_ fun h => h
    refine (Filter.alike_testsOf hfilter).bind fun htests => (same _).bind ?_
    rintro t _ rfl
    exact .ok (.delete t htests)

/-- **Values never show in the text of a statement.**  Two requests of one kind on the same table,
with the same columns, order, limit, offset, row keys, filter fields and operator keys, may have any
values in their rows and filters; only a list operator has to be given equally many values in both.
In every dialect they are refused for the same cause, or both have the same text, with equally many
parameters. -/
theorem text_without_values {r r' : Request} (h : r.Alike r') (d : Dialect) :
    Agree (fun s s' => s.sql = s'.sql ∧ s.params.length = s'.params.length)
      (r.statement d) (r'.statement d) :=
  h.check.map fun hc => ⟨hc.text d, hc.count d⟩

/-- An update of a column, under conditions on two others. -/
def valuesUpdate (a inner other c : Json) : Request :=
  .update "t" ⟨[("a", a)], List.pairwise_singleton ..⟩
    (some ⟨[("b", .operators [("$in", inner), ("nin", other)]), ("c", .literal c)], by simp⟩)

/-- The update with values that look like parts of a statement. -/
def hostileUpdate : Request :=
  valuesUpdate (.string "1 WHERE 0") (.array [.string "') OR 1 = 1 --", .string "?"]) (.array [])
    (.string "$1")

/-- The update with other values. -/
def plainUpdate : Request :=
  valuesUpdate .null (.array [.bool true, .null]) (.string "x") (.object [])

/-- The two updates have one text. -/
theorem hostileUpdate_text : ∃ s s',
    hostileUpdate.statement .postgres = .ok s ∧ plainUpdate.statement .postgres = .ok s' ∧
    s.sql = "UPDATE \"t\" SET \"a\" = $1 WHERE \"b\" IN ($2, $3) AND TRUE AND \"c\" = $4" ∧
    s'.sql = s.sql ∧ s'.params.length = s.params.length := by
  have halike : hostileUpdate.Alike plainUpdate :=
    .update "t" rfl (.some (.cons ⟨rfl, .operators (.cons ⟨rfl, fun _ _ _ => rfl⟩
      (.cons ⟨rfl, fun _ _ _ => rfl⟩ .nil))⟩ (.cons ⟨rfl, .literal ..⟩ .nil)))
  refine ⟨_, _, rfl, rfl, by decide +kernel, ?_⟩
  cases text_without_values halike .postgres with
  | ok h => exact ⟨h.1.symm, h.2.symm⟩

end TableService
