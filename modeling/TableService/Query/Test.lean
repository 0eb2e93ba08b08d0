/-
  Tests: the conditions of a filter as predicates on columns, before any dialect.

  * A `Test` compares a column with one value, asks whether it is among given values, or is
    constant.
  * `Filter.tests` turns a filter into tests: one for a literal and one for each operator.  A list
    operator without a list of values is constant, since no value is in an empty list.
  * `Test.sql` writes a test, with the number of placeholders used before it.
-/
import TableService.Dialect
import TableService.Query.Error
import TableService.Query.Filter

namespace TableService

/-- A predicate on a row. -/
inductive Test where
  | compare (column : Identifier) (c : Comparison) (operand : Json)
  /-- The column is one of the values, or none of them when `negated`; there is a value. -/
  | member (column : Identifier) (negated : Bool) (first : Json) (others : List Json)
  | constant (holds : Bool)

namespace Test

/-- The values that the test binds, in order. -/
def operands : Test → List Json
  | .compare _ _ operand => [operand]
  | .member _ _ first others => first :: others
  | .constant _ => []

/-- The marks of `count` parameters after `used` others. -/
def marks (d : Dialect) (used count : Nat) : List String :=
  (List.range count).map fun i => d.placeholder (used + i + 1)

/-- The text of a test after `used` parameters. -/
def sql (d : Dialect) (used : Nat) : Test → String
  | .compare column c _ =>
    d.quote column ++ " " ++ c.sql ++ " " ++ d.placeholder (used + 1)
  | .member column negated _ others =>
    d.quote column ++ " " ++ (if negated then Operator.outside else .within).sql ++ " (" ++
      commaSpaced (marks d used (others.length + 1)) ++ ")"
  | .constant holds => d.constant holds

/-- The texts of tests after `used` parameters, each numbered after those before it. -/
def sqls (d : Dialect) (used : Nat) : List Test → List String
  | [] => []
  | t :: ts => t.sql d used :: sqls d (used + t.operands.length) ts

/-- The predicate that all tests hold. -/
def clause (d : Dialect) (used : Nat) (tests : List Test) : String :=
  String.intercalate " AND " (sqls d used tests)

/-- The predicate as a part of a statement; none for an empty clause. -/
def whereSql (d : Dialect) (used : Nat) (tests : List Test) : String :=
  let clause := clause d used tests
  if clause = "" then "" else " WHERE " ++ clause

/-- The values that the tests bind, in order. -/
def params (tests : List Test) : List Json := tests.flatMap operands

/-- The test of an operator on a column. -/
def ofOperator (column : Identifier) : Operator → Json → Test
  | .compare c, operand => .compare column c operand
  | .within, .array (v :: vs) => .member column false v vs
  | .outside, .array (v :: vs) => .member column true v vs
  | .within, _ => .constant false
  | .outside, _ => .constant true

/-- The test of an operator entry on a column. -/
def ofEntry (column : Identifier) (entry : String × Json) : Except QueryError Test :=
  match Operator.ofKey? entry.1 with
  | some op => .ok (ofOperator column op entry.2)
  | none => .error (.operator entry.1)

/-- The tests of a condition; the field is checked before the operators. -/
def ofCondition (c : String × Condition) : Except QueryError (List Test) := do
  let column ← Identifier.ofName c.1
  match c.2 with
  | .literal value => return [.compare column .eq value]
  | .operators entries => entries.mapM (ofEntry column)

end Test

/-- The tests of a filter, in order. -/
def Filter.tests (filter : Filter) : Except QueryError (List Test) :=
  (filter.entries.mapM Test.ofCondition).map List.flatten

/-- The tests of a filter that may be absent. -/
def Filter.testsOf (filter : Option Filter) : Except QueryError (List Test) :=
  match filter with
  | some f => f.tests
  | none => .ok []

end TableService
