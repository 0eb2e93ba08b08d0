/-
  Commands: requests for rows whose names, operators and order have been checked.

  * The checks are `Insert.check`, `Select.check`, `Update.check` and
    `Delete.check`; they report the first fault in the order in which the parts are given.
  * A command knows no dialect: `Insert.statement` and the others write it for one.
-/
import TableService.Query.Options
import TableService.Query.Order
import TableService.Query.Test

namespace TableService

/-- The text of a statement with the values of its parameters. -/
structure Statement where
  sql : String
  params : List Json

/-- Columns with the values that they are to have. -/
abbrev Assignments := List (Identifier × Json)

/-- Adds a row to a table. -/
structure Insert where
  table : Identifier
  row : Assignments

/-- Reads rows of a table; without columns, all of them. -/
structure Select where
  table : Identifier
  columns : List Identifier
  tests : List Test
  order : List OrderTerm
  limit : Option UInt64
  offset : Option UInt64

/-- Changes the rows of a table that pass the tests. -/
structure Update where
  table : Identifier
  row : Assignments
  tests : List Test

/-- Removes the rows of a table that pass the tests. -/
structure Delete where
  table : Identifier
  tests : List Test

/-- The columns of a row as assignments, for a statement that needs one at least. -/
def Assignments.check (writing : Writing) (row : Row) : Except QueryError Assignments :=
  if row.isEmpty then .error (.emptyRow writing)
  else row.entries.mapM fun (column, value) => return (← Identifier.ofName column, value)

namespace Insert

/-- Checks the row, then the table. -/
def check (table : String) (row : Row) : Except QueryError Insert := do
  let row ← Assignments.check .insert row
  return ⟨← Identifier.ofName table, row⟩

/-- The statement. -/
def statement (d : Dialect) (c : Insert) : Statement where
  sql := "INSERT INTO " ++ d.quote c.table ++
    " (" ++ commaSpaced (c.row.map fun a => d.quote a.1) ++
    ") VALUES (" ++ commaSpaced (Test.marks d 0 c.row.length) ++ ")"
  params := c.row.map Prod.snd

end Insert

namespace Select

/-- Checks the columns, the filter, the order, then the table. -/
def check (table : String) (o : ReadOptions) : Except QueryError Select := do
  let columns ← (o.fields.getD []).mapM Identifier.ofName
  let tests ← Filter.testsOf o.filter
  let order ← OrderTerm.ofEntries o.orderBy
  return ⟨← Identifier.ofName table, columns, tests, order, o.limit, o.offset⟩

/-- The list of columns in the statement. -/
def columnsSql (d : Dialect) (c : Select) : String :=
  if c.columns.isEmpty then "*" else commaSpaced (c.columns.map d.quote)

/-- The statement. -/
def statement (d : Dialect) (c : Select) : Statement where
  sql := "SELECT " ++ c.columnsSql d ++ " FROM " ++ d.quote c.table ++
    Test.whereSql d 0 c.tests ++ tailSql d c.order c.limit c.offset
  params := Test.params c.tests

end Select

namespace Update

/-- Checks the row, the filter, then the table. -/
def check (table : String) (row : Row) (filter : Option Filter) : Except QueryError Update := do
  let row ← Assignments.check .update row
  let tests ← Filter.testsOf filter
  return ⟨← Identifier.ofName table, row, tests⟩

/-- Assignments after `used` parameters. -/
def assignmentsSql (d : Dialect) (used : Nat) : Assignments → List String
  | [] => []
  | (column, _) :: rest =>
    (d.quote column ++ " = " ++ d.placeholder (used + 1)) :: assignmentsSql d (used + 1) rest

/-- The statement; the tests go on with the numbers of the parameters. -/
def statement (d : Dialect) (c : Update) : Statement where
  sql := "UPDATE " ++ d.quote c.table ++ " SET " ++ commaSpaced (assignmentsSql d 0 c.row) ++
    Test.whereSql d c.row.length c.tests
  params := c.row.map Prod.snd ++ Test.params c.tests

end Update

namespace Delete

/-- Checks the filter, then the table. -/
def check (table : String) (filter : Option Filter) : Except QueryError Delete := do
  let tests ← Filter.testsOf filter
  return ⟨← Identifier.ofName table, tests⟩

/-- The statement. -/
def statement (d : Dialect) (c : Delete) : Statement where
  sql := "DELETE FROM " ++ d.quote c.table ++ Test.whereSql d 0 c.tests
  params := Test.params c.tests

end Delete

/-- Creates a table, unless it exists, with the key column and then the definitions. -/
def createTableSql (d : Dialect) (table : Identifier) (definitions : List String) : String :=
  "CREATE TABLE IF NOT EXISTS " ++ d.quote table ++
    " (" ++ commaSpaced (d.primaryKey :: definitions) ++ ")"

/-- Looks a table up in the catalogue; there is a row when it exists. -/
def tableExists (d : Dialect) (table : String) : Statement where
  sql := match d with
    | .sqlite =>
      "SELECT name FROM sqlite_master WHERE type = 'table' AND name = " ++ d.placeholder 1
    | .mysql =>
      "SELECT TABLE_NAME FROM information_schema.TABLES WHERE TABLE_SCHEMA = DATABASE() AND " ++
        "TABLE_NAME = " ++ d.placeholder 1
    | .postgres =>
      "SELECT table_name FROM information_schema.tables WHERE table_schema = current_schema() " ++
        "AND table_name::text = " ++ d.placeholder 1
  params := [.string table]

end TableService
