/-
  The embedded database as a `Database`.

  The state is a connection: to a store, unless it is closed or its file holds something else.  A
  request that is refused by its own checks is refused for that reason even then.

  A command is carried out as it is; the text of its statement asks for the same, as `run_statement`
  says.
-/
import TableService.Database
import TableService.Store.Statement

namespace TableService.Store

/-- A connection to a store. -/
inductive Connection where
  | open (s : Contents)
  | closed
  /-- The file is no database, which is noticed only when it is used. -/
  | unreadable

/-- The store of a connection that can be used. -/
def opened : Action Connection Contents := do
  match ← Action.state with
  | .open s => return s
  | .closed => throw (.connection "SQLite connection is closed")
  | .unreadable => throw Fault.notADatabase.toError

/-- Goes on with the result of a statement. -/
def settled {α : Type} (r : Except Fault α) : Action Connection α :=
  Action.ofExcept (r.mapError Fault.toError)

/-- Runs a statement that changes the store. -/
def changing {α : Type} (f : Contents → Except Fault (Contents × α)) : Action Connection α := do
  let (s, a) ← settled (f (← opened))
  Action.setState (.open s)
  return a

/-- The table that holds the greatest keys; it is there as soon as any other is. -/
def sequenceTable : String := "sqlite_sequence"

/-- A table has exactly this name. -/
def hasTable (s : Contents) (name : String) : Bool :=
  s.tables.any fun t => t.name == name || name == sequenceTable

/-- Values of a row as cells. -/
def cellsOf (row : Assignments) : List (String × Cell) :=
  row.map fun (column, value) => (column.name, .ofJson value)

/-- The rows that tests pick, of a table that may be missing. -/
def picking (s : Contents) (table : String) (tests : List Test) : Entry → Bool :=
  match s.find? table with
  | some t => t.picks tests
  | none => fun _ => false

/-- The embedded database. -/
def database : Database Connection where
  dialect := .sqlite
  createTable name definitions := do
    let table ← Action.ofQuery (Identifier.ofName name)
    changing fun s => return (← s.create table definitions, ())
  insert c := changing fun s => return (← s.insert c.table.name (cellsOf c.row), ())
  select c := do settled ((← opened).select c)
  update c := changing fun s =>
    s.update c.table.name (cellsOf c.row) (picking s c.table.name c.tests)
  delete c := changing fun s => s.delete c.table.name (picking s c.table.name c.tests)
  execute statement := changing fun s =>
    return ((← Request.run s statement.sql statement.params).1, ())
  fetch statement := changing fun s =>
    return (← Request.run s statement.sql statement.params).map id Answer.rows
  tableExists name := return hasTable (← opened) name
  disconnect := do
    match ← Action.state with
    | .closed => return ()
    | _ =>
      Action.setState .closed
      Action.info "SQLite connection closed"

end TableService.Store
