/-
  Databases as the service uses them.

  * An `Action` on a database may fail; what it did to the database and wrote to the log before it
    failed stays.
  * A `Database` is a collection of such actions on some kind of state.  The commands that it is
    given have been checked; only the name of a table to be created is given as it is.
-/
import TableService.Query.Command

namespace TableService

/-- How serious a line of the log is. -/
inductive Level where
  | error
  | info
  deriving DecidableEq, Repr

/-- The name of a level. -/
def Level.name : Level → String
  | .error => "ERROR"
  | .info => "INFO"

/-- A line of the log. -/
structure LogLine where
  level : Level
  text : String
  deriving DecidableEq, Repr

/-- The state of a database and the log so far. -/
structure Logged (σ : Type) where
  state : σ
  log : List LogLine

/-- Something done with a database. -/
abbrev Action (σ α : Type) := ExceptT Error (StateM (Logged σ)) α

namespace Action

variable {σ α : Type}

/-- Writes a line to the log. -/
def log (level : Level) (text : String) : Action σ Unit :=
  modify fun w => { w with log := w.log ++ [⟨level, text⟩] }

/-- Writes an ordinary line to the log. -/
def info (text : String) : Action σ Unit := log .info text

/-- Goes on with a result that may be an error. -/
def ofExcept (r : Except Error α) : Action σ α := ExceptT.mk (pure r)

/-- Goes on with a request that may have been refused. -/
def ofQuery (r : Except QueryError α) : Action σ α := ofExcept (r.mapError QueryError.toError)

/-- The state of the database. -/
def state : Action σ σ := do return (← get).state

/-- Sets the state of the database. -/
def setState (s : σ) : Action σ Unit := modify fun w => { w with state := s }

/-- The result of an action, the state after it and the log. -/
def runOn (a : Action σ α) (s : σ) : Except Error α × Logged σ := (a.run).run ⟨s, []⟩

/-- Runs an action on a state of its own; its result with that state afterwards. -/
def apart {τ : Type} (a : Action τ α) (s : τ) : Action σ (α × τ) := do
  let (r, after) := a.runOn s
  modify fun w => { w with log := w.log ++ after.log }
  return (← ofExcept r, after.state)

end Action

/-- The actions of a database. -/
structure Database (σ : Type) where
  dialect : Dialect
  /-- Creates a table with these definitions besides its key, unless it exists. -/
  createTable : String → List String → Action σ Unit
  insert : Insert → Action σ Unit
  select : Select → Action σ (List Row)
  /-- The number of rows changed. -/
  update : Update → Action σ Nat
  /-- The number of rows removed. -/
  delete : Delete → Action σ Nat
  /-- Runs a statement, whose rows are not wanted. -/
  execute : Statement → Action σ Unit
  /-- Runs a statement for its rows. -/
  fetch : Statement → Action σ (List Row)
  tableExists : String → Action σ Bool
  disconnect : Action σ Unit

namespace Database

variable {σ : Type} (db : Database σ)

/-- Adds a row to a table. -/
def create (table : String) (row : Row) : Action σ Unit := do
  db.insert (← Action.ofQuery (Insert.check table row))

/-- Reads rows of a table. -/
def read (table : String) (o : ReadOptions) : Action σ (List Row) := do
  db.select (← Action.ofQuery (Select.check table o))

/-- Changes the rows of a table that pass a filter. -/
def change (table : String) (row : Row) (filter : Option Filter) : Action σ Nat := do
  db.update (← Action.ofQuery (Update.check table row filter))

/-- Removes the rows of a table that pass a filter. -/
def remove (table : String) (filter : Option Filter) : Action σ Nat := do
  db.delete (← Action.ofQuery (Delete.check table filter))

end Database

end TableService
