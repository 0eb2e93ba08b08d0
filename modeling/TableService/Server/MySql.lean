/-
  A MySQL server as a database.

  A statement is prepared first, when the server counts its parameters or refuses it; then it is
  run with them.
-/
import TableService.Server.MySqlValue
import TableService.Server.Remote
import TableService.Text.Quoted

namespace TableService.Server.MySql

/-- Why a server refuses a statement. -/
structure Refusal where
  code : Nat
  state : String
  message : String

/-- What a statement gives: rows for its columns, and how many rows it changed. -/
structure Outcome where
  columns : List String
  rows : List (List MySqlValue)
  affected : Nat

/-- What a server makes of a statement. -/
abbrev Answer := Except Refusal Outcome

/-- A link to a server. -/
abbrev MySqlLink := Link Answer MySqlValue

/-- What is said of a refusal. -/
def Refusal.text (r : Refusal) : String :=
  "Server error: " ++ Text.backquoted s!"ERROR {r.state} ({r.code}): {r.message}"

/-- No connection can be had. -/
def closed : Error :=
  .connection ("Failed to get MySQL connection from pool: Driver error: " ++
    Text.backquoted "Pool was disconnected.")

/-- What is said when a statement could not be run. -/
def failed (text : String) : Error := .database ("Query execution failed: " ++ text)

/-- The number of parameters of a statement. -/
def parameterCount (sql : String) : Nat :=
  (unquoted ['\'', '"', Dialect.mysql.quoteChar] none sql.toList).count '?'

/-- Fails unless a statement has its number of parameters. -/
def checkCount (statement : Statement) : Except Error Unit :=
  let wanted := parameterCount statement.sql
  let given := statement.params.length
  if wanted = given then .ok ()
  else .error (failed ("Driver error: " ++
    Text.backquoted s!"Statement takes {wanted} parameters but {given} was supplied."))

/-- Sends a text; what the server says to it. -/
def prepare (report : String → Error) (sql : String) : Action MySqlLink Outcome := do
  match ← Link.ask closed sql with
  | .error r =>
    Link.note sql none
    throw (report r.text)
  | .ok o => return o

/-- Runs a statement. -/
def run (statement : Statement) : Action MySqlLink Outcome := do
  let o ← prepare failed statement.sql
  match checkCount statement with
  | .error e =>
    Link.note statement.sql none
    throw e
  | .ok () =>
    Link.note statement.sql (some (statement.params.map MySqlValue.ofJson))
    return o

/-- A row as JSON values under the names of the columns. -/
def rowOf (columns : List String) (values : List MySqlValue) : Row :=
  Record.ofList (List.zipWith (fun c v => (c, v.json)) columns values)

/-- A server. -/
def remote : Remote MySqlLink where
  dialect := .mysql
  define name sql := do
    discard (prepare (fun text => .database ("Failed to create table " ++ name ++ ": " ++ text)) sql)
    Link.note sql none
  execute statement := do return (← run statement).affected
  fetch statement := do
    let o ← run statement
    return if o.columns.isEmpty then [] else o.rows.map (rowOf o.columns)
  disconnect := do
    Link.close
    Action.info "MySQL pool closed"

/-- A server as a database. -/
def database : Database MySqlLink := remote.database

end TableService.Server.MySql
