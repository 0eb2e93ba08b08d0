/-
  A PostgreSQL server as a database.

  A statement is prepared first, when the server says the types of its parameters or refuses it;
  then its parameters are written for these types, and it is run.
-/
import TableService.Server.PostgresValue
import TableService.Server.Remote

namespace TableService.Server.Postgres

/-- Why a server refuses a statement. -/
structure Refusal where
  code : String
  message : String

/-- What a statement gives: rows for its columns, and how many rows it changed. -/
structure Outcome where
  columns : List (String × PostgresType)
  rows : List (List PostgresWire)
  affected : Nat

/-- What a server makes of a statement; a parameter without a type is text. -/
structure Answer where
  parameters : List PostgresType
  outcome : Except Refusal Outcome

/-- A link to a server. -/
abbrev PostgresLink := Link Answer PostgresWire

/-- The error that a refusal is reported as. -/
def Refusal.toError (r : Refusal) : Error :=
  .database ("Code: " ++ r.code ++ ", Message: " ++ r.message)

/-- No connection can be had. -/
def closed : Error := .connection "Failed to get connection from pool: Pool has been closed"

/-- The greatest number behind a dollar sign. -/
def greatestMark : List Char → Nat
  | [] => 0
  | '$' :: cs => max (digitsValue (cs.takeWhile Char.isDigit)) (greatestMark cs)
  | _ :: cs => greatestMark cs

/-- The number of parameters of a statement. -/
def parameterCount (sql : String) : Nat :=
  greatestMark (unquoted ['\'', '"'] none sql.toList)

/-- The parameters for types, or the place of the first that has no form; types that are missing
are text. -/
def encodeAll : Nat → List PostgresType → List Json → Except Nat (List PostgresWire)
  | _, _, [] => .ok []
  | i, types, v :: vs =>
    match (types.head?.getD .text).encode? v with
    | some w => (encodeAll (i + 1) types.tail vs).map (w :: ·)
    | none => .error i

/-- The parameters of a statement in the types that the server wants. -/
def bind (a : Answer) (statement : Statement) : Except Error (List PostgresWire) :=
  let wanted := parameterCount statement.sql
  if wanted ≠ statement.params.length then
    .error (.database s!"expected {wanted} parameters but got {statement.params.length}")
  else (encodeAll 0 a.parameters statement.params).mapError fun i =>
    .database s!"error serializing parameter {i}"

/-- Sends a text; what the server says to it. -/
def prepare (sql : String) : Action PostgresLink (Answer × Outcome) := do
  let a ← Link.ask closed sql
  match a.outcome with
  | .error r =>
    Link.note sql none
    throw r.toError
  | .ok o => return (a, o)

/-- Runs a statement. -/
def run (statement : Statement) : Action PostgresLink Outcome := do
  let (a, o) ← prepare statement.sql
  match bind a statement with
  | .error e =>
    Link.note statement.sql none
    throw e
  | .ok params =>
    Link.note statement.sql (some params)
    return o

/-- A row as JSON values under the names of the columns. -/
def rowOf (columns : List (String × PostgresType)) (values : List PostgresWire) : Row :=
  Record.ofList (List.zipWith (fun c v => (c.1, c.2.columnJson v)) columns values)

/-- A server. -/
def remote : Remote PostgresLink where
  dialect := .postgres
  define _ sql := do
    discard (prepare sql)
    Link.note sql none
  execute statement := do return (← run statement).affected
  fetch statement := do
    let o ← run statement
    return if o.columns.isEmpty then [] else o.rows.map (rowOf o.columns)
  disconnect := do
    Link.close
    Action.info "PostgreSQL pool closed"

/-- A server as a database. -/
def database : Database PostgresLink := remote.database

end TableService.Server.Postgres
