/-
  Database servers, as far as they are seen from this side of a link.

  * A `Link` knows what its server answers to the text of a statement, and keeps what the server
    has received over it.
  * `Remote.database` carries out the commands of a `Database` by writing them as statements in
    the dialect of the server and sending these.
-/
import TableService.Database

namespace TableService.Server

/-- A statement as a server received it, with its parameters if it was run with them. -/
structure Received (π : Type) where
  sql : String
  params : Option (List π)

/-- A link to a server that answers by an `α` and takes parameters as `π`. -/
structure Link (α π : Type) where
  isOpen : Bool
  answer : String → α
  received : List (Received π)

namespace Link

variable {α π : Type}

/-- A link over which nothing has been sent. -/
def fresh (answer : String → α) : Link α π := ⟨true, answer, []⟩

/-- Asks the server for its answer to a text; a closed link fails with the given error. -/
def ask (closed : Error) (sql : String) : Action (Link α π) α := do
  let link ← Action.state
  if link.isOpen then return link.answer sql else throw closed

/-- Notes what the server has received. -/
def note (sql : String) (params : Option (List π)) : Action (Link α π) Unit := do
  let link ← Action.state
  Action.setState { link with received := link.received ++ [⟨sql, params⟩] }

/-- Closes the link. -/
def close : Action (Link α π) Unit := do
  let link ← Action.state
  Action.setState { link with isOpen := false }

end Link

/-- What can be asked of a server. -/
structure Remote (σ : Type) where
  dialect : Dialect
  /-- Runs a text that creates the table of a name. -/
  define : String → String → Action σ Unit
  /-- Runs a statement: the number of rows that it changed. -/
  execute : Statement → Action σ Nat
  /-- Runs a statement: the rows that it gives. -/
  fetch : Statement → Action σ (List Row)
  disconnect : Action σ Unit

/-- A server as a database. -/
def Remote.database {σ : Type} (r : Remote σ) : Database σ where
  dialect := r.dialect
  createTable name definitions := do
    let table ← Action.ofQuery (Identifier.ofName name)
    r.define name (createTableSql r.dialect table definitions)
  insert c := discard (r.execute (c.statement r.dialect))
  select c := r.fetch (c.statement r.dialect)
  update c := r.execute (c.statement r.dialect)
  delete c := r.execute (c.statement r.dialect)
  execute statement := discard (r.execute statement)
  fetch statement := r.fetch statement
  tableExists name := return !(← r.fetch (tableExists r.dialect name)).isEmpty
  disconnect := r.disconnect

/-- The characters of a statement that do not stand in quotes of the given kinds. -/
def unquoted (quotes : List Char) : Option Char → List Char → List Char
  | _, [] => []
  | some q, c :: cs => unquoted quotes (if c = q then none else some q) cs
  | none, c :: cs =>
    if quotes.contains c then unquoted quotes (some c) cs else c :: unquoted quotes none cs

end TableService.Server
