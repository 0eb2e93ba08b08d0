/-
  The start of a service: reading its schema document, connecting to its database, and preparing
  this.

  * `connect` connects to the database that settings name.
  * `launch` starts a service; its result is the registry of the tables and the connection.  What
    goes wrong leaves the lines of the log that were written before.
-/
import TableService.Schema.Creation
import TableService.Server.MySql
import TableService.Server.MySqlAddress
import TableService.Server.Postgres
import TableService.Server.PostgresAddress
import TableService.Store.Opening

namespace TableService

/-- What a service finds around itself: files, and the servers that answer at an endpoint. -/
structure Surroundings where
  files : Files
  mySql : Server.Endpoint → Option (String → Server.MySql.Answer)
  postgres : Server.Endpoint → Option (String → Server.Postgres.Answer)

/-- A database that is connected to. -/
inductive Connected where
  | sqlite (c : Store.Connection)
  | mySql (link : Server.MySql.MySqlLink)
  | postgres (link : Server.Postgres.PostgresLink)

namespace Connected

/-- The states of a database of this kind. -/
def State : Connected → Type
  | .sqlite _ => Store.Connection
  | .mySql _ => Server.MySql.MySqlLink
  | .postgres _ => Server.Postgres.PostgresLink

/-- The actions of the database. -/
def database : (c : Connected) → Database c.State
  | .sqlite _ => Store.database
  | .mySql _ => Server.MySql.database
  | .postgres _ => Server.Postgres.database

/-- The dialect of the database. -/
def dialect (c : Connected) : Dialect := c.database.dialect

/-- Runs what is done with any database. -/
def perform {σ α : Type} (a : {τ : Type} → Database τ → Action τ α) :
    Connected → Action σ (α × Connected)
  | .sqlite c => return (← (a Store.database).apart c).map id .sqlite
  | .mySql link => return (← (a Server.MySql.database).apart link).map id .mySql
  | .postgres link => return (← (a Server.Postgres.database).apart link).map id .postgres

end Connected

/-! ## Connecting -/

/-- What the log calls the place of a server: its URL without the password, or its host. -/
def DatabaseSettings.shownPlace (s : DatabaseSettings) : String :=
  match s.url with
  | some url => Url.masked url
  | none => s.host.getD ""

/-- Connects to a MySQL server. -/
def connectMySql (s : DatabaseSettings) : Action Surroundings Connected := do
  let endpoint ← Action.ofExcept ((Server.MySql.endpoint? s).mapError (·.toError))
  match endpoint.bind (← Action.state).mySql with
  | none => throw (.connection "Failed to get MySQL connection from pool")
  | some answer =>
    Action.info ("Connected to MySQL at " ++ s.shownPlace)
    return .mySql (.fresh answer)

/-- Connects to a PostgreSQL server, the first of the endpoints where there is one. -/
def connectPostgres (s : DatabaseSettings) : Action Surroundings Connected := do
  match Server.Postgres.endpoints s with
  | .error f =>
    if let some text := f.logged? then Action.log .error text
    throw f.toError
  | .ok endpoints =>
    match endpoints.findSome? (← Action.state).postgres with
    | none => throw (.connection "Failed to get connection from pool")
    | some answer =>
      Action.info ("Connected to PostgreSQL at " ++ s.shownPlace)
      return .postgres (.fresh answer)

/-- Connects to a store among the files. -/
def connectStore (s : DatabaseSettings) : Action Surroundings Connected := do
  let around ← Action.state
  let (c, files) ← (Store.connect s).apart around.files
  Action.setState { around with files }
  return .sqlite c

/-- Connects to the database that settings name. -/
def connect (s : DatabaseSettings) : Action Surroundings Connected := do
  let dialect ← Action.ofExcept (Dialect.ofName s.type)
  Action.info ("Connecting to " ++ dialect.name ++ " database")
  match dialect with
  | .sqlite => connectStore s
  | .mysql => connectMySql s
  | .postgres => connectPostgres s

/-! ## Starting -/

/-- The localization that settings ask for, if it is enabled. -/
def LocalizationSettings.check (s : LocalizationSettings) :
    Except Localization.Fault (Option Localization) :=
  if s.enable then (Localization.check s.locales s.fallback).map some else .ok none

/-- Reads a schema document. -/
def readDocument (files : Files) (path : String) : Except Error Schema.Document :=
  match files.read path with
  | .error f => .error (.schema ("Failed to read schema document " ++ path ++ ": " ++ f.message))
  | .ok text =>
    match Schema.Document.parse? text with
    | some doc => .ok doc
    | none => .error (.schema "Invalid schema document")

/-- Starts a service: the registry of its tables, and its database. -/
def launch (s : Settings) : Action Surroundings (Registry × Connected) := do
  let localization ← Action.ofExcept (s.localization.check.mapError (·.toError))
  if let some l := localization then
    Action.info ("Localization enabled for locales: " ++ commaSpaced l.locales ++
      " (fallback " ++ l.fallback ++ ")")
  Action.info ("Loading schema document from " ++ s.schemaPath)
  let doc ← Action.ofExcept (readDocument (← Action.state).files s.schemaPath)
  let c ← connect s.database
  c.perform fun db => Schema.start db ⟨s.exemptTables, localization⟩ doc

end TableService
