/-
  The settings of a service.

  * `Settings.address` is where the service listens.
  * `Settings.exemptTables` are the tables of other parts of the system, which are there before the
    tables of the schema.
  * `Settings.shape` and `DatabaseSettings.shape` read settings from JSON.
-/
import TableService.Json.Shape

namespace TableService

/-- How to reach the database. -/
structure DatabaseSettings where
  /-- The name of the dialect. -/
  type : String
  /-- The file of an embedded database. -/
  path : Option String := none
  /-- Where a server is; preferred to the parts below. -/
  url : Option String := none
  host : Option String := none
  port : Option UInt16 := none
  user : Option String := none
  password : Option String := none
  database : Option String := none
  deriving Repr, Inhabited

/-- Where the service listens. -/
structure ServerSettings where
  host : String
  port : UInt16
  deriving Repr

/-- The languages of localized fields. -/
structure LocalizationSettings where
  enable : Bool
  locales : List String
  fallback : String
  deriving Repr

/-- All settings. -/
structure Settings where
  database : DatabaseSettings
  server : ServerSettings
  /-- The file of the schema document. -/
  schemaPath : String
  localization : LocalizationSettings
  /-- There is a storage of files. -/
  storage : Bool
  /-- There are users. -/
  auth : Bool
  logLevel : String
  deriving Repr

namespace Settings

/-- The host and the port of the service. -/
def address (s : Settings) : String := s.server.host ++ ":" ++ toString s.server.port.toNat

/-- The table of the storage of files. -/
def mediaTable : String := "media"

/-- The table of the users. -/
def usersTable : String := "users"

/-- The tables of the other parts of the system, ascending. -/
def exemptTables (s : Settings) : List String :=
  (if s.storage then [mediaTable] else []) ++ (if s.auth then [usersTable] else [])

end Settings

/-! ## Settings in JSON -/

/-- A port. -/
def Shape.port : Shape UInt16 := fun d v => (Shape.whole UInt16.size d v).map Nat.toUInt16

/-- The shape of the settings of a database; only the type is required. -/
def DatabaseSettings.shape : Shape DatabaseSettings :=
  .record
    [.of "type" .string fun v (_, s) => (true, { s with type := v }),
      .of "path" (.optional .string) fun v (b, s) => (b, { s with path := v }),
      .of "url" (.optional .string) fun v (b, s) => (b, { s with url := v }),
      .of "host" (.optional .string) fun v (b, s) => (b, { s with host := v }),
      .of "port" (.optional .port) fun v (b, s) => (b, { s with port := v }),
      .of "user" (.optional .string) fun v (b, s) => (b, { s with user := v }),
      .of "password" (.optional .string) fun v (b, s) => (b, { s with password := v }),
      .of "database" (.optional .string) fun v (b, s) => (b, { s with database := v })]
    (false, { type := "" }) fun (named, s) => if named then some s else none

/-- The shape of where the service listens. -/
def ServerSettings.shape : Shape ServerSettings :=
  .record
    [.of "host" .string fun v (_, p) => (some v, p), .of "port" .port fun v (h, _) => (h, some v)]
    (none, none) fun (h, p) => do return ⟨← h, ← p⟩

/-- The shape of the languages; no locales need to be given. -/
def LocalizationSettings.shape : Shape LocalizationSettings :=
  .record
    [.of "enable" .bool fun v (_, l, f) => (some v, l, f),
      .of "locales" (.list .string) fun v (e, _, f) => (e, v, f),
      .of "fallback_locale" .string fun v (e, l, _) => (e, l, some v)]
    (none, [], none) fun (e, l, f) => do return ⟨← e, l, ← f⟩

/-- The shape of a record of one required value. -/
def Shape.single {α : Type} (name : String) (shape : Shape α) : Shape α :=
  .record [.of name shape fun v _ => some v] none id

/-- The parts of settings that have been read. -/
structure Settings.Draft where
  database : Option DatabaseSettings := none
  server : Option ServerSettings := none
  schemaPath : Option String := none
  localization : Option LocalizationSettings := none
  storage : Option Bool := none
  auth : Option Bool := none
  logLevel : Option String := none

/-- The settings, if no part is missing. -/
def Settings.Draft.finish (d : Draft) : Option Settings := do
  return ⟨← d.database, ← d.server, ← d.schemaPath, ← d.localization, ← d.storage, ← d.auth,
    ← d.logLevel⟩

/-- The shape of settings; all parts are required. -/
def Settings.shape : Shape Settings :=
  .record
    [.of "database" DatabaseSettings.shape fun v d => { d with database := v },
      .of "server" ServerSettings.shape fun v d => { d with server := v },
      .of "schema" (.single "path" .string) fun v d => { d with schemaPath := v },
      .of "localization" LocalizationSettings.shape fun v d => { d with localization := v },
      .of "storage" (.single "enable" .bool) fun v d => { d with storage := v },
      .of "auth" (.single "enable" .bool) fun v d => { d with auth := v },
      .of "logging" (.single "level" .string) fun v d => { d with logLevel := v }]
    {} Draft.finish

end TableService
