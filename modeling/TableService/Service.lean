/-
  A service: a database with the registry of its tables.

  * Only registered tables are looked at, and only columns that are registered for them; what a
    request names besides these is refused before the database is asked.
  * A read without columns is one of the columns to display.
-/
import TableService.Schema.Creation

namespace TableService

/-- A database with the tables that are known of it. -/
structure Service (σ : Type) where
  database : Database σ
  registry : Registry

namespace Service

variable {σ : Type} (s : Service σ)

/-- The description of a registered table. -/
def description (table : String) : Except Error TableDescription :=
  match s.registry.get? table with
  | some t => .ok t
  | none => .error (.notFound ("Table " ++ table ++ " not found"))

/-- Fails at the first column that a table does not have. -/
def checkColumns (t : TableDescription) (table : String) (columns : List String) :
    Except Error Unit :=
  match columns.find? fun c => !t.contains c with
  | some c => .error (.validation ("Unknown field " ++ c ++ " for table " ++ table))
  | none => .ok ()

/-- The columns that an order mentions; what is wrong with an entry is found later. -/
def orderColumns (order : Option (List String)) : List String :=
  (order.getD []).filterMap fun entry => (Text.words entry).head?

/-- The columns to read where none are asked for. -/
def shownColumns (table : String) (fields : Option (List String)) : Option (List String) :=
  match fields with
  | some (f :: fs) => some (f :: fs)
  | _ => s.registry.displayFields table

/-- Checks the columns of a read: those of the filter, of the order, and those to be read. -/
def checkRead (table : String) (o : ReadOptions) : Except Error ReadOptions := do
  let t ← s.description table
  checkColumns t table ((o.filter.map Named.names).getD [])
  checkColumns t table (orderColumns o.orderBy)
  checkColumns t table (o.fields.getD [])
  return { o with fields := s.shownColumns table o.fields }

/-- Checks the columns of a row. -/
def checkRow (table : String) (row : Row) : Except Error Unit := do
  checkColumns (← s.description table) table row.names

/-- The filter for the row with a key. -/
def byId (id : Int64) : Filter :=
  Filter.eq .empty Identifier.id.name (.ofInt64 id)

/-- There is no row with this key. -/
def missing (table : String) (id : Int64) : Error :=
  .notFound ("Row " ++ String.ofList (intText id.toInt) ++ " not found in " ++ table)

/-- Rows of a table. -/
def readRows (table : String) (o : ReadOptions) : Action σ (List Row) := do
  s.database.read table (← Action.ofExcept (s.checkRead table o))

/-- The row with a key. -/
def getRow (table : String) (id : Int64) : Action σ Row := do
  discard (Action.ofExcept (s.description table))
  let o := { ReadOptions.all.withFilter (byId id) with
    limit := some 1, fields := s.registry.displayFields table }
  match ← s.database.read table o with
  | row :: _ => return row
  | [] => throw (missing table id)

/-- Adds a row. -/
def createRow (table : String) (row : Row) : Action σ Unit := do
  Action.ofExcept (s.checkRow table row)
  s.database.create table row
  Action.info ("Created row in " ++ table)

/-- Changes the row with a key; the number of rows is never zero. -/
def updateRow (table : String) (id : Int64) (row : Row) : Action σ Nat := do
  Action.ofExcept (s.checkRow table row)
  match ← s.database.change table row (some (byId id)) with
  | 0 => throw (missing table id)
  | n => return n

/-- Removes the row with a key; the number of rows is never zero. -/
def deleteRow (table : String) (id : Int64) : Action σ Nat := do
  discard (Action.ofExcept (s.description table))
  match ← s.database.remove table (some (byId id)) with
  | 0 => throw (missing table id)
  | n => return n

end Service

end TableService
