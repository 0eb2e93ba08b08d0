/-
  Faults: why the embedded database refuses a statement.

  A statement that needs what this engine leaves out is refused with `Fault.leftOut`, whatever the
  database itself would make of it.
-/
import TableService.Error

namespace TableService.Store

/-- A token that does not fit, with the statement and the number of bytes before the token. -/
structure Misfit where
  token : String
  sql : String
  offset : Nat
  deriving DecidableEq, Repr

/-- Why a statement is refused. -/
inductive Fault where
  | noTable (name : String)
  | noColumn (name : String)
  /-- A name without quotes that is no column of the table that is read. -/
  | unknownName (m : Misfit)
  | noColumnToInsert (table column : String)
  | notNull (table column : String)
  | unique (table : String) (columns : List String)
  | foreignKey
  /-- The columns that a foreign key refers to are not known to be unique. -/
  | mismatch (child parent : String)
  | notInteger
  /-- There is no key left. -/
  | full
  | tooDeep
  | duplicateColumn (name : String)
  | reservedName (name : String)
  | secondPrimaryKey (table : String)
  | unknownForeignColumn (name : String)
  /-- The same constraint says twice what is done about a conflict, and not the same. -/
  | conflictingClauses
  | unknownOption (name : String)
  | syntaxError (m : Misfit)
  | badToken (m : Misfit)
  | incomplete
  /-- The statement has another number of parameters. -/
  | parameterCount (given needed : Nat)
  /-- The file holds something else. -/
  | notADatabase
  /-- What the engine leaves out. -/
  | leftOut (what : String)
  deriving DecidableEq, Repr

namespace Misfit

/-- Where the token stands. -/
def place (m : Misfit) : String :=
  " in " ++ m.sql ++ " at offset " ++ String.ofList (digitsText m.offset)

end Misfit

namespace Fault

/-- The text of a fault. -/
def message : Fault → String
  | .noTable name => "no such table: " ++ name
  | .noColumn name => "no such column: " ++ name
  | .unknownName m => "no such column: " ++ m.token ++ m.place
  | .noColumnToInsert table column => "table " ++ table ++ " has no column named " ++ column
  | .notNull table column => "NOT NULL constraint failed: " ++ table ++ "." ++ column
  | .unique table columns =>
    "UNIQUE constraint failed: " ++ commaSpaced (columns.map fun c => table ++ "." ++ c)
  | .foreignKey => "FOREIGN KEY constraint failed"
  | .mismatch child parent =>
    "foreign key mismatch - \"" ++ child ++ "\" referencing \"" ++ parent ++ "\""
  | .notInteger => "datatype mismatch"
  | .full => "database or disk is full"
  | .tooDeep => "too many levels of trigger recursion"
  | .duplicateColumn name => "duplicate column name: " ++ name
  | .reservedName name => "object name reserved for internal use: " ++ name
  | .secondPrimaryKey table => "table \"" ++ table ++ "\" has more than one primary key"
  | .unknownForeignColumn name => "unknown column \"" ++ name ++ "\" in foreign key definition"
  | .conflictingClauses => "conflicting ON CONFLICT clauses specified"
  | .unknownOption name => "unknown table option: " ++ name
  | .syntaxError m => "near \"" ++ m.token ++ "\": syntax error" ++ m.place
  | .badToken m => "unrecognized token: \"" ++ m.token ++ "\"" ++ m.place
  | .incomplete => "incomplete input"
  | .notADatabase => "file is not a database"
  | .leftOut what => "left out: " ++ what
  | .parameterCount given needed =>
    "Wrong number of parameters passed to query. Got " ++ String.ofList (digitsText given) ++
      ", needed " ++ String.ofList (digitsText needed)

/-- The error that the service reports. -/
def toError (f : Fault) : Error := .database f.message

end Fault

end TableService.Store
