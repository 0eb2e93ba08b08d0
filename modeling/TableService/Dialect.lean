/-
  Dialects of SQL: all that differs between the engines in the text of a statement.

  * `Dialect.quote` writes an identifier between quote characters, one inside it doubled.
  * `Dialect.placeholder` is the mark of the `n`-th parameter, the first being 1.
-/
import TableService.Identifier
import TableService.Text.Case

namespace TableService

/-- The engines whose SQL is written. -/
inductive Dialect where
  | sqlite
  | mysql
  | postgres
  deriving DecidableEq, Repr, Inhabited

namespace Dialect

/-- The name of a dialect. -/
def name : Dialect → String
  | .sqlite => "sqlite"
  | .mysql => "mysql"
  | .postgres => "postgres"

/-- The dialect of this name or alias, whatever its case. -/
def ofName (s : String) : Except Error Dialect :=
  let lower := Text.lower s
  if lower = "sqlite" ∨ lower = "sqlite3" then .ok .sqlite
  else if lower = "mysql" ∨ lower = "mariadb" then .ok .mysql
  else if lower = "postgres" ∨ lower = "postgresql" then .ok .postgres
  else .error (.config ("Invalid database driver name: " ++ s ++
    ". Possible values: sqlite, mysql, postgres"))

/-- Parameters are numbered from 1 instead of all being marked alike. -/
def isNumbered : Dialect → Bool
  | .postgres => true
  | .sqlite | .mysql => false

/-- The mark of the `n`-th parameter of a statement. -/
def placeholder (d : Dialect) (n : Nat) : String :=
  if d.isNumbered then String.ofList ('$' :: digitsText n) else "?"

/-- The character around an identifier. -/
def quoteChar : Dialect → Char
  | .mysql => Char.ofNat 0x60
  | .sqlite | .postgres => '"'

/-- Characters with each `q` among them doubled. -/
def doubled (q : Char) (cs : List Char) : List Char :=
  cs.flatMap fun c => if c = q then [q, q] else [c]

/-- A name between quote characters. -/
def quoteText (d : Dialect) (name : String) : String :=
  String.ofList (d.quoteChar :: doubled d.quoteChar name.toList ++ [d.quoteChar])

/-- The quoted identifier. -/
def quote (d : Dialect) (i : Identifier) : String := d.quoteText i.name

/-- A truth value as a predicate. -/
def constant : Dialect → Bool → String
  | .postgres, false => "FALSE"
  | .postgres, true => "TRUE"
  | .sqlite, false | .mysql, false => "0"
  | .sqlite, true | .mysql, true => "1"

/-- The definition of the key column of every table. -/
def primaryKey (d : Dialect) : String :=
  d.quote .id ++ match d with
    | .sqlite => " INTEGER PRIMARY KEY AUTOINCREMENT"
    | .mysql => " INT AUTO_INCREMENT PRIMARY KEY"
    | .postgres => " SERIAL PRIMARY KEY"

/-- The column type of long texts. -/
def longText : Dialect → String
  | .sqlite | .mysql => "LONGTEXT"
  | .postgres => "TEXT"

/-- The column type of points in time, held as text. -/
def datetime (_ : Dialect) : String := "VARCHAR(30)"

/-- A foreign key may be declared with its column. -/
def inlineForeignKeys : Dialect → Bool
  | .mysql => false
  | .sqlite | .postgres => true

/-- The limit to write before an offset where none is wanted. -/
def unboundedLimit : Dialect → Option String
  | .sqlite => some "LIMIT -1"
  | .mysql => some "LIMIT 18446744073709551615"
  | .postgres => none

end Dialect

end TableService
