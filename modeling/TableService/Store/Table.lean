/-
  Tables of the embedded database.

  * Every table has a key column `id` with 64-bit numbers, and further columns.  A `Place` is the
    key or the position of another column.
  * `Table.place?` finds a column by its name, in which the case of ASCII letters does not matter.
    The key has other names too, for statements that are not about its declaration.
  * A `Resolution` says what is done about a row that breaks a constraint of its table.  `FAIL` is
    not among them: with it a statement that fails leaves what it has done so far.
  * The `Contents` of a database are its tables, in the order of their creation.
-/
import TableService.Identifier
import TableService.KeyAction
import TableService.Store.Affinity
import TableService.Store.Entries
import TableService.Store.Fault

namespace TableService.Store

/-- What a statement does about a row that breaks a constraint. -/
inductive Resolution where
  /-- It fails, as it does where nothing is said. -/
  | abort
  /-- It fails; there is no transaction that would end with it. -/
  | rollback
  /-- It goes on without the row. -/
  | ignore
  /-- A missing value becomes the initial one, and rows with the same unique values make way. -/
  | replace
  deriving DecidableEq, Repr

/-- A column besides the key. -/
structure Column where
  name : String
  affinity : Affinity
  /-- What is done about a missing value, if a value is required. -/
  required : Option Resolution
  /-- What a new row has without a value for the column, if that is said. -/
  initial : Option Cell

/-- The key, or the position of a column. -/
inductive Place where
  | key
  | cell (position : Nat)
  deriving DecidableEq, Repr

/-- A column that refers to a column of another table, to its key if none is named. -/
structure ForeignKey where
  place : Place
  target : String
  column : Option String
  onDelete : KeyAction
  onUpdate : KeyAction
  deriving DecidableEq

/-- Columns whose values together are in one row at most. -/
structure UniqueKey where
  places : List Place
  /-- What is done about a row with the values of another one, if that is said. -/
  resolution : Option Resolution
  deriving DecidableEq

/-- Names are the same but for the case of ASCII letters. -/
def sameName (a b : String) : Bool := Text.lowerAscii a == Text.lowerAscii b

/-- A table. -/
structure Table where
  name : String
  columns : List Column
  /-- The last declared first, but those for which other rows make way after the others. -/
  unique : List UniqueKey
  /-- The last declared first. -/
  foreignKeys : List ForeignKey
  entries : Entries
  /-- The greatest key ever given to a row, or zero. -/
  issued : Int64

/-- The name of the key column. -/
def keyName : String := Identifier.id.name

/-- Other names for the key in statements. -/
def keyAliases : List String := ["rowid", "oid", "_rowid_"]

/-- The value at a place of a row. -/
def Entry.get (e : Entry) : Place → Cell
  | .key => .integer e.id
  | .cell i => e.cells.getD i .null

namespace Table

/-- The names of all columns, the key first. -/
def names (t : Table) : List String := keyName :: t.columns.map Column.name

/-- The places of all columns. -/
def places (t : Table) : List Place := .key :: (List.range t.columns.length).map .cell

/-- The declared column of a name. -/
def declared? (t : Table) (name : String) : Option Place :=
  if sameName name keyName then some .key
  else (t.columns.findIdx? fun c => sameName name c.name).map .cell

/-- The column of a name in a statement. -/
def place? (t : Table) (name : String) : Option Place :=
  t.declared? name <|> if keyAliases.any (sameName name) then some .key else none

/-- The declared name of a column. -/
def nameAt (t : Table) : Place → String
  | .key => keyName
  | .cell i => (t.columns[i]?.map Column.name).getD ""

/-- The affinity of a column. -/
def affinityAt (t : Table) : Place → Affinity
  | .key => .numeric
  | .cell i => (t.columns[i]?.map Column.affinity).getD .blob

/-- The value that a column has where none is given. -/
def initialAt (t : Table) : Place → Cell
  | .key => .null
  | .cell i => (t.columns[i]?.bind Column.initial).getD .null

/-- No two rows have the same value there. -/
def isUnique (t : Table) : Place → Bool
  | .key => true
  | place => t.unique.any fun k => k.places == [place]

end Table

/-- The beginning of the names that tables may not have. -/
def reservedStart : String := "sqlite_"

/-- A table may not have this name. -/
def isReserved (name : String) : Bool :=
  reservedStart.toList.isPrefixOf (Text.lowerAscii name).toList

/-- The contents of a database: its tables, in the order of their creation. -/
structure Contents where
  tables : List Table

instance : Inhabited Contents := ⟨⟨[]⟩⟩

namespace Contents

/-- The table of a name. -/
def find? (s : Contents) (name : String) : Option Table := s.tables.find? fun t => sameName name t.name

/-- The table of a name, which a statement needs; those of the database itself are left out. -/
def get (s : Contents) (name : String) : Except Fault Table :=
  match s.find? name with
  | some t => .ok t
  | none => .error (if isReserved name then .leftOut name else .noTable name)

/-- Puts a row into a table. -/
def putEntry (s : Contents) (t : Table) (e : Entry) : Contents :=
  ⟨s.tables.map fun u =>
    if sameName t.name u.name then { u with entries := u.entries.put e } else u⟩

/-- Removes a row of a table. -/
def eraseEntry (s : Contents) (t : Table) (id : Int64) : Contents :=
  ⟨s.tables.map fun u =>
    if sameName t.name u.name then { u with entries := u.entries.erase id } else u⟩

/-- The foreign keys that refer to a table, with the tables that have them, the last declared
first. -/
def referring (s : Contents) (t : Table) : List (Table × ForeignKey) :=
  s.tables.reverse.flatMap fun child =>
    (child.foreignKeys.filter fun fk => sameName fk.target t.name).map fun fk => (child, fk)

end Contents

end TableService.Store
