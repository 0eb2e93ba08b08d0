/-
  Kinds of fields, and how a declared type is read.

  * A `FieldKind` says how the values of a column are to be shown, whatever the engine.
  * `FieldKind.ofType` takes the kind from the beginning of a column type; what is not known is
    text.
  * `FieldDescription.ofDeclaration` gives the column type and the kind of a declared type.  Long
    texts and points in time are declared by a word of their own.
-/
import TableService.Dialect
import TableService.Json.Shape
import TableService.Text.Blank

namespace TableService

/-- What the values of a field are. -/
inductive FieldKind where
  | number
  | text
  | boolean
  | binary
  | datetime
  | markdown
  | json
  deriving DecidableEq, Repr, Inhabited

namespace FieldKind

/-- The name of a kind. -/
def name : FieldKind → String
  | .number => "number"
  | .text => "text"
  | .boolean => "boolean"
  | .binary => "binary"
  | .datetime => "datetime"
  | .markdown => "markdown"
  | .json => "json"

/-- All kinds by name. -/
def byName : List (String × FieldKind) :=
  [FieldKind.number, .text, .boolean, .binary, .datetime, .markdown, .json].map
    fun k => (k.name, k)

/-- The beginnings of the types of each kind.  The small integer of one digit is a truth value, so
it stands before the numbers. -/
def beginnings : List (FieldKind × List String) :=
  [(.boolean, ["tinyint(1)", "bool"]),
    (.number, ["integer", "int", "smallint", "mediumint", "bigint", "tinyint", "real", "float",
      "double", "decimal", "numeric"]),
    (.binary, ["blob", "tinyblob", "mediumblob", "longblob", "binary", "varbinary", "bytea"])]

/-- A type without blanks at its ends, in lower case. -/
def normalForm (type : String) : String := Text.lower (Text.trim type)

/-- The kind of a column type, by how it begins. -/
def ofType (type : String) : FieldKind :=
  let form := (normalForm type).toList
  match beginnings.find? fun (_, words) => words.any fun w => w.toList.isPrefixOf form with
  | some (kind, _) => kind
  | none => .text

/-- The kind that is declared by a word of its own instead of a column type. -/
def ofWord? (type : String) : Option FieldKind :=
  let form := normalForm type
  if form = "markdown" then some .markdown
  else if form = "json" then some .json
  else if form = "datetime" then some .datetime
  else none

end FieldKind

/-- What is known of a column. -/
structure FieldDescription where
  /-- The type as it is written in the definition of the column. -/
  columnType : String
  kind : FieldKind
  deriving DecidableEq, Repr, Inhabited

namespace FieldDescription

/-- The column of a declared type. -/
def ofDeclaration (d : Dialect) (type : String) : FieldDescription :=
  match FieldKind.ofWord? type with
  | some .markdown => ⟨d.longText, .markdown⟩
  | some .json => ⟨d.longText, .json⟩
  | some kind => ⟨d.datetime, kind⟩
  | none => ⟨Text.trim type, FieldKind.ofType type⟩

/-- The description as JSON. -/
def json (f : FieldDescription) : Json :=
  .object [("defaultType", .string f.columnType), ("type", .string f.kind.name)]

/-- A description in JSON. -/
def shape : Shape FieldDescription :=
  .record
    [.of "defaultType" .string fun v (s : Option String × Option FieldKind) => (some v, s.2),
      .of "type" (.keyword FieldKind.byName) fun v s => (s.1, some v)]
    (none, none) fun (type, kind) => return ⟨← type, ← kind⟩

end FieldDescription

end TableService
