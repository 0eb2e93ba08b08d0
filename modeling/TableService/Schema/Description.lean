/-
  Descriptions of tables, and the registry of all of them.

  * A `TableDescription` has the columns of a table in the order of their declaration.
  * A `Registry` has the tables by ascending name; a table that is registered again is replaced.
  * `Registry.displayFields` are the columns to read where none are asked for: all but the binary
    ones.
-/
import TableService.Named
import TableService.Schema.FieldKind

namespace TableService

/-- The columns of a table. -/
abbrev TableDescription := Named FieldDescription

namespace TableDescription

/-- The description as JSON, the columns in order. -/
def json (t : TableDescription) : Json :=
  .object (t.entries.map fun (name, f) => (name, f.json))

/-- The columns that are not binary, in order. -/
def displayFields (t : TableDescription) : List String :=
  (t.entries.filter fun e => e.2.kind != .binary).map Prod.fst

/-- The columns to display are in the order of the description. -/
theorem displayFields_sublist (t : TableDescription) : t.displayFields.Sublist t.names :=
  List.filter_sublist.map Prod.fst

end TableDescription

/-- The tables that are known. -/
abbrev Registry := Record TableDescription

namespace Registry

/-- Registers tables, one after the other. -/
def extend (r : Registry) (tables : List (String × TableDescription)) : Registry :=
  tables.foldl (fun r t => r.insert t.1 t.2) r

/-- The columns to show of a table. -/
def displayFields (r : Registry) (table : String) : Option (List String) :=
  (r.get? table).map TableDescription.displayFields

/-- The registry as JSON, the tables by name. -/
def json (r : Registry) : Json :=
  .object (r.entries.map fun (name, t) => (name, TableDescription.json t))

end Registry

end TableService
