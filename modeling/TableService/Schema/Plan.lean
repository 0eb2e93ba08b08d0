/-
  Plans: the tables of a document, resolved into columns.

  * `Document.plans` checks a document and resolves every field into physical columns: a localized
    field into one column for each locale, any other field into one.  The first fault in the order
    of the document is reported; repeated table names come before all others.
  * A plan knows no dialect.  `Plan.definitions` and `Plan.description` write it for one, from the
    same columns.
-/
import TableService.Query.Error
import TableService.Schema.Description
import TableService.Schema.Document
import TableService.Schema.Localization

namespace TableService.Schema

/-- Texts in ascending order, each once. -/
def ascending (texts : List String) : List String :=
  (Record.ofList (texts.map fun t => (t, ()))).names

/-- What a column refers to. -/
structure Reference where
  table : Identifier
  column : Identifier
  onDelete : Option KeyAction
  onUpdate : Option KeyAction
  deriving DecidableEq

/-- A column as it is created. -/
structure PhysicalColumn where
  name : Identifier
  /-- The type as it is declared. -/
  type : String
  required : Bool
  unique : Bool
  reference : Option Reference
  deriving DecidableEq

/-- A table that can be created once the tables it depends on exist. -/
structure Plan where
  name : String
  columns : List PhysicalColumn
  /-- The tables to be created first, ascending. -/
  dependencies : List String
  deriving DecidableEq

/-- What a document is compiled with. -/
structure Context where
  /-- Tables that exist already and are never created. -/
  exempt : List String
  localization : Option Localization

/-- Why a document has no plans. -/
inductive PlanError where
  | repeatedTables (names : List String)
  | idField (table : String)
  | noLocales (table field : String)
  | unknownTarget (table field target : String)
  | repeatedField (table name : String)
  | identifier (fault : Identifier.Fault)
  deriving DecidableEq, Repr

/-- The error reported for a cause. -/
def PlanError.toError : PlanError → Error
  | .repeatedTables names => .schema ("Duplicate table name: " ++ commaSpaced names)
  | .idField table => .schema ("Table " ++ table ++ " declares an id field; id is implicit")
  | .noLocales table field =>
    .schema ("Field " ++ table ++ "." ++ field ++ " is localized but no locales are configured")
  | .unknownTarget table field target =>
    .schema ("Field " ++ table ++ "." ++ field ++ " references unknown table " ++ target)
  | .repeatedField table name => .schema ("Duplicate field " ++ name ++ " in table " ++ table)
  | .identifier fault => .validation fault.message

/-! ## Fields -/

/-- A name as an identifier of a plan. -/
def planName (name : String) : Except PlanError Identifier :=
  (Identifier.check name).mapError .identifier

/-- The key column, which no field declares. -/
def keyName : String := "id"

/-- Adds a column to those of a table, unless its name is taken. -/
def addColumn (table : String) (columns : List PhysicalColumn) (c : PhysicalColumn) :
    Except PlanError (List PhysicalColumn) :=
  if c.name.name = keyName ∨ columns.any (·.name.name = c.name.name) then
    .error (.repeatedField table c.name.name)
  else .ok (columns ++ [c])

/-- The names of the columns of a field. -/
def columnNames (ctx : Context) (table : String) (c : Column) : Except PlanError (List String) :=
  if c.localized then
    match ctx.localization with
    | some l => .ok (l.columnNames c.name)
    | none => .error (.noLocales table c.name)
  else .ok [c.name]

/-- What a relation refers to, which must be a known table. -/
def reference (ctx : Context) (declared : List String) (table : String) (r : Relation) :
    Except PlanError PhysicalColumn := do
  if !ctx.exempt.contains r.target.table && !declared.contains r.target.table then
    throw (.unknownTarget table r.name r.target.table)
  let name ← planName r.name
  let target ← planName r.target.table
  let column ← planName r.target.column
  return ⟨name, r.type, r.required, r.target.oneToOne,
    some ⟨target, column, r.target.onDelete, r.target.onUpdate⟩⟩

/-- Adds the columns of a field to those of a table. -/
def addField (ctx : Context) (declared : List String) (table : String)
    (columns : List PhysicalColumn) (f : Field) : Except PlanError (List PhysicalColumn) := do
  if f.name = keyName then throw (.idField table)
  match f with
  | .column c =>
    (← columnNames ctx table c).foldlM (fun columns name => do
      addColumn table columns ⟨← planName name, c.type, c.required, c.unique, none⟩) columns
  | .relation r => addColumn table columns (← reference ctx declared table r)

/-! ## Tables -/

/-- The table that a field refers to, if that table is to be created. -/
def dependency? (ctx : Context) : Field → Option String
  | .relation r => if ctx.exempt.contains r.target.table then none else some r.target.table
  | .column _ => none

/-- The plan of a table. -/
def planTable (ctx : Context) (declared : List String) (t : Table) : Except PlanError Plan := do
  let columns ← t.fields.foldlM (addField ctx declared t.name) []
  return ⟨t.name, columns, ascending (t.fields.filterMap (dependency? ctx))⟩

/-- The names that occur more than once, ascending. -/
def repeated (names : List String) : List String :=
  ascending (names.filter fun n => 1 < names.count n)

/-- The plans of a document, in its order. -/
def Document.plans (ctx : Context) (doc : Document) : Except PlanError (List Plan) :=
  let declared := doc.tables.map Table.name
  match repeated declared with
  | [] => doc.tables.mapM (planTable ctx declared)
  | names => .error (.repeatedTables names)

/-! ## Plans in a dialect -/

/-- The clause of a foreign key. -/
def Reference.sql (d : Dialect) (r : Reference) : String :=
  let action (event : String) : Option KeyAction → String
    | some a => " ON " ++ event ++ " " ++ a.sql
    | none => ""
  "REFERENCES " ++ d.quote r.table ++ "(" ++ d.quote r.column ++ ")" ++
    action "DELETE" r.onDelete ++ action "UPDATE" r.onUpdate

namespace PhysicalColumn

/-- What is known of the column. -/
def description (d : Dialect) (c : PhysicalColumn) : FieldDescription :=
  .ofDeclaration d c.type

/-- The definition of the column without a foreign key. -/
def plainDefinition (d : Dialect) (c : PhysicalColumn) : String :=
  d.quote c.name ++ " " ++ (c.description d).columnType ++
    (if c.required then " NOT NULL" else "") ++ (if c.unique then " UNIQUE" else "")

/-- The definition of the column. -/
def definition (d : Dialect) (c : PhysicalColumn) : String :=
  match c.reference with
  | some r =>
    if d.inlineForeignKeys then c.plainDefinition d ++ " " ++ r.sql d else c.plainDefinition d
  | none => c.plainDefinition d

/-- The constraint that stands for a foreign key that is not part of the definition. -/
def constraint? (d : Dialect) (c : PhysicalColumn) : Option String :=
  if d.inlineForeignKeys then none
  else c.reference.map fun r => "FOREIGN KEY (" ++ d.quote c.name ++ ") " ++ r.sql d

end PhysicalColumn

namespace Plan

/-- The definitions of the columns, then the constraints. -/
def definitions (d : Dialect) (p : Plan) : List String :=
  p.columns.map (·.definition d) ++ p.columns.filterMap (·.constraint? d)

/-- The description of the table: the key, then the columns. -/
def description (d : Dialect) (p : Plan) : TableDescription :=
  .ofList ((keyName, ⟨"INTEGER", .number⟩) ::
    p.columns.map fun c => (c.name.name, c.description d))

end Plan

/-- The registry with the tables of plans. -/
def register (d : Dialect) (plans : List Plan) (r : Registry) : Registry :=
  r.extend (plans.map fun p => (p.name, p.description d))

end TableService.Schema
