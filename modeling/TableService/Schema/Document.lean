/-
  Schema documents: the tables that a service is to have.

  * A `Field` is a column, or a relation that owns a column referring to another table.
  * `Document.parse?` reads a document in YAML, of which JSON is a part.
  * `Document.field?` tells the two kinds of fields apart: what reads as a relation is one; anything
    else must read as a column, which admits no other keys than its own.
-/
import TableService.KeyAction
import TableService.Yaml.Value

namespace TableService

namespace Schema

/-- A column of a table. -/
structure Column where
  name : String
  type : String
  required : Bool
  unique : Bool
  localized : Bool
  deriving DecidableEq, Repr

/-- What a relation refers to. -/
structure Target where
  table : String
  column : String
  oneToOne : Bool
  onDelete : Option KeyAction
  onUpdate : Option KeyAction
  deriving DecidableEq, Repr

/-- A column that refers to another table. -/
structure Relation where
  name : String
  type : String
  required : Bool
  target : Target
  deriving DecidableEq, Repr

/-- A field of a table. -/
inductive Field where
  | column (c : Column)
  | relation (r : Relation)
  deriving DecidableEq, Repr

/-- The name of a field. -/
def Field.name : Field → String
  | .column c => c.name
  | .relation r => r.name

/-- A table of a document. -/
structure Table where
  name : String
  fields : List Field
  deriving DecidableEq, Repr

/-- The tables of a service. -/
structure Document where
  tables : List Table
  deriving DecidableEq, Repr

namespace Document

open Yaml (Node Value)

/-! ## Fields -/

/-- The string of a value. -/
def string? : Value → Option String
  | .string s => some s
  | _ => none

/-- The truth value of a value. -/
def bool? : Value → Option Bool
  | .bool b => some b
  | _ => none

/-- The position of a key among the known ones, which a key may also give as a number. -/
def keyIndex? (names : List String) : Value → Option Nat
  | .string s => some (names.findIdx (· == s))
  | .whole n => some n
  | _ => none

/-- The values of the known keys of a mapping; `strict` admits no others.  None for a key that is
no name and for a known key that is repeated. -/
def keyed? (names : List String) (strict : Bool) :
    List (Value × Value) → Option (List (Option Value))
  | [] => some (names.map fun _ => none)
  | (k, v) :: entries => do
    let i ← keyIndex? names k
    let values ← keyed? names strict entries
    if i < names.length then
      if (values[i]?.join).isSome then none
      return values.set i (some v)
    else if strict then none
    else return values

/-- The values of a record: a mapping, or the sequence of its values in order. -/
def record? (names : List String) (strict : Bool) : Value → Option (List (Option Value))
  | .mapping entries => keyed? names strict entries
  | .sequence items =>
    if items.length ≤ names.length then
      some (items.map some ++ List.replicate (names.length - items.length) none)
    else none
  | _ => none

/-- A value that may be absent but not of another kind. -/
def orDefault {α : Type} (read : Value → Option α) (default : α) : Option Value → Option α
  | none => some default
  | some v => read v

/-- A word, alone or as the only key of a mapping without a value. -/
def word? {α : Type} (words : List (String × α)) : Value → Option α
  | .string s => words.lookup s
  | .mapping [(k, .null)] => do
    let i ← keyIndex? (words.map Prod.fst) k
    return (← words[i]?).2
  | _ => none

/-- The kinds of relations: whether at most one row refers to each target. -/
def relationKinds : List (String × Bool) := [("one-to-one", true), ("many-to-one", false)]

/-- The actions by name. -/
def actions : List (String × KeyAction) :=
  [("cascade", .cascade), ("setNull", .setNull), ("restrict", .restrict),
    ("noAction", .noAction), ("setDefault", .setDefault)]

/-- An action that may be null; in a sequence it may not be left out. -/
def action? (listed : Bool) : Option Value → Option (Option KeyAction)
  | none => if listed then none else some none
  | some .null => some none
  | some v => (word? actions v).map some

/-- The value is a sequence. -/
def isSequence : Value → Bool
  | .sequence _ => true
  | _ => false

/-- The target of a relation. -/
def target? (v : Value) : Option Target := do
  match ← record? ["table", "column", "kind", "onDelete", "onUpdate"] false v with
  | [table, column, kind, onDelete, onUpdate] =>
    let table ← string? (← table)
    let column ← orDefault string? "id" column
    let oneToOne ← word? relationKinds (← kind)
    let onDelete ← action? (isSequence v) onDelete
    let onUpdate ← action? (isSequence v) onUpdate
    return ⟨table, column, oneToOne, onDelete, onUpdate⟩
  | _ => none

/-- A field as a relation. -/
def relation? (v : Value) : Option Relation := do
  match ← record? ["name", "type", "required", "relation"] false v with
  | [name, type, required, relation] =>
    let name ← string? (← name)
    let type ← string? (← type)
    let required ← orDefault bool? false required
    return ⟨name, type, required, ← target? (← relation)⟩
  | _ => none

/-- A field as a column. -/
def column? (v : Value) : Option Column := do
  match ← record? ["name", "type", "required", "unique", "localized"] true v with
  | [name, type, required, unique, localized] =>
    let name ← string? (← name)
    let type ← string? (← type)
    let required ← orDefault bool? false required
    let unique ← orDefault bool? false unique
    return ⟨name, type, required, unique, ← orDefault bool? false localized⟩
  | _ => none

/-- A field: a relation if it reads as one, else a column. -/
def field? (v : Value) : Option Field :=
  ((relation? v).map Field.relation) <|> ((column? v).map Field.column)

/-! ## Tables -/

/-- The text of a scalar, whatever it means. -/
def text? : Node → Option String
  | .scalar text _ _ => some text
  | _ => none

/-- The nodes of a list; an empty scalar is an empty list. -/
def list? : Node → Option (List Node)
  | .sequence items _ => some items
  | .scalar text _ _ => if text.isEmpty then some [] else none
  | .mapping .. => none

/-- The node of a key that is not repeated, among keys that are texts. -/
def keyNode? (key : String) : List (Node × Node) → Option (Option Node)
  | [] => some none
  | (k, v) :: entries => do
    let text ← text? k
    match ← keyNode? key entries with
    | some n => if text = key then none else some (some n)
    | none => some (if text = key then some v else none)

/-- The entries of a mapping. -/
def entries? : Node → Option (List (Node × Node))
  | .mapping entries _ => some entries
  | _ => none

/-- A table; without fields it has only its key. -/
def table? (n : Node) : Option Table := do
  let entries ← entries? n
  let name ← text? (← (← keyNode? "name" entries))
  let fields ← match ← keyNode? "fields" entries with
    | some f => list? f
    | none => some []
  return ⟨name, ← fields.mapM fun f => do field? (← f.value?)⟩

/-- A document. -/
def ofNode? (n : Node) : Option Document := do
  let tables ← list? (← (← keyNode? "tables" (← entries? n)))
  return ⟨← tables.mapM table?⟩

/-- Reads a document. -/
def parse? (text : String) : Option Document := do ofNode? (← Node.parse? text)

end Document

end Schema

end TableService
