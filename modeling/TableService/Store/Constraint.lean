/-
  Constraints on the rows of a table.

  * `Table.breaches` are the constraints that a row breaks, in the order in which they are looked at.
    What foreign keys make of a row must not break any, `Table.checkRow`.
  * What a statement makes of a row may break some, if their constraints say what is to be done:
    missing values become initial ones, `Table.filled`, the statement goes on without the row, or
    other rows make way.  `Table.obstacle?` is the first breach that other rows cannot help.
-/
import TableService.Store.Reference

namespace TableService.Store

/-- Fails with a fault under a condition. -/
def refuseIf (condition : Bool) (f : Fault) : Except Fault Unit :=
  if condition then .error f else .ok ()

/-- A constraint that a row breaks: what is done about it, and the fault of a statement that fails. -/
structure Breach where
  resolution : Resolution
  fault : Fault

/-- Another row than the one with the key `own` has the unique values of a row. -/
def UniqueKey.repeats (k : UniqueKey) (own : Option Int64) (e other : Entry) : Bool :=
  some other.id != own && k.places.all fun p => (other.get p).same (e.get p)

namespace Table

/-- Columns that are set have no value although one is required.  Those that should have got an
initial value are looked at after the others. -/
def missing (t : Table) (isSet : Place → Bool) (e : Entry) : List Breach :=
  let lacking (isFilled : Bool) : List Breach := t.columns.zipIdx.filterMap fun (c, i) =>
    if isSet (.cell i) && e.get (.cell i) == .null &&
        (c.required = some .replace && c.initial.isSome) == isFilled then
      c.required.map fun r => ⟨if r = .ignore then .ignore else .abort, .notNull t.name c.name⟩
    else none
  lacking false ++ lacking true

/-- Another row than the one with the key `own` has the key of the row. -/
def taken (t : Table) (own : Option Int64) (e : Entry) : List Breach :=
  if some e.id != own && (t.entries.get? e.id).isSome then
    [⟨.abort, .unique t.name [keyName]⟩]
  else []

/-- Other rows have unique values of the row. -/
def repeated (t : Table) (own : Option Int64) (e : Entry) : List Breach :=
  t.unique.filterMap fun k =>
    if t.entries.list.any (k.repeats own e) then
      some ⟨k.resolution.getD .abort, .unique t.name (k.places.map t.nameAt)⟩
    else none

/-- The constraints that a row breaks, in place of the one with the key `own`. -/
def breaches (t : Table) (isSet : Place → Bool) (own : Option Int64) (e : Entry) : List Breach :=
  t.missing isSet e ++ t.taken own e ++ t.repeated own e

/-- Fails at the first constraint that a row breaks. -/
def checkRow (t : Table) (isSet : Place → Bool) (own : Option Int64) (e : Entry) :
    Except Fault Unit :=
  match t.breaches isSet own e with
  | [] => .ok ()
  | b :: _ => .error b.fault

/-- The first constraint that a row breaks and for which no other row makes way. -/
def obstacle? (t : Table) (isSet : Place → Bool) (own : Option Int64) (e : Entry) :
    Option Breach :=
  (t.breaches isSet own e).find? fun b => b.resolution ≠ .replace

/-- A missing value of a column becomes the initial one. -/
def replacesMissing (t : Table) : Place → Bool
  | .key => false
  | .cell i => t.columns[i]?.any fun c => c.required = some .replace

/-- Values for columns, with initial ones instead of missing ones where the columns say so. -/
def filled (t : Table) (values : List (Place × Cell)) : List (Place × Cell) :=
  values.map fun (place, v) =>
    (place, if v == .null && t.replacesMissing place then t.initialAt place else v)

/-- The unique keys for which other rows make way. -/
def displacing (t : Table) : List UniqueKey := t.unique.filter (·.resolution = some .replace)

/-- Foreign keys make a statement look at all unique keys again: one of the table's own that refers
to it, or one that acts on other rows. -/
def looksAgain (s : Contents) (t : Table) (scope : Scope) : Bool :=
  (t.foreignKeys.any fun fk => scope.touches fk.place && sameName fk.target t.name) ||
    (t.incomingKeys s scope).any fun (_, fk) => fk.onUpdate ≠ .noAction

/-- Other rows may have to make way when columns get values. -/
def displaces (s : Contents) (t : Table) (scope : Scope) : Bool :=
  t.displacing.any fun k =>
    scope.touches .key || t.looksAgain s scope || k.places.any scope.touches

end Table

end TableService.Store
