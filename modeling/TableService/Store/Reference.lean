/-
  Foreign keys while rows change.

  * `ForeignKey.parent` finds what a foreign key refers to; a statement that may break or mend a
    reference is refused when there is nothing to refer to.
  * A statement counts the references that are broken at the moment, as a `Progress`.  Removing a
    row breaks those of the rows that refer to it, `Progress.leave`, and adding one mends those that
    were waiting for it, `Progress.arrive`; nothing may be broken at the end.
-/
import TableService.Store.Table

namespace TableService.Store

/-- What a foreign key refers to: a table and a column without repeated values. -/
def ForeignKey.parent (s : Contents) (child : Table) (fk : ForeignKey) :
    Except Fault (Table × Place) :=
  match s.find? fk.target with
  | none => .error (.noTable ("main." ++ fk.target))
  | some parent =>
    match fk.column.elim (some .key) parent.declared? with
    | some place =>
      if parent.isUnique place then .ok (parent, place)
      else .error (.mismatch child.name fk.target)
    | none => .error (.mismatch child.name fk.target)

/-- A row of the parent has the value, as the column would hold it. -/
def Table.holds (parent : Table) (place : Place) (value : Cell) : Bool :=
  let value := (parent.affinityAt place).store value
  parent.entries.list.any fun e => (e.get place).same value

/-- The rows that refer to a value of the parent's column. -/
def Table.referrers (child : Table) (fk : ForeignKey) (parent : Table) (place : Place)
    (value : Cell) : List Entry :=
  let affinity := Affinity.between (parent.affinityAt place) (child.affinityAt fk.place)
  child.entries.list.filter fun e => compareWith affinity value (e.get fk.place) == some .eq

/-- What a change does to the columns of a row. -/
inductive Scope where
  /-- The row is removed. -/
  | row
  /-- These columns get values. -/
  | columns (places : List Place)
  deriving DecidableEq

namespace Scope

/-- A column is concerned. -/
def touches (scope : Scope) (place : Place) : Bool :=
  match scope with
  | .row => true
  | .columns places => places.contains place

end Scope

/-- The column that a foreign key names is concerned; another column of that name does not exist,
but the name may be unknown. -/
def Table.isTarget (parent : Table) (scope : Scope) (fk : ForeignKey) : Bool :=
  match fk.column.elim (some .key) parent.declared? with
  | some place => scope.touches place
  | none => match scope with
    | .row => true
    | .columns _ => false

/-- A change has to do with foreign keys of the table or with some that refer to it. -/
def Table.isConcerned (s : Contents) (t : Table) (scope : Scope) : Bool :=
  t.foreignKeys.any (fun fk => scope.touches fk.place) ||
    (s.referring t).any fun (_, fk) => t.isTarget scope fk

/-- The table's own foreign keys that a change has to respect.  One that refers to the same table is
respected as soon as any other is concerned. -/
def Table.ownKeys (s : Contents) (t : Table) (scope : Scope) : List ForeignKey :=
  t.foreignKeys.filter fun fk =>
    scope.touches fk.place || (t.isConcerned s scope && sameName fk.target t.name)

/-- The foreign keys by which rows refer to what a change concerns, with their tables. -/
def Table.incomingKeys (s : Contents) (t : Table) (scope : Scope) : List (Table × ForeignKey) :=
  (s.referring t).filter fun (_, fk) => t.isTarget scope fk

/-- What a foreign key does when such a change happens to what it refers to. -/
def ForeignKey.action (fk : ForeignKey) : Scope → KeyAction
  | .row => fk.onDelete
  | .columns _ => fk.onUpdate

/-- What a foreign key may do to the rows of its own table then. -/
def ForeignKey.effect? (fk : ForeignKey) (scope : Scope) : Option Scope :=
  match fk.action scope with
  | .cascade => some (if scope = .row then .row else .columns [fk.place])
  | .setNull | .setDefault => some (.columns [fk.place])
  | .restrict | .noAction => none

/-- A table with what happens to it. -/
abbrev Touched := Table × Scope

/-- What foreign keys may do to other tables after a change. -/
def effects (s : Contents) : Touched → List Touched
  | (t, scope) => (t.incomingKeys s scope).filterMap fun (child, fk) =>
    (fk.effect? scope).map fun scope => (child, scope)

/-- The same table is touched in the same way. -/
def sameTouch (a b : Touched) : Bool := a.1.name == b.1.name && a.2 == b.2

/-- Adds what follows from changes, for some rounds. -/
def closure (s : Contents) : Nat → List Touched → List Touched
  | 0, found => found
  | rounds + 1, found =>
    let new := (found.flatMap (effects s)).filter fun x => !found.any (sameTouch x)
    closure s rounds (found ++ new.eraseDupsBy sameTouch)

/-- Everything that a change may lead to: no chain of effects is longer than the number of foreign
keys, each with its two events. -/
def reach (s : Contents) (start : Touched) : List Touched :=
  closure s (2 * (s.tables.flatMap Table.foreignKeys).length) [start]

/-- Refuses foreign keys that refer to nothing. -/
def checkParents (s : Contents) (keys : List (Table × ForeignKey)) : Except Fault Unit :=
  keys.forM fun (child, fk) => discard (fk.parent s child)

/-- Refuses a change of a table if foreign keys that it touches refer to nothing.  Of several the one
that acts on other rows and was declared first is reported, then one of its own. -/
def Table.checkTouched (s : Contents) : Touched → Except Fault Unit
  | (t, scope) => do
    let incoming := t.incomingKeys s scope
    checkParents s (incoming.filter fun (_, fk) => fk.action scope ≠ .noAction).reverse
    checkParents s ((t.ownKeys s scope).map fun fk => (t, fk))
    checkParents s incoming

/-- Refuses a change of a table if foreign keys that it has to do with refer to nothing; those that
are touched are reported before others. -/
def Table.checkKeys (s : Contents) : Touched → Except Fault Unit
  | (t, scope) => do
    Table.checkTouched s (t, scope)
    if t.isConcerned s scope then checkParents s (s.referring t).reverse

/-- The tables in the middle of a statement. -/
structure Progress where
  store : Contents
  /-- The number of references that are broken. -/
  broken : Int

namespace Progress

/-- A reference of the row itself. -/
def ownReference (p : Progress) (t : Table) (e : Entry) (fk : ForeignKey) (self : Bool) :
    Except Fault Bool := do
  let value := e.get fk.place
  if value = .null then return true
  let (parent, place) ← fk.parent p.store t
  let toItself := self && sameName parent.name t.name && match place with
    | .key => (Affinity.numeric.store value).same (e.get .key)
    | .cell _ => value.same (e.get place)
  return toItself || parent.holds place value

/-- The references of a row that are broken are no longer counted, and those to it are. -/
def leave (p : Progress) (t : Table) (scope : Scope) (e : Entry) : Except Fault Progress := do
  let own ← (t.ownKeys p.store scope).foldlM (fun n fk => do
    if n = 0 then return n
    return if ← p.ownReference t e fk false then n else n - 1) p.broken
  let broken ← (t.incomingKeys p.store scope).foldlM (fun n (child, fk) => do
    let (parent, place) ← fk.parent p.store child
    let referrers := child.referrers fk parent place (e.get place)
    let others := if sameName child.name t.name then referrers.filter (·.id ≠ e.id) else referrers
    return n + others.length) own
  return { p with broken }

/-- The references of a new row are counted if they are broken, and those that were waiting for it
no longer are. -/
def arrive (p : Progress) (t : Table) (scope : Scope) (e : Entry) : Except Fault Progress := do
  let own ← (t.ownKeys p.store scope).foldlM (fun n fk =>
    return if ← p.ownReference t e fk true then n else n + 1) p.broken
  let broken ← (t.incomingKeys p.store scope).foldlM (fun n (child, fk) => do
    if n = 0 then return n
    let (parent, place) ← fk.parent p.store child
    return n - (child.referrers fk parent place (e.get place)).length) own
  return { p with broken }

end Progress

end TableService.Store
