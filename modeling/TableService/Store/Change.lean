/-
  Statements that change rows.

  * `Contents.insert` adds a row.  Without a key it gets the next one after all that were ever given.
  * `Contents.update` and `Contents.delete` go through the rows that were picked before anything
    changed, by ascending key.  What foreign keys do to other rows happens after each row; a row that
    has gone by then is passed over and not counted.
  * Before a row is added or gets new values, other rows may have to make way for it, `makeWay`.  It is
    not counted if it goes with them; if it stays but is not as it was, the statement is refused, since
    the database itself would write back what the row had before.
  * A statement that is refused changes nothing, since its result is a fault and no store.
-/
import TableService.Store.Constraint

namespace TableService.Store

/-! ## Rows -/

/-- The key that a value denotes. -/
def keyOf (value : Cell) : Except Fault Int64 :=
  match Affinity.numeric.store value with
  | .integer i => .ok i
  | _ => .error .notInteger

/-- The row with new values in some columns. -/
def Table.assigned (t : Table) (e : Entry) (values : List (Place × Cell)) :
    Except Fault Entry := do
  let id ← match values.lookup .key with
    | some v => keyOf v
    | none => pure e.id
  let cells := t.columns.zipIdx.map fun (c, i) =>
    match values.lookup (.cell i) with
    | some v => c.affinity.store v
    | none => e.get (.cell i)
  return ⟨id, cells⟩

/-! ## Change and removal -/

/-- What a statement does with the rows that it picks. -/
inductive Deed where
  | remove
  | assign (values : List (Place × Cell))
  /-- There must be no such rows. -/
  | refuse

/-- A deed for the picked rows of a table. -/
structure Change where
  table : String
  deed : Deed
  picks : Entry → Bool

/-- What foreign keys demand of other rows once a row has gone or got other values. -/
def consequences (s : Contents) (t : Table) (old : Entry) (new : Option Entry) (scope : Scope) :
    List Change :=
  (t.incomingKeys s scope).filterMap fun (child, fk) => do
    let (parent, place) ← (fk.parent s child).toOption
    let unchanged := new.any fun e => (e.get place).order (old.get place) == .eq
    let assign (value : Cell) : Deed := .assign [(fk.place, value)]
    let deed ← match fk.action scope with
      | .noAction => none
      | .restrict => some .refuse
      | .setNull => some (assign .null)
      | .setDefault => some (assign (child.initialAt fk.place))
      | .cascade => some (match new with
        | some e => assign (e.get place)
        | none => .remove)
    let affinity := Affinity.between (parent.affinityAt place) (child.affinityAt fk.place)
    if unchanged then none
    else some ⟨child.name, deed, fun e =>
      compareWith affinity (old.get place) (e.get fk.place) == some .eq⟩

/-- Removes one row; `perform` carries out what follows from it. -/
def removeRow (perform : Progress → Change → Except Fault Progress) (t : Table) (p : Progress)
    (e : Entry) : Except Fault Progress := do
  let follow := consequences p.store t e none .row
  let p ← p.leave t .row e
  follow.foldlM perform { p with store := p.store.eraseEntry t e.id }

/-- Gives one row new values; `perform` carries out what follows from it. -/
def assignRow (perform : Progress → Change → Except Fault Progress) (t : Table)
    (values : List (Place × Cell)) (p : Progress) (e : Entry) : Except Fault Progress := do
  let scope := Scope.columns (values.map Prod.fst)
  let new ← t.assigned e values
  (← p.store.get t.name).checkRow scope.touches (some e.id) new
  let p ← p.leave t scope e
  let without := p.store.eraseEntry t e.id
  let p ← Progress.arrive { p with store := without } t scope new
  let store := p.store.putEntry t new
  (consequences store t e (some new) scope).foldlM perform { p with store }

/-- Goes on with a row that was picked, as it is now, if it is still there. -/
def Change.visit (c : Change)
    (row : Table → Progress × Nat → Entry → Except Fault (Progress × Nat))
    (state : Progress × Nat) (e : Entry) : Except Fault (Progress × Nat) := do
  let now ← state.1.store.get c.table
  match now.entries.get? e.id with
  | some e => row now state e
  | none => return state

/-- Carries out a change on the rows that it picks now, and counts those that are still there when
their turn comes. -/
def Change.carryOut (perform : Progress → Change → Except Fault Progress) (c : Change)
    (p : Progress) : Except Fault (Progress × Nat) := do
  let t ← p.store.get c.table
  let picked := t.entries.list.filter c.picks
  let each (row : Table → Progress → Entry → Except Fault Progress) :=
    c.visit fun t state e => return (← row t state.1 e, state.2 + 1)
  match c.deed with
  | .refuse =>
    refuseIf (!picked.isEmpty) .foreignKey
    return (p, 0)
  | .remove => picked.foldlM (each (removeRow perform)) (p, 0)
  | .assign values => picked.foldlM (each fun t => assignRow perform t values) (p, 0)

/-- Carries out a change with all that follows from it, to at most `depth` levels. -/
def perform : Nat → Progress → Change → Except Fault Progress
  | 0, _, _ => .error .tooDeep
  | depth + 1, p, c => return (← c.carryOut (perform depth) p).1

/-- The greatest number of levels at which foreign keys may act on each other. -/
def maxLevels : Nat := 1000

/-- What a deed does to the columns of a row. -/
def Deed.scope : Deed → Scope
  | .assign values => .columns (values.map Prod.fst)
  | .remove | .refuse => .row

/-- Runs a statement, if the foreign keys that it may have to do with are in order; afterwards no
reference may be broken. -/
def Contents.run (s : Contents) (c : Change) : Except Fault (Contents × Nat) := do
  (reach s (← s.get c.table, c.deed.scope)).forM (Table.checkKeys s)
  let (p, count) ← c.carryOut (perform maxLevels) ⟨s, 0⟩
  refuseIf (0 < p.broken) .foreignKey
  return (p.store, count)

/-- Removes the picked rows, and counts them. -/
def Contents.delete (s : Contents) (table : String) (picks : Entry → Bool) :
    Except Fault (Contents × Nat) := s.run ⟨table, .remove, picks⟩

/-! ## New rows and new values -/

/-- Values for the columns of a table; what has no column is a fault. -/
def Table.located (t : Table) (fault : String → Fault) (assignments : List (String × Cell)) :
    Except Fault (List (Place × Cell)) :=
  assignments.mapM fun (name, value) =>
    match t.place? name with
    | some place => .ok (place, value)
    | none => .error (fault name)

/-- What follows from removing rows of a table may set a column of that table to nothing, as a foreign
key of its own demands. -/
def Table.mayLose (s : Contents) (t : Table) : Bool :=
  t.foreignKeys.any fun fk => (fk.onDelete = .setNull || fk.onUpdate = .setNull) &&
    (reach s (t, .row)).any (sameTouch (t, .columns [fk.place]))

/-- If rows may have to make way, the foreign keys that this may have to do with must be in order. -/
def Table.checkWay (s : Contents) (t : Table) (scope : Scope) : Except Fault Unit := do
  if t.displaces s scope then
    Table.checkTouched s (t, scope)
    (reach s (t, .row)).forM (Table.checkKeys s)
    refuseIf (t.mayLose s) (.leftOut "a reference that may be lost while others make way")
    refuseIf (1 < t.displacing.length && t.isConcerned s .row)
      (.leftOut "several constraints for which others make way, with foreign keys")

/-- Removes the rows that have to make way for a row, in place of the one with the key `own`. -/
def makeWay (t : Table) (own : Option Int64) (e : Entry) (p : Progress) : Except Fault Progress :=
  t.displacing.foldlM (fun p k => perform (maxLevels + 1) p ⟨t.name, .remove, k.repeats own e⟩) p

/-- What a statement makes of one row that it gives new values, which counts unless the statement goes
on without it or it has gone with the rows that made way. -/
def reviseRow (values : List (Place × Cell)) (t : Table) (state : Progress × Nat) (e : Entry) :
    Except Fault (Progress × Nat) := do
  let values := t.filled values
  let scope := Scope.columns (values.map Prod.fst)
  let new ← t.assigned e values
  match t.obstacle? scope.touches (some e.id) new with
  | some b => if b.resolution = .ignore then return state else throw b.fault
  | none =>
    let p ← makeWay t (some e.id) new state.1
    let now ← p.store.get t.name
    match now.entries.get? e.id with
    | none => return (p, state.2)
    | some left =>
      refuseIf (left ≠ e) (.leftOut "a row that changes while others make way for it")
      return (← assignRow (perform maxLevels) now values p e, state.2 + 1)

/-- Gives the picked rows new values, and counts them. -/
def Contents.update (s : Contents) (table : String) (assignments : List (String × Cell))
    (picks : Entry → Bool) : Except Fault (Contents × Nat) := do
  let t ← s.get table
  let values := (← t.located .noColumn assignments).reverse
  let c : Change := ⟨table, .assign values, picks⟩
  t.checkWay s c.deed.scope
  (reach s (t, c.deed.scope)).forM (Table.checkKeys s)
  let (p, count) ← (t.entries.list.filter picks).foldlM (c.visit (reviseRow values)) (⟨s, 0⟩, 0)
  refuseIf (0 < p.broken) .foreignKey
  return (p.store, count)

/-! ## Insertion -/

/-- The next key of a table. -/
def Table.nextKey (t : Table) : Except Fault Int64 :=
  let top := max t.issued (t.entries.last?.getD 0)
  if top = Int64.maxValue then .error .full else .ok (top + 1)

/-- The columns with their values; of a repeated column the first value counts, and of a repeated
key the last. -/
def Table.given (t : Table) (table : String) (assignments : List (String × Cell)) :
    Except Fault (List (Place × Cell)) := do
  let values ← t.located (.noColumnToInsert table) assignments
  return values.filter (·.1 == .key) |>.reverse |>.append (values.filter (·.1 != .key))

/-- The key of a new row: the one that it is given, or else the next one. -/
def Table.keyFor (t : Table) (values : List (Place × Cell)) : Except Fault Int64 :=
  match (values.lookup .key).getD .null with
  | .null => t.nextKey
  | v => keyOf v

/-- A key has been given to a row of a table, or to one that the statement went on without. -/
def Contents.issue (s : Contents) (t : Table) (id : Int64) : Contents :=
  ⟨s.tables.map fun u =>
    if sameName t.name u.name then { u with issued := max u.issued id } else u⟩

/-- The foreign keys that a new row has to do with must be in order, and those that refer to
the table if other rows may have to make way. -/
def Table.checkArrival (s : Contents) (t : Table) : Except Fault Unit := do
  checkParents s ((t.ownKeys s .row).map fun fk => (t, fk))
  if t.displaces s .row then checkParents s (t.incomingKeys s .row)
  t.checkWay s .row

/-- A new row without values. -/
def Table.blank (t : Table) (id : Int64) : Entry :=
  ⟨id, t.columns.map fun c => c.affinity.store (c.initial.getD .null)⟩

/-- Adds a row to a table, unless the statement goes on without it. -/
def Contents.add (s : Contents) (t : Table) (e : Entry) : Except Fault Contents :=
  match t.obstacle? (fun _ => true) none e with
  | some b => if b.resolution = .ignore then .ok s else .error b.fault
  | none => do
    let p ← makeWay t none e ⟨s, 0⟩
    let now ← p.store.get t.name
    now.checkRow (fun _ => true) none e
    (now.ownKeys p.store .row).forM fun fk => do
      refuseIf (!(← p.ownReference now e fk true)) .foreignKey
    -- the row may be what references to a row that made way are waiting for
    let p ← p.arrive now .row e
    refuseIf (0 < p.broken) .foreignKey
    return p.store.putEntry now e

/-- Adds a row to a table, with values for some of its columns. -/
def Contents.insert (s : Contents) (table : String) (assignments : List (String × Cell)) :
    Except Fault Contents := do
  let t ← s.get table
  let values ← t.given table assignments
  t.checkArrival s
  let id ← t.keyFor values
  let e ← t.assigned (t.blank id) (t.filled (values.filter (·.1 != .key)))
  (s.issue t id).add t e

end TableService.Store
