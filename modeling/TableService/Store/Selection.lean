/-
  Reading tables.

  * A `Probe` is a test of a row in terms of the table's columns; `Probe.holds` is unknown where
    nothing is compared.  A row is picked if all probes are known to hold.
  * A name that is no column is taken as a text in quotes: it has the name as its value.
  * `Contents.select` gives the picked rows in order, cut to a range of them.
-/
import TableService.Query.Command
import TableService.Store.Like
import TableService.Store.Table

namespace TableService.Store

/-! ## Tests -/

/-- What a name in a statement stands for. -/
inductive Subject where
  | column (place : Place)
  /-- A text, as the name is no column. -/
  | word (text : String)

/-- A test of a row. -/
inductive Probe where
  | compare (subject : Subject) (c : Comparison) (operand : Cell)
  /-- The value is one of the operands, or none of them when `negated`; there is one at least. -/
  | member (subject : Subject) (negated : Bool) (operands : List Cell)
  | missing (subject : Subject) (negated : Bool)
  | constant (holds : Bool)

/-- What a name stands for. -/
def Table.subject (t : Table) (name : String) : Subject :=
  match t.place? name with
  | some place => .column place
  | none => .word name

/-- The value that a subject has in a row. -/
def Subject.value (e : Entry) : Subject → Cell
  | .column place => e.get place
  | .word text => .text text

/-- The affinity of a subject. -/
def Subject.affinity (t : Table) : Subject → Affinity
  | .column place => t.affinityAt place
  | .word _ => .blob

/-- An ordering satisfies a comparison. -/
def satisfies (c : Comparison) (o : Ordering) : Bool :=
  match c with
  | .eq | .like => o.isEq
  | .ne => o.isNe
  | .gt => o.isGT
  | .gte => o.isGE
  | .lt => o.isLT
  | .lte => o.isLE

namespace Probe

/-- Whether a probe holds of a row, if that is known. -/
def holds (t : Table) (e : Entry) : Probe → Option Bool
  | .compare s .like operand => like (s.value e) operand
  | .compare s c operand =>
    (compareWith (s.affinity t) (s.value e) operand).map (satisfies c)
  | .member s negated operands =>
    let results := operands.map fun o =>
      (compareWith (s.affinity t) (s.value e) o).map (satisfies .eq)
    if results.contains (some true) then some !negated
    else if results.contains none then none
    else some negated
  | .missing s negated => some (negated != (s.value e == .null))
  | .constant holds => some holds

/-- All probes are known to hold. -/
def pick (t : Table) (probes : List Probe) (e : Entry) : Bool :=
  probes.all fun p => p.holds t e == some true

/-- The probe of a test. -/
def ofTest (t : Table) : Test → Probe
  | .compare column c operand => .compare (t.subject column.name) c (.ofJson operand)
  | .member column negated first others =>
    .member (t.subject column.name) negated ((first :: others).map .ofJson)
  | .constant holds => .constant holds

end Probe

/-- The rows of a table that pass tests. -/
def Table.picks (t : Table) (tests : List Test) : Entry → Bool :=
  Probe.pick t (tests.map (Probe.ofTest t))

/-! ## Order -/

/-- Compares two rows by one value after another; the flag is for descending order. -/
def orderBy : List (Subject × Bool) → Entry → Entry → Ordering
  | [], _, _ => .eq
  | (s, descending) :: terms, a, b =>
    let o := (s.value a).order (s.value b)
    (if descending then o.swap else o).then (orderBy terms a b)

/-- What an order looks at in a table. -/
def Table.orderTerms (t : Table) (terms : List OrderTerm) : List (Subject × Bool) :=
  terms.map fun term => (t.subject term.column.name, term.direction == some .descending)

/-- Rows in an order; rows that are equal in it keep their places. -/
def sorted (terms : List (Subject × Bool)) (rows : List Entry) : List Entry :=
  rows.mergeSort fun a b => (orderBy terms a b).isLE

/-! ## Result -/

/-- A column of a result: its name, and what it shows. -/
def Table.shown (t : Table) (name : String) : String × Subject :=
  match t.place? name with
  | some place => (t.nameAt place, .column place)
  | none => (Dialect.sqlite.quoteText name, .word name)

/-- The columns of a result; all of the table where none is named. -/
def Table.header (t : Table) (columns : List String) : List (String × Subject) :=
  if columns.isEmpty then t.places.map fun p => (t.nameAt p, .column p)
  else columns.map t.shown

/-- A row of a result. -/
def Entry.row (e : Entry) (header : List (String × Subject)) : Row :=
  Record.ofList (header.map fun (name, s) => (name, (s.value e).json))

/-- The greatest number that a limit or an offset may be. -/
def maxRange : Nat := 0x7fffffffffffffff

/-- A part of a list.  Where nothing is wanted, the offset is not looked at. -/
def page {α : Type} (limit offset : Option Nat) (l : List α) : Except Fault (List α) :=
  if limit = some 0 then .ok []
  else if limit.any (maxRange < ·) || offset.any (maxRange < ·) then .error .notInteger
  else
    let rest := l.drop (offset.getD 0)
    .ok (match limit with
      | some n => rest.take n
      | none => rest)

/-- Reads the rows of a table. -/
def Contents.select (s : Contents) (c : Select) : Except Fault (List Row) := do
  let t ← s.get c.table.name
  let picked := t.entries.list.filter (t.picks c.tests)
  let rows := (sorted (t.orderTerms c.order) picked).map (·.row (t.header (c.columns.map Identifier.name)))
  page (c.limit.map UInt64.toNat) (c.offset.map UInt64.toNat) rows

end TableService.Store
