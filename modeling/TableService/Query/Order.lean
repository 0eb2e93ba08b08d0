/-
  The order of the rows of a result.

  * An entry is a field, or a field and a direction, as words between blanks; the direction may be
    in any case.
  * `OrderTerm.ofEntry` reads an entry; the field is checked before the direction.
  * `tailSql` writes the order and the part of the rows that is wanted.
-/
import TableService.Dialect
import TableService.Query.Error
import TableService.Text.Blank

namespace TableService

/-- A direction of an order. -/
inductive Direction where
  | ascending
  | descending
  deriving DecidableEq, Repr

/-- The direction in a statement. -/
def Direction.sql : Direction → String
  | .ascending => "ASC"
  | .descending => "DESC"

/-- The direction of a word in upper case. -/
def Direction.ofWord? (word : String) : Option Direction :=
  if word = "ASC" then some .ascending
  else if word = "DESC" then some .descending
  else none

/-- A column to order by, with the direction if one is given. -/
structure OrderTerm where
  column : Identifier
  direction : Option Direction
  deriving DecidableEq

namespace OrderTerm

/-- The term of an entry. -/
def ofEntry (entry : String) : Except QueryError OrderTerm :=
  match Text.words entry with
  | [field] => do return ⟨← Identifier.ofName field, none⟩
  | [field, word] => do
    let column ← Identifier.ofName field
    let word := Text.upper word
    match Direction.ofWord? word with
    | some direction => return ⟨column, some direction⟩
    | none => .error (.direction word entry)
  | _ => .error (.orderEntry entry)

/-- The term in a statement. -/
def sql (d : Dialect) (t : OrderTerm) : String :=
  match t.direction with
  | none => d.quote t.column
  | some direction => d.quote t.column ++ " " ++ direction.sql

end OrderTerm

/-- The terms of an order that may be absent. -/
def OrderTerm.ofEntries (entries : Option (List String)) : Except QueryError (List OrderTerm) :=
  (entries.getD []).mapM ofEntry

/-- The order in a statement. -/
def orderSql (d : Dialect) (order : List OrderTerm) : String :=
  if order.isEmpty then "" else " ORDER BY " ++ commaSpaced (order.map (·.sql d))

/-- The limit in a statement; an offset alone may need an unbounded one. -/
def limitSql (d : Dialect) (limit offset : Option UInt64) : String :=
  match limit, offset with
  | some n, _ => " LIMIT " ++ String.ofList (digitsText n.toNat)
  | none, some _ => (d.unboundedLimit.map (" " ++ ·)).getD ""
  | none, none => ""

/-- The offset in a statement. -/
def offsetSql (offset : Option UInt64) : String :=
  match offset with
  | some n => " OFFSET " ++ String.ofList (digitsText n.toNat)
  | none => ""

/-- All that follows the predicate of a read. -/
def tailSql (d : Dialect) (order : List OrderTerm) (limit offset : Option UInt64) : String :=
  orderSql d order ++ limitSql d limit offset ++ offsetSql offset

/-- The tail of a read with an order as given. -/
def tail (d : Dialect) (entries : Option (List String)) (limit offset : Option UInt64) :
    Except QueryError String :=
  (OrderTerm.ofEntries entries).map fun order => tailSql d order limit offset

end TableService
