/-
  Affinities: what a column does to the values that it is given and compared with.

  * `Affinity.ofType` derives the affinity from the declared type: the first rule applies whose
    words occur in it.
  * `Affinity.store` converts a value for the column.
  * `compareWith` compares two cells after the conversions that the affinity of the comparison
    asks for; nothing is known of a comparison with `null`.
-/
import TableService.Store.Cell
import TableService.Text.Case

namespace TableService.Store

/-- The preference of a column; whole numbers have no kind of their own. -/
inductive Affinity where
  | text
  | numeric
  | real
  /-- No preference. -/
  | blob
  deriving DecidableEq, Repr

namespace Affinity

/-- A text occurs in another. -/
def occursIn (word : List Char) : List Char → Bool
  | [] => word.isEmpty
  | c :: cs => word.isPrefixOf (c :: cs) || occursIn word cs

/-- Words of types with their affinities; earlier rules win. -/
def rules : List (List String × Affinity) :=
  [(["int"], .numeric), (["char", "clob", "text"], .text), (["blob"], .blob),
    (["real", "floa", "doub"], .real)]

/-- The affinity of a column with a declared type. -/
def ofType (type : String) : Affinity :=
  if type = "" then .blob
  else
    let lower := (Text.lowerAscii type).toList
    match rules.find? fun rule => rule.1.any fun word => occursIn word.toList lower with
    | some rule => rule.2
    | none => .numeric

/-- A double is held as an integer if it is one strictly within the 64 bits. -/
def settle (x : Double) : Cell :=
  match x.toInt? with
  | some i =>
    if -0x8000000000000000 < i ∧ i < 0x7fffffffffffffff then .integer (Int64.ofInt i) else .real x
  | none => .real x

/-- A number without a fraction as an integer. -/
def whole : Cell → Cell
  | .real x => settle x
  | c => c

/-- A number as a double. -/
def fractional : Cell → Cell
  | .integer i => .real (Double.ofInt i.toInt)
  | c => c

/-- The value that a column of this affinity holds for a given one. -/
def store : Affinity → Cell → Cell
  | .text, c => c.textOf
  | .numeric, c => whole c.numberOf
  | .real, c => fractional (whole c.numberOf)
  | .blob, c => c

/-- Numbers are preferred. -/
def isNumeric : Affinity → Bool
  | .numeric | .real => true
  | .text | .blob => false

/-- The affinity of a comparison between two columns: numbers if one of them prefers numbers, and
otherwise no preference. -/
def between (a b : Affinity) : Affinity :=
  if a.isNumeric || b.isNumeric then .numeric else .blob

end Affinity

/-- The two cells as they are compared. -/
def converted (affinity : Affinity) (l r : Cell) : Cell × Cell :=
  match affinity with
  | .numeric | .real => (l.numberOf, r.numberOf)
  | .text => (l.textOf, r.textOf)
  | .blob => (l, r)

/-- The order of two cells under an affinity, unless one of them is nothing. -/
def compareWith (affinity : Affinity) (l r : Cell) : Option Ordering :=
  if l = .null ∨ r = .null then none
  else
    let (l, r) := converted affinity l r
    some (l.order r)

end TableService.Store
