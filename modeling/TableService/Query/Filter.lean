/-
  Filters: conditions on fields, combined by "and".

  * A `Filter` has one condition for each field that it mentions, in the order of first mention.
  * `Filter.set` puts a condition in place of an earlier one on the field; `Filter.add` adds an
    operator to those that the field has.
  * `Filter.shape` reads a filter from JSON, its members in the order of the text.
-/
import TableService.Json.Shape
import TableService.Named

namespace TableService

/-- Comparisons with one operand. -/
inductive Comparison where
  | eq
  | ne
  | gt
  | gte
  | lt
  | lte
  | like
  deriving DecidableEq, Repr

/-- Operators of a filter. -/
inductive Operator where
  | compare (c : Comparison)
  /-- The field is one of a list of values. -/
  | within
  /-- The field is none of a list of values. -/
  | outside
  deriving DecidableEq, Repr

/-- The sign of a comparison in a statement. -/
def Comparison.sql : Comparison → String
  | .eq => "="
  | .ne => "!="
  | .gt => ">"
  | .gte => ">="
  | .lt => "<"
  | .lte => "<="
  | .like => "LIKE"

namespace Operator

/-- The operators with their names. -/
def names : List (String × Operator) :=
  [("eq", .compare .eq), ("ne", .compare .ne), ("gt", .compare .gt), ("gte", .compare .gte),
    ("lt", .compare .lt), ("lte", .compare .lte), ("like", .compare .like), ("in", .within),
    ("nin", .outside)]

/-- The operator of a key: its name, with or without one dollar sign in front. -/
def ofKey? (key : String) : Option Operator :=
  match key.toList with
  | '$' :: name => names.lookup (String.ofList name)
  | _ => names.lookup key

/-- The key of an operator, with the dollar sign. -/
def key : Operator → String
  | .compare .eq => "$eq"
  | .compare .ne => "$ne"
  | .compare .gt => "$gt"
  | .compare .gte => "$gte"
  | .compare .lt => "$lt"
  | .compare .lte => "$lte"
  | .compare .like => "$like"
  | .within => "$in"
  | .outside => "$nin"

/-- The operator in a statement. -/
def sql : Operator → String
  | .compare c => c.sql
  | .within => "IN"
  | .outside => "NOT IN"

/-- The operator takes a list of values. -/
def isSet : Operator → Bool
  | .compare _ => false
  | .within | .outside => true

end Operator

/-- The condition on one field. -/
inductive Condition where
  /-- Equal to a value. -/
  | literal (value : Json)
  /-- Operator keys with their operands; a key may be unknown and may be repeated. -/
  | operators (entries : List (String × Json))
  deriving Inhabited

/-- Conditions on distinct fields. -/
abbrev Filter := Named Condition

namespace Filter

/-- Puts a condition on a field, in place of the one it has. -/
def set (filter : Filter) (field : String) (condition : Condition) : Filter :=
  filter.put field condition

/-- Adds an operator to those of a field; any other condition is replaced by the operator. -/
def add (filter : Filter) (field : String) (op : Operator) (operand : Json) : Filter :=
  filter.change field fun
    | some (.operators entries) => .operators (entries ++ [(op.key, operand)])
    | _ => .operators [(op.key, operand)]

/-- The field equals a value. -/
def eq (filter : Filter) (field : String) (value : Json) : Filter :=
  filter.set field (.literal value)

/-- The filter of a list of conditions, in order. -/
def ofList (conditions : List (String × Condition)) : Filter := Named.ofList conditions

end Filter

/-- A condition: an object is a list of operators, any other value a literal. -/
def Condition.shape : Shape Condition
  | depth, .object members stop =>
    (Shape.object Shape.json depth (.object members stop)).map .operators
  | depth, v => (Shape.json depth v).map .literal

/-- A filter: an object of conditions. -/
def Filter.shape : Shape Filter := fun depth v =>
  (Shape.object Condition.shape depth v).map Filter.ofList

end TableService
