/-
  What happens to the rows that refer to a row when it goes or gets another key.
-/

namespace TableService

/-- What a foreign key does when the row that it refers to is removed or changes its key. -/
inductive KeyAction where
  | cascade
  | setNull
  | restrict
  | noAction
  | setDefault
  deriving DecidableEq, Repr

/-- The action in a statement. -/
def KeyAction.sql : KeyAction → String
  | .cascade => "CASCADE"
  | .setNull => "SET NULL"
  | .restrict => "RESTRICT"
  | .noAction => "NO ACTION"
  | .setDefault => "SET DEFAULT"

end TableService
