/-
  Files of settings in JSON.
-/
import TableService.Settings.Tree

namespace TableService.Settings

mutual

/-- The tree of a JSON value; a whole number beyond 64 bits with sign is rounded. -/
def treeOfJson : Json → Tree
  | .null => .nothing
  | .bool b => .bool b
  | .number (.int i _ _) => if i < 0x8000000000000000 then .int i else .float (Double.ofInt i)
  | .number (.double x _) => .float x
  | .string s => .text s
  | .array items => .list (treesOfJson items)
  | .object members => .table (entriesOfJson members)

/-- The trees of items. -/
def treesOfJson : List Json → List Tree
  | [] => []
  | v :: vs => treeOfJson v :: treesOfJson vs

/-- The entries of members. -/
def entriesOfJson : List (String × Json) → List (String × Tree)
  | [] => []
  | (name, v) :: ms => (name, treeOfJson v) :: entriesOfJson ms

end

/-- The entries of a file, which has to hold an object. -/
def entriesOfJsonText? (text : String) : Option (List (String × Tree)) :=
  match Json.parse text with
  | .ok (.object members) => some (entriesOfJson members)
  | _ => none

end TableService.Settings
