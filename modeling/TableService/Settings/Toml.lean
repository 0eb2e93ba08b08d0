/-
  Files of settings in TOML.
-/
import TableService.Settings.Tree
import TableService.Toml.Document

namespace TableService.Settings

/-- The tree of a scalar. -/
def treeOfTomlScalar : Toml.Scalar → Tree
  | .bool b => .bool b
  | .int i => .int i
  | .float x => .float x
  | .text s => .text s

mutual

/-- The tree of what stands under a key. -/
def treeOfItem : Toml.Item → Tree
  | .scalar s => treeOfTomlScalar s
  | .list items => .list (treesOfItems items)
  | .inline es => .table (entriesOfItems es)
  | .table _ es => .table (entriesOfItems es)
  | .tables elements => .list (treesOfTables elements)

/-- The trees of items. -/
def treesOfItems : List Toml.Item → List Tree
  | [] => []
  | i :: is => treeOfItem i :: treesOfItems is

/-- The entries of a table. -/
def entriesOfItems : Toml.Entries → List (String × Tree)
  | [] => []
  | (key, i) :: es => (key, treeOfItem i) :: entriesOfItems es

/-- The trees of tables. -/
def treesOfTables : List Toml.Entries → List Tree
  | [] => []
  | es :: more => .table (entriesOfItems es) :: treesOfTables more

end

/-- The entries of a file. -/
def entriesOfTomlText? (text : String) : Option (List (String × Tree)) :=
  (Toml.Entries.parse? text).map entriesOfItems

end TableService.Settings
