/-
  Files of settings in YAML.

  The scalars follow rules of their own here: only the words in lower case are null or truth
  values, and whole numbers have 64 bits with sign, or else are decimals.
-/
import TableService.Settings.Tree
import TableService.Text.Pieces
import TableService.Yaml.Node

namespace TableService.Settings

/-- The whole number of a plain scalar. -/
def yamlInteger? (cs : List Char) : Option Int :=
  let special : Option Int := match cs with
    | '0' :: 'x' :: ds => longIn? 16 ds
    | '0' :: 'o' :: ds => longIn? 8 ds
    | '+' :: ds => longIn? 10 ds
    | _ => none
  special <|> longIn? 10 cs

/-- The decimal of a plain scalar. -/
def yamlFloat? (s : String) : Option Double :=
  if [".inf", ".Inf", ".INF", "+.inf", "+.Inf", "+.INF"].contains s then
    some (.ofValue (.infinite false))
  else if ["-.inf", "-.Inf", "-.INF"].contains s then some (.ofValue (.infinite true))
  else if [".nan", ".NaN", ".NAN"].contains s then some (.ofValue .nan)
  else if s.toList.any Char.isDigit then floatOf s.toList
  else none

/-- The word of a truth value. -/
def yamlBool? (s : String) : Option Bool :=
  if s = "true" then some true else if s = "false" then some false else none

/-- The meaning of a plain scalar. -/
def treeOfPlain (s : String) : Tree :=
  if s = "" ∨ s = "~" ∨ s = "null" then .nothing
  else match yamlBool? s with
    | some b => .bool b
    | none => match yamlInteger? s.toList with
      | some i => .int i
      | none => match yamlFloat? s with
        | some x => .float x
        | none => .text s

/-- The meaning of a scalar with a standard tag; what does not fit is nothing. -/
def treeOfTagged (kind text : String) : Tree :=
  if kind = "bool" then ((yamlBool? text).map Tree.bool).getD .nothing
  else if kind = "int" then ((longIn? 10 text.toList).map Tree.int).getD .nothing
  else if kind = "float" then ((yamlFloat? text).map Tree.float).getD .nothing
  else if kind = "null" then .nothing
  else .text text

/-- The tree of a scalar. -/
def treeOfScalar (text : String) (plain : Bool) (tag : Option String) : Tree :=
  match tag with
  | some t =>
    let standard := "tag:yaml.org,2002:"
    if plain && standard.isPrefixOf t then
      treeOfTagged (String.ofList (t.toList.drop standard.length)) text
    else .text text
  | none => if plain then treeOfPlain text else .text text

/-- The name that a key stands for. -/
def keyOf? : Tree → Option String
  | .text s => some s
  | .int i => (Tree.int i).text?
  | .bool b => (Tree.bool b).text?
  | .float x => (Tree.float x).text?
  | _ => none

mutual

/-- The tree of a node; the keys of a mapping are scalars, and distinct. -/
def treeOfNode? : Yaml.Node → Option Tree
  | .scalar text plain tag => some (treeOfScalar text plain tag)
  | .sequence items _ => (treesOfNodes? items).map .list
  | .mapping entries _ => do
    let es ← entriesOfNodes? entries
    if (es.map Prod.fst).Nodup then some (.table es) else none

/-- The trees of items. -/
def treesOfNodes? : List Yaml.Node → Option (List Tree)
  | [] => some []
  | n :: ns => do return (← treeOfNode? n) :: (← treesOfNodes? ns)

/-- The entries of a mapping. -/
def entriesOfNodes? : List (Yaml.Node × Yaml.Node) → Option (List (String × Tree))
  | [] => some []
  | (k, v) :: es => do
    let name ← keyOf? (← treeOfNode? k)
    return (name, ← treeOfNode? v) :: (← entriesOfNodes? es)

end

/-- A text without content: blanks and comments only. -/
def isBare (text : String) : Bool :=
  (Text.piecesAt '\n' text.toList).all fun line =>
    let rest := line.dropWhile fun c => c = ' ' || c = '\t' || c = '\r'
    rest.isEmpty || rest.head? = some '#'

/-- The entries of a file, which has to hold a mapping unless it is bare. -/
def entriesOfYamlText? (text : String) : Option (List (String × Tree)) :=
  if isBare text then some []
  else match (Yaml.Node.parse? text).bind treeOfNode? with
    | some (.table es) => some es
    | _ => none

end TableService.Settings
