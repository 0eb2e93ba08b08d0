/-
  The variables of the environment, and files that set them.

  A line of such a file sets one variable.  Its value may stand in quotes, within which blanks
  count; outside single quotes `$NAME` and `${NAME}` stand for the value of a variable.

  * `Environment.setting?` reads a line, `Environment.value?` a value.
  * `Environment.load` sets the variables of a file up to its first line with a fault.
    `get?_setDefault` says that a variable that is set keeps its value.
-/
import TableService.Named
import TableService.Text.Alphanumeric
import TableService.Text.Blank
import TableService.Text.Pieces

namespace TableService

/-- Variables with their values. -/
abbrev Environment := Named String

namespace Environment

/-- Sets a variable that is not set. -/
def setDefault (env : Environment) (name value : String) : Environment :=
  env.change name fun old => old.getD value

/-- The value of a variable; nothing if it is not set. -/
def text (env : Environment) (name : List Char) : List Char :=
  ((env.get? (String.ofList name)).getD "").toList

/-! ## Values -/

/-- Where the reading of a value stands. -/
inductive Place where
  | plain
  /-- After a backslash. -/
  | escaped
  /-- In single quotes. -/
  | quoted
  /-- In the name of a variable. -/
  | name (read : List Char)
  /-- In the name of a variable in braces. -/
  | braced (read : List Char)
  /-- After a blank: only a comment may follow. -/
  | ended

/-- The character that an escaped character stands for. -/
def unescaped? (c : Char) : Option Char :=
  if c = '\\' ∨ c = '\'' ∨ c = '"' ∨ c = '$' ∨ c = ' ' then some c
  else if c = 'n' then some '\n'
  else none

/-- Reads the rest of a value; `double` says that it is in double quotes. -/
def valueFrom? (env : Environment) : Bool → Place → List Char → Option (List Char)
  | _, .quoted, [] | _, .braced _, [] => none
  | double, .name n, [] => if double then none else some (env.text n)
  | double, _, [] => if double then none else some []
  | double, .ended, c :: cs =>
    if c = ' ' ∨ c = '\t' then valueFrom? env double .ended cs
    else if c = '#' then some []
    else none
  | double, .escaped, c :: cs => do
    return (← unescaped? c) :: (← valueFrom? env double .plain cs)
  | double, .quoted, c :: cs =>
    if c = '\'' then valueFrom? env double .plain cs
    else (valueFrom? env double .quoted cs).map (c :: ·)
  | double, .name n, c :: cs =>
    if Text.isAlphanumeric c then valueFrom? env double (.name (n ++ [c])) cs
    else if c = '\x7b' ∧ n = [] then valueFrom? env double (.braced []) cs
    else if c = '$' then (valueFrom? env double (.name []) cs).map (env.text n ++ ·)
    else (valueFrom? env double .plain cs).map (env.text n ++ c :: ·)
  | double, .braced n, c :: cs =>
    if c = '\x7d' then (valueFrom? env double .plain cs).map (env.text n ++ ·)
    else valueFrom? env double (.braced (n ++ [c])) cs
  | double, .plain, c :: cs =>
    if c = '$' then valueFrom? env double (.name []) cs
    else if c = '"' then valueFrom? env (!double) .plain cs
    else if c = '\\' then valueFrom? env double .escaped cs
    else if c = '\'' ∧ !double then valueFrom? env double .quoted cs
    else if (c = ' ' ∨ c = '\t') ∧ !double then valueFrom? env double .ended cs
    else (valueFrom? env double .plain cs).map (c :: ·)

/-- Reads a value; a comment may stand in its place. -/
def value? (env : Environment) (cs : List Char) : Option (List Char) :=
  if cs.head? = some '#' then some [] else valueFrom? env false .plain cs

/-! ## Lines -/

/-- Reads the name of a variable and the blanks after it. -/
def name? (cs : List Char) : Option (String × List Char) :=
  match cs with
  | [] => none
  | c :: _ =>
    if c.isAlpha || c = '_' then
      let name := cs.takeWhile fun c => c.isAlphanum || c = '_' || c = '.'
      some (String.ofList name, (cs.drop name.length).dropWhile Text.isBlank)
    else none

/-- Reads the name that a line sets, before which `export` may stand. -/
def target? (cs : List Char) : Option (String × List Char) := do
  let (name, rest) ← name? cs
  if name = "export" ∧ rest.head? ≠ some '=' then name? rest else return (name, rest)

/-- Reads a line; blank lines and comments set nothing. -/
def setting? (env : Environment) (line : List Char) : Option (Option (String × String)) :=
  let line := Text.stripBoth Text.isBlank line
  if line.isEmpty ∨ line.head? = some '#' then some none
  else do
    let (name, rest) ← target? line
    match rest with
    | '=' :: value =>
      let v ← env.value? (value.dropWhile Text.isBlank)
      return some (name, String.ofList v)
    | _ => none

/-- Sets the variables of lines. -/
def loadLines (env : Environment) : List (List Char) → Environment
  | [] => env
  | line :: more =>
    match env.setting? line with
    | none => env
    | some none => loadLines env more
    | some (some (name, value)) => loadLines (env.setDefault name value) more

/-- Sets the variables of a file. -/
def load (env : Environment) (file : String) : Environment :=
  env.loadLines (Text.piecesAt '\n' file.toList)

theorem lookup_changeEntries {name : String} {value v : String} {l : List (String × String)}
    (h : l.lookup name = some v) (other : String) :
    (Named.changeEntries other (fun old => old.getD value) l).lookup name = some v := by
  induction l with
  | nil => simp at h
  | cons e l ih =>
    obtain ⟨n, a⟩ := e
    by_cases hn : n = other
    · simpa [Named.changeEntries, hn] using h
    · simp only [Named.changeEntries, hn, if_false, List.lookup_cons] at h ⊢
      split <;> simp_all

theorem get?_setDefault {env : Environment} {name v : String} (h : env.get? name = some v)
    (other value : String) : (env.setDefault other value).get? name = some v :=
  lookup_changeEntries h other

end Environment

end TableService
