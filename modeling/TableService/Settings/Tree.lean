/-
  Trees of settings, as they come from files of any format.

  * `Tree.put` sets the value at a path; a table is merged into the table that is there.  What
    stands in the way of a path is replaced.
  * `Tree.bool?`, `Tree.text?` and `Tree.port?` convert scalars to what is wanted where they can be
    taken for it.
  * `Settings.ofTree?` reads settings; a record is a table, or the list of its values.
-/
import TableService.Json.Writer
import TableService.Named
import TableService.Number.Reading
import TableService.Settings.Basic
import TableService.Text.Case

namespace TableService.Settings

/-- A value in a file of settings. -/
inductive Tree where
  | nothing
  | bool (b : Bool)
  | int (i : Int)
  | float (x : Double)
  | text (s : String)
  | list (items : List Tree)
  /-- Values under distinct names. -/
  | table (entries : List (String × Tree))
  deriving Inhabited

/-- A step of a path: a name in a table, or a place in a list, from the end where it is negative. -/
inductive Step where
  | name (s : String)
  | place (i : Int)
  deriving DecidableEq, Repr

namespace Tree

/-! ## Setting values -/

/-- The entries of a table; other values have none. -/
def entries : Tree → List (String × Tree)
  | .table es => es
  | _ => []

/-- The items of a list; other values have none. -/
def items : Tree → List Tree
  | .list ts => ts
  | _ => []

mutual

/-- Puts a value in place of another, merging a table into a table. -/
def merge : Tree → Tree → Tree
  | .table es, old => .table (mergeEntries es old.entries)
  | new, _ => new

/-- Merges entries one by one. -/
def mergeEntries : List (String × Tree) → List (String × Tree) → List (String × Tree)
  | [], old => old
  | (name, t) :: es, old =>
    mergeEntries es (Named.changeEntries name (fun o => merge t (o.getD .nothing)) old)

end

/-- Changes the item at a place of a list, which is extended on either side to have it. -/
def changeItem (i : Int) (f : Tree → Tree) (l : List Tree) : List Tree :=
  if 0 ≤ i then
    let l := l ++ List.replicate (i.toNat + 1 - l.length) .nothing
    l.modify i.toNat f
  else
    let l := List.replicate (i.natAbs - l.length) .nothing ++ l
    l.modify (l.length - i.natAbs) f

/-- Changes the value at a path. -/
def change (f : Tree → Tree) : List Step → Tree → Tree
  | [], t => f t
  | .name s :: path, t =>
    .table (Named.changeEntries s (fun o => change f path (o.getD .nothing)) t.entries)
  | .place i :: path, t => .list (changeItem i (change f path) t.items)

/-- Sets the value at a path. -/
def put (path : List Step) (value root : Tree) : Tree := change (merge value) path root

/-! ## Paths -/

/-- A character of a name in a path. -/
def isNameChar (c : Char) : Bool := c.isAlphanum || c = '_' || c = '-'

/-- What follows the first name of a path: names behind points, places in brackets. -/
def steps? : List Char → Option (List Step)
  | [] => some []
  | '.' :: cs =>
    let name := cs.takeWhile isNameChar
    if name.isEmpty then none
    else (steps? (cs.drop name.length)).map (.name (String.ofList name) :: ·)
  | '[' :: cs =>
    let inner := cs.takeWhile (· ≠ ']')
    if inner.head? = some '+' ∨ cs.length = inner.length then none
    else do
      let i ← integerOf inner
      return .place i :: (← steps? (cs.drop (inner.length + 1)))
  | _ => none
termination_by cs => cs.length
decreasing_by all_goals (simp only [List.length_drop, List.length_cons]; omega)

/-- The path that a name in a file stands for: itself if it is no path. -/
def pathOf (s : String) : List Step :=
  let cs := s.toList
  let name := cs.takeWhile isNameChar
  if name.isEmpty then [.name s]
  else match steps? (cs.drop name.length) with
    | some steps => .name (String.ofList name) :: steps
    | none => [.name s]

/-- Adds the entries of a file. -/
def addFile (file : List (String × Tree)) (root : Tree) : Tree :=
  file.foldl (fun root (name, t) => put (pathOf name) t root) root

/-! ## Scalars -/

/-- The text of a double without an exponent. -/
def floatText (x : Double) : List Char :=
  match x.value with
  | .finite negative significand exponent =>
    let magnitude :=
      if significand = 0 then ['0']
      else
        let s := Double.shortest significand exponent
        let digits := digitsText s.coefficient
        let point := s.exponent + digits.length
        if 0 ≤ s.exponent then digits ++ Double.zeros s.exponent.toNat
        else if 0 < point then digits.take point.toNat ++ '.' :: digits.drop point.toNat
        else '0' :: '.' :: Double.zeros (-point).toNat ++ digits
    if negative then '-' :: magnitude else magnitude
  | .infinite negative => if negative then "-inf".toList else "inf".toList
  | .nan => "NaN".toList

/-- A truth value in words. -/
def wordBool? (s : String) : Option Bool :=
  let s := Text.lower s
  if s = "true" ∨ s = "on" ∨ s = "yes" then some true
  else if s = "false" ∨ s = "off" ∨ s = "no" then some false
  else none

/-- A truth value; numbers stand for being other than zero. -/
def bool? : Tree → Option Bool
  | .bool b => some b
  | .int i => some (i != 0)
  | .float x => some (!x.isZero)
  | .text s => if s = "1" then some true else if s = "0" then some false else wordBool? s
  | _ => none

/-- A text; truth values and numbers are written out. -/
def text? : Tree → Option String
  | .text s => some s
  | .bool b => some (if b then "true" else "false")
  | .int i => some (String.ofList (intText i))
  | .float x => some (String.ofList (floatText x))
  | _ => none

/-- The whole number nearest to a double, within 64 bits. -/
def nearestWhole (x : Double) : Nat :=
  match x.value with
  | .infinite negative => if negative then 0 else 0xffffffffffffffff
  | .nan => 0
  | .finite .. => min (((x.roundAway).getD 0).toNat) 0xffffffffffffffff

/-- A whole number without a minus sign. -/
def whole? : Tree → Option Nat
  | .int i => if 0 ≤ i then some i.toNat else none
  | .bool b => some (if b then 1 else 0)
  | .float x => some (nearestWhole x)
  | .text s =>
    match wordBool? s with
    | some b => some (if b then 1 else 0)
    | none => wholeOf 10 (if s.toList.head? = some '+' then s.toList.drop 1 else s.toList)
  | _ => none

/-- A port. -/
def port? (t : Tree) : Option UInt16 := do
  let n ← t.whole?
  if n < UInt16.size then some n.toUInt16 else none

/-- A list of texts. -/
def texts? : Tree → Option (List String)
  | .list ts => ts.mapM text?
  | _ => none

/-! ## Records -/

/-- A part of a record. -/
inductive Part where
  | given (t : Tree)
  /-- Left out of a table. -/
  | absent
  /-- Beyond the end of a list. -/
  | missing

/-- The part of a record with a name and a place; other values are no records. -/
def part (t : Tree) (place : Nat) (name : String) : Option Part :=
  match t with
  | .table es => some (((es.lookup name).map Part.given).getD .absent)
  | .list ts => some ((ts[place]?.map Part.given).getD .missing)
  | _ => none

/-- A part that has to be there. -/
def required {α : Type} (read : Tree → Option α) (t : Tree) (place : Nat) (name : String) :
    Option α := do
  match ← part t place name with
  | .given v => read v
  | _ => none

/-- A part that may be left out of a table, or be nothing. -/
def optional {α : Type} (read : Tree → Option α) (t : Tree) (place : Nat) (name : String) :
    Option (Option α) := do
  match ← part t place name with
  | .given .nothing | .absent => some none
  | .given v => (read v).map some
  | .missing => none

/-- A part in place of which a value is taken where it is not there. -/
def withDefault {α : Type} (read : Tree → Option α) (default : α) (t : Tree) (place : Nat)
    (name : String) : Option α := do
  match ← part t place name with
  | .given v => read v
  | _ => some default

/-- The settings of a database. -/
def database? (t : Tree) : Option DatabaseSettings := do
  return {
    type := ← required text? t 0 "type"
    path := ← optional text? t 1 "path"
    url := ← optional text? t 2 "url"
    host := ← optional text? t 3 "host"
    port := ← optional port? t 4 "port"
    user := ← optional text? t 5 "user"
    password := ← optional text? t 6 "password"
    database := ← optional text? t 7 "database" }

/-- Where the service listens. -/
def server? (t : Tree) : Option ServerSettings := do
  return ⟨← required text? t 0 "host", ← required port? t 1 "port"⟩

/-- The languages. -/
def localization? (t : Tree) : Option LocalizationSettings := do
  return ⟨← required bool? t 0 "enable", ← withDefault texts? [] t 1 "locales",
    ← required text? t 2 "fallback_locale"⟩

/-- A part of the system is there. -/
def enabled? (t : Tree) : Option Bool := required bool? t 0 "enable"

end Tree

/-- The settings in a tree. -/
def ofTree? (t : Tree) : Option Settings := do
  return {
    database := ← Tree.required Tree.database? t 0 "database"
    server := ← Tree.required Tree.server? t 1 "server"
    schemaPath := ← Tree.required (fun s => Tree.required Tree.text? s 0 "path") t 2 "schema"
    localization := ← Tree.required Tree.localization? t 3 "localization"
    storage := ← Tree.required Tree.enabled? t 4 "storage"
    auth := ← Tree.required Tree.enabled? t 5 "auth"
    logLevel := ← Tree.required (fun s => Tree.required Tree.text? s 0 "level") t 6 "logging" }

end TableService.Settings
