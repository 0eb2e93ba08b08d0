/-
  Definitions of tables.

  * `Draft.read` goes once through the tokens of a statement that creates a table, after the key
    column.  `Draft.step` reads one token; what may come next is `Expected`.
  * The first fault in the text counts.  A column counts as given once the token after its type
    fits.
  * A table that exists stays as it is, but the text has to be right all the same.
  * Left out, by `Draft.leavesOut`: `CHECK`, `COLLATE`, generated columns, defaults that are no
    literals, `ON CONFLICT FAIL`, `MATCH`, deferred references, and the options `STRICT` and `WITHOUT`
    of a table.  A definition with one of these is refused.
-/
import TableService.Query.Command
import TableService.Store.Table
import TableService.Store.Token

namespace TableService.Store

/-- A table as far as its definition has been read. -/
structure Draft where
  sql : String
  /-- The table exists, so what its columns are does not matter. -/
  isKnown : Bool
  table : Table
  /-- The places of the unique key that was declared last. -/
  lastUnique : List Place

namespace Draft

/-! ## What a definition adds -/

/-- Adds a column. -/
def addColumn (d : Draft) (name type : String) : Except Fault Draft :=
  if d.isKnown then .ok d
  else if (d.table.declared? name).isSome then .error (.duplicateColumn name)
  else
    let c : Column := ⟨name, .ofType type, none, none⟩
    .ok { d with table := { d.table with columns := d.table.columns ++ [c] } }

/-- The place of the column that was added last. -/
def lastPlace (d : Draft) : Place :=
  match d.table.columns.length with
  | 0 => .key
  | n + 1 => .cell n

/-- Changes the column that was added last. -/
def changeLast (d : Draft) (f : Column → Column) : Draft :=
  let columns := d.table.columns
  { d with table := { d.table with columns := columns.modify (columns.length - 1) f } }

/-- Values at these places are to be unique. -/
def addUnique (d : Draft) (places : List Place) : Draft :=
  let known := d.isKnown || d.table.unique.any fun k => k.places == places
  let unique := if known then d.table.unique else ⟨places, none⟩ :: d.table.unique
  { d with table := { d.table with unique }, lastUnique := places }

/-- Says what is done about a row that has the values of another one, for the unique key that was
declared last. -/
def resolveUnique (d : Draft) (r : Resolution) : Except Fault Draft :=
  let isLast (k : UniqueKey) : Bool := k.places == d.lastUnique
  let replaces (k : UniqueKey) : Bool := k.resolution == some .replace
  match if d.isKnown then none else d.table.unique.find? isLast with
  | none => .ok d
  | some k =>
    let others := d.table.unique.filter (!isLast ·)
    let unique :=
      if k.resolution.isSome then d.table.unique
      else if r = .replace then
        others.filter (!replaces ·) ++ ⟨k.places, some r⟩ :: others.filter replaces
      else d.table.unique.map fun u => if isLast u then ⟨u.places, some r⟩ else u
    if k.resolution.any (· ≠ r) then .error .conflictingClauses
    else .ok { d with table := { d.table with unique } }

/-- The places of named columns. -/
def placesOf (d : Draft) (names : List String) (fault : String → Fault) :
    Except Fault (List Place) :=
  if d.isKnown then .ok []
  else names.mapM fun n =>
    match d.table.declared? n with
    | some p => .ok p
    | none => .error (fault n)

/-- Adds a foreign key. -/
def addForeignKey (d : Draft) (place : Place) (target : String) (column : Option String) : Draft :=
  let fk : ForeignKey := ⟨place, target, column, .noAction, .noAction⟩
  { d with table := { d.table with foreignKeys := fk :: d.table.foreignKeys } }

/-- Sets an action of the foreign key that was added last. -/
def setAction (d : Draft) (onDelete : Bool) (a : KeyAction) : Draft :=
  let change (fk : ForeignKey) : ForeignKey :=
    if onDelete then { fk with onDelete := a } else { fk with onUpdate := a }
  { d with table := { d.table with foreignKeys := d.table.foreignKeys.modify 0 change } }

/-! ## Reading -/

/-- Where a token does not fit. -/
def misfit {α : Type} (d : Draft) (t : Token) : Except Fault α := .error (t.fault d.sql)

/-- The value of an unsigned number. -/
def numberCell (text : String) : Cell :=
  match text.toList with
  | '0' :: 'x' :: ds | '0' :: 'X' :: ds =>
    .integer (UInt64.ofNat ((wholeOf 16 ds).getD 0)).toInt64
  | _ => (Cell.ofNumeral? text).getD .null

/-- A number with the other sign. -/
def negated : Cell → Cell
  | .integer i => .ofInt (-i.toInt)
  | .real x => .real x.neg
  | c => c

/-- The value of a token that is a literal. -/
def literal? (t : Token) : Option Cell :=
  match t.kind with
  | .number => some (numberCell t.text)
  | .text s => some (.text s)
  | .blob bytes => some (.blob bytes)
  | .name s => some (.text s)
  | .word =>
    if t.isWord "null" then some .null
    else if t.isWord "true" then some (.integer 1)
    else if t.isWord "false" then some (.integer 0)
    else t.name?.map .text
  | _ => none

/-- The type that tokens declare; what follows a word in quotes does not count. -/
def typeText (tokens : List Token) : String :=
  match tokens.head?.map Token.kind with
  | some (.name s) | some (.text s) => s
  | _ => String.intercalate " " (tokens.map Token.text)

/-- What a constraint belongs to. -/
inductive Owner where
  | column
  | table
  deriving DecidableEq

/-- What a constraint demands, where it may be said what is done about a conflict. -/
inductive Demand where
  /-- Nothing that a row could miss. -/
  | nothing
  /-- A value in the column that was added last. -/
  | value
  /-- The unique key that was declared last. -/
  | unique
  deriving DecidableEq

/-- What `ON` may begin after a constraint. -/
inductive Supplement where
  | none
  /-- What is done about a conflict. -/
  | conflict (demand : Demand)
  /-- What a foreign key does. -/
  | event
  deriving DecidableEq

/-- What has been read just before, and so what may come next. -/
inductive Expected where
  /-- A column, unless the table's constraints have begun, or a constraint of the table. -/
  | item (columnsDone : Bool)
  /-- The rest of a column's type. -/
  | type (name : String) (type : List Token)
  /-- A number of a type, a further one of which may follow. -/
  | size (name : String) (type : List Token) (further : Bool)
  | signedSize (name : String) (type : List Token) (further : Bool)
  | sizeEnd (name : String) (type : List Token) (further : Bool)
  /-- What follows a complete type. -/
  | typed (name : String) (type : List Token)
  /-- A constraint, the next item or the end, or a supplement to the last constraint. -/
  | constraint (owner : Owner) (supplement : Supplement)
  | conflict (owner : Owner) (demand : Demand)
  | resolution (owner : Owner) (demand : Demand)
  | notNull
  | primaryKey (owner : Owner)
  | default
  | defaultNumber (negative : Bool)
  | constraintName (owner : Owner)
  /-- Columns in parentheses that are to be unique, or to be the key. -/
  | namesOpen (isKey : Bool)
  | nextName (isKey : Bool) (names : List String)
  | namesNext (isKey : Bool) (names : List String)
  | foreignKey
  | foreignOpen
  | foreignName
  | foreignClose (name : String)
  | references (place : Place)
  | target (owner : Owner) (place : Place)
  /-- The name of the column that is referred to may follow. -/
  | targetOpen (owner : Owner) (place : Place) (target : String)
  | targetColumn (owner : Owner) (place : Place) (target : String)
  | targetClose (owner : Owner) (place : Place) (target column : String)
  | event (owner : Owner)
  | action (owner : Owner) (onDelete : Bool)
  | setAction (owner : Owner) (onDelete : Bool)
  | noAction (owner : Owner) (onDelete : Bool)
  /-- An option of the table, after a comma. -/
  | option
  /-- There is no option of this name, if what follows fits. -/
  | afterOption (name : String)
  /-- The definition is complete. -/
  | nothing
  deriving DecidableEq

/-- A step of reading. -/
abbrev Step := Except Fault (Draft × Expected)

/-- Goes on if a token is as required. -/
def require (d : Draft) (t : Token) (fits : Bool) (next : Expected) : Step :=
  if fits then .ok (d, next) else d.misfit t

/-- Goes on with the name that a token is. -/
def named (d : Draft) (t : Token) (next : String → Step) : Step :=
  match t.name? with
  | some n => next n
  | none => d.misfit t

/-- The start of a constraint of the table. -/
def tableConstraint? (t : Token) : Option Expected :=
  if t.isWord "unique" then some (.namesOpen false)
  else if t.isWord "foreign" then some .foreignKey
  else if t.isWord "primary" then some (.primaryKey .table)
  else if t.isWord "constraint" then some (.constraintName .table)
  else none

/-- The start of a constraint of the last column. -/
def columnConstraint? (d : Draft) (t : Token) : Option (Draft × Expected) :=
  if t.isWord "not" then some (d, .notNull)
  else if t.isWord "null" then some (d, .constraint .column (.conflict .nothing))
  else if t.isWord "unique" then
    some (d.addUnique [d.lastPlace], .constraint .column (.conflict .unique))
  else if t.isWord "primary" then some (d, .primaryKey .column)
  else if t.isWord "default" then some (d, .default)
  else if t.isWord "references" then some (d, .target .column d.lastPlace)
  else if t.isWord "constraint" then some (d, .constraintName .column)
  else none

/-- A token after a complete column or constraint. -/
def afterConstraint (d : Draft) (owner : Owner) (supplement : Supplement) (t : Token) : Step :=
  if t.isSign "," then .ok (d, .item (owner = .table))
  else if t.isSign ")" then .ok (d, .nothing)
  else if t.isWord "on" then
    match supplement with
    | .event => .ok (d, .event owner)
    | .conflict demand => .ok (d, .conflict owner demand)
    | .none => d.misfit t
  else
    let next := match owner with
      | .column => columnConstraint? d t
      | .table => (tableConstraint? t).map fun e => (d, e)
    match next with
    | some step => .ok step
    | none => d.misfit t

/-- Adds a column whose type is complete and reads the token after it. -/
def afterType (d : Draft) (name : String) (type : List Token) (t : Token) : Step :=
  match d.addColumn name (typeText type) with
  | .ok d => d.afterConstraint .column .none t
  | .error f => do
    discard (d.afterConstraint .column .none t)
    throw f

/-- What the word says about conflicts. -/
def resolution? (t : Token) : Option Resolution :=
  [("abort", .abort), ("rollback", .rollback), ("ignore", .ignore), ("replace", .replace)].find?
    (fun x => t.isWord x.1) |>.map Prod.snd

/-- Says what is done about a conflict with what a constraint demands. -/
def resolve (d : Draft) (demand : Demand) (r : Resolution) : Except Fault Draft :=
  match demand with
  | .nothing => .ok d
  | .value => .ok (d.changeLast fun c => { c with required := some r })
  | .unique => d.resolveUnique r

/-- The words that begin what is left out, where a constraint may begin. -/
def leftOutWords (owner : Owner) (supplement : Supplement) : List String :=
  (match owner with
    | .column => ["check", "collate", "generated", "as", "deferrable"]
    | .table => ["check"]) ++
  match owner, supplement with
  | .column, .event => ["match"]
  | .table, .event => ["match", "not", "deferrable"]
  | _, _ => []

/-- The token begins what is left out. -/
def leavesOut (expected : Expected) (t : Token) : Bool :=
  match expected with
  | .item _ => t.isWord "check"
  | .type .. | .typed .. => (leftOutWords .column .none).any t.isWord && !t.isTypeWord
  | .constraint owner supplement => (leftOutWords owner supplement).any t.isWord
  | .targetOpen owner _ _ => (leftOutWords owner .event).any t.isWord
  | .resolution _ _ => t.isWord "fail"
  | .notNull => t.isWord "deferrable"
  | .default =>
    t.isSign "(" || ["current_time", "current_date", "current_timestamp"].any t.isWord
  | .namesNext _ _ => ["collate", "asc", "desc"].any t.isWord
  | .option | .nothing => t.isWord "strict" || t.isWord "without"
  | _ => false

/-- Reads one token of what is covered. -/
def advance (state : Draft × Expected) (t : Token) : Step :=
  let (d, expected) := state
  let done (owner : Owner) (d : Draft) : Step := .ok (d, .constraint owner .event)
  match expected with
  | .item columnsDone =>
    match tableConstraint? t with
    | some e => .ok (d, e)
    | none => if columnsDone then d.misfit t else d.named t fun n => .ok (d, .type n [])
  | .type name type =>
    if t.isTypeWord then .ok (d, .type name (type ++ [t]))
    else if t.isSign "(" && !type.isEmpty then .ok (d, .size name (type ++ [t]) true)
    else d.afterType name type t
  | .size name type further =>
    if t.isSign "+" || t.isSign "-" then .ok (d, .signedSize name (type ++ [t]) further)
    else d.require t (t.kind == .number) (.sizeEnd name (type ++ [t]) further)
  | .signedSize name type further =>
    d.require t (t.kind == .number) (.sizeEnd name (type ++ [t]) further)
  | .sizeEnd name type further =>
    if further && t.isSign "," then .ok (d, .size name (type ++ [t]) false)
    else d.require t (t.isSign ")") (.typed name (type ++ [t]))
  | .typed name type => d.afterType name type t
  | .constraint owner supplement => d.afterConstraint owner supplement t
  | .conflict owner demand => d.require t (t.isWord "conflict") (.resolution owner demand)
  | .resolution owner demand =>
    match resolution? t with
    | some r => return (← d.resolve demand r, .constraint owner .none)
    | none => d.misfit t
  | .notNull =>
    (d.changeLast fun c => { c with required := some .abort }).require t (t.isWord "null")
      (.constraint .column (.conflict .value))
  | .primaryKey owner =>
    if !t.isWord "key" then d.misfit t
    else if owner = .table then .ok (d, .namesOpen true)
    else if d.isKnown then .ok (d, .constraint .column (.conflict .nothing))
    else .error (.secondPrimaryKey d.table.name)
  | .default =>
    match literal? t with
    | some v => .ok (d.changeLast fun c => { c with initial := some v }, .constraint .column .none)
    | none => d.require t (t.isSign "+" || t.isSign "-") (.defaultNumber (t.isSign "-"))
  | .defaultNumber negative =>
    match literal? t with
    | some v =>
      let v := if negative then negated v.numberOf else v
      .ok (d.changeLast fun c => { c with initial := some v }, .constraint .column .none)
    | none => d.misfit t
  | .constraintName owner => d.named t fun _ => .ok (d, .constraint owner .none)
  | .namesOpen isKey => d.require t (t.isSign "(") (.nextName isKey [])
  | .nextName isKey names => d.named t fun n => .ok (d, .namesNext isKey (names ++ [n]))
  | .namesNext isKey names =>
    if t.isSign "," then .ok (d, .nextName isKey names)
    else if !t.isSign ")" then d.misfit t
    else if isKey && !d.isKnown then .error (.secondPrimaryKey d.table.name)
    else if isKey then .ok (d, .constraint .table (.conflict .nothing))
    else return (d.addUnique (← d.placesOf names .noColumn), .constraint .table (.conflict .unique))
  | .foreignKey => d.require t (t.isWord "key") .foreignOpen
  | .foreignOpen => d.require t (t.isSign "(") .foreignName
  | .foreignName => d.named t fun n => .ok (d, .foreignClose n)
  | .foreignClose name =>
    if t.isSign ")" then do
      let places ← d.placesOf [name] .unknownForeignColumn
      return (d, .references (places.head?.getD .key))
    else d.misfit t
  | .references place => d.require t (t.isWord "references") (.target .table place)
  | .target owner place => d.named t fun n => .ok (d, .targetOpen owner place n)
  | .targetOpen owner place target =>
    if t.isSign "(" then .ok (d, .targetColumn owner place target)
    else (d.addForeignKey place target none).afterConstraint owner .event t
  | .targetColumn owner place target =>
    d.named t fun n => .ok (d, .targetClose owner place target n)
  | .targetClose owner place target column =>
    (d.addForeignKey place target (some column)).require t (t.isSign ")") (.constraint owner .event)
  | .event owner =>
    d.require t (t.isWord "delete" || t.isWord "update") (.action owner (t.isWord "delete"))
  | .action owner onDelete =>
    if t.isWord "cascade" then done owner (d.setAction onDelete .cascade)
    else if t.isWord "restrict" then done owner (d.setAction onDelete .restrict)
    else if t.isWord "set" then .ok (d, .setAction owner onDelete)
    else d.require t (t.isWord "no") (.noAction owner onDelete)
  | .setAction owner onDelete =>
    if t.isWord "null" then done owner (d.setAction onDelete .setNull)
    else if t.isWord "default" then done owner (d.setAction onDelete .setDefault)
    else d.misfit t
  | .noAction owner onDelete =>
    (d.setAction onDelete .noAction).require t (t.isWord "action") (.constraint owner .event)
  | .option => d.named t fun n => .ok (d, .afterOption n)
  | .afterOption name =>
    if t.isSign "," || t.isSign ";" then .error (.unknownOption name) else d.misfit t
  | .nothing =>
    if t.isSign "," then .ok (d, .option)
    else if t.isSign ";" then .ok (d, .nothing)
    else d.named t fun n => .ok (d, .afterOption n)

/-- Reads one token. -/
def step (state : Draft × Expected) (t : Token) : Step :=
  if leavesOut state.2 t then .error (.leftOut t.text) else advance state t

/-- Reads all tokens after the key column. -/
def read (d : Draft) (tokens : List Token) : Except Fault Draft := do
  let (d, expected) ← tokens.foldlM step (d, .constraint .column .none)
  match expected with
  | .nothing => return d
  | .afterOption name => throw (.unknownOption name)
  | _ => throw .incomplete

end Draft

/-- The number of tokens before the definitions: up to the end of the key column. -/
def tokensBefore : Nat := 12

/-- Creates a table, unless it exists. -/
def Contents.create (s : Contents) (table : Identifier) (definitions : List String) :
    Except Fault Contents := do
  let sql := createTableSql .sqlite table definitions
  if isReserved table.name then throw (.reservedName table.name)
  let fresh : Table := ⟨table.name, [], [], [], .empty, 0⟩
  let existing := s.find? table.name
  let d ← Draft.read ⟨sql, existing.isSome, fresh, []⟩ ((tokens sql).drop tokensBefore)
  return if existing.isSome then s else ⟨s.tables ++ [d.table]⟩

end TableService.Store
