/-
  Statements given as texts: the plain forms of `SELECT`, `INSERT`, `UPDATE` and `DELETE` on one
  table, and the question whether foreign keys are respected, which they are.

  * Each question mark of a text gets its value, `Piece`.  A statement is taken apart at its keywords,
    `Request.parse`; what remains between them is lists of short groups of pieces.
  * `Request.run` looks up what the statement names, then wants as many values as there are
    question marks, and then runs it.
  * Left out: all other statements, among them those that create, change or drop tables, indexes,
    views and triggers, those of transactions, and `PRAGMA foreign_keys` with another value; what is done
    about conflicts in a statement; joins, subqueries, expressions, functions, aliases, grouping and
    `RETURNING`.  A text with any of these is refused.  What can stand nowhere in a statement is a
    syntax error.
-/
import TableService.Store.Change
import TableService.Store.Definition
import TableService.Store.Selection

namespace TableService.Store

/-- A token of a text that is run, with the value for it if it is a question mark. -/
structure Piece where
  token : Token
  value : Option Cell

namespace Piece

/-- The piece is a word, whatever its case. -/
def isWord (p : Piece) (lower : String) : Bool := p.token.isWord lower

/-- The piece is a sign. -/
def isSign (p : Piece) (sign : String) : Bool := p.token.isSign sign

/-- Tokens with values for the question marks, nothing for those that have none. -/
def fill : List Token → List Cell → List Piece
  | [], _ => []
  | t :: ts, values =>
    if t.isSign "?" then ⟨t, some (values.headD .null)⟩ :: fill ts values.tail
    else ⟨t, none⟩ :: fill ts values

end Piece

/-- A text to be run. -/
structure Source where
  sql : String
  /-- The first statement. -/
  pieces : List Piece
  /-- There are others. -/
  goesOn : Bool

/-- A name of a column. -/
structure Mention where
  name : String
  /-- The name as it is written. -/
  text : String
  /-- Where the name stands, if it is without quotes and so must be a column. -/
  bare : Option Misfit

/-- A condition on columns. -/
inductive Condition where
  | compare (column : Mention) (c : Comparison) (operand : Cell)
  | member (column : Mention) (negated : Bool) (operands : List Cell)
  | missing (column : Mention) (negated : Bool)
  | constant (holds : Bool)

/-- What a text asks for. -/
inductive Request where
  | pragma
  /-- Literals, with their texts. -/
  | literals (items : List (String × Cell))
  /-- Without columns, all of them. -/
  | select (table : String) (columns : List Mention) (conditions : List Condition)
      (order : List (Mention × Bool)) (limit offset : Option Nat)
  | insert (table : String) (assignments : List (String × Cell))
  | update (table : String) (assignments : List (String × Cell)) (conditions : List Condition)
  | delete (table : String) (conditions : List Condition)
  /-- Nothing is done. -/
  | nothing

/-! ## Taking a text apart -/

/-- Splits at the elements that `p` holds of. -/
def splitAt' {α : Type} (p : α → Bool) : List α → List (List α)
  | [] => [[]]
  | x :: xs =>
    match splitAt' p xs with
    | [] => [[]]
    | g :: gs => if p x then [] :: g :: gs else (x :: g) :: gs

/-- Groups between commas. -/
def groups (ps : List Piece) : List (List Piece) := splitAt' (·.isSign ",") ps

namespace Source

/-- The text with the values for its marks. -/
def of (sql : String) (params : List Json) : Source :=
  let ts := tokens sql
  let first := ts.takeWhile (!·.isSign ";")
  ⟨sql, Piece.fill first (params.map .ofJson), (ts.drop first.length).any (!·.isSign ";")⟩

/-- Words that stand nowhere in the statements that are covered but where they are wanted. -/
def strangeWords : List String :=
  ["add", "alter", "autoincrement", "check", "commit", "constraint", "create", "deferrable", "delete",
    "drop", "foreign", "index", "insert", "into", "primary", "references", "set", "table", "then",
    "to", "transaction", "unique", "update"]

/-- The first piece of a group does not fit; the text is too short if there is none.  A parameter may
have a name. -/
def misfit {α : Type} (s : Source) (group : List Piece) : Except Fault α :=
  match group with
  | [] => .error .incomplete
  | p :: _ =>
    let t := p.token
    let isNamed := t.text.toList.head?.any [':', '@', '$', '#'].contains
    if (t.kind = .bad && !isNamed) || strangeWords.any t.isWord || t.isSign ")" then
      .error (t.fault s.sql)
    else .error (.leftOut t.text)

/-- The value of a piece that is a literal or a question mark. -/
def literal? (p : Piece) : Option Cell :=
  p.value <|> match p.token.kind with
    | .number => some (Draft.numberCell p.token.text)
    | .text s => some (.text s)
    | .blob bytes => some (.blob bytes)
    | .word =>
      if p.isWord "null" then some .null
      else if p.isWord "true" then some (.integer 1)
      else if p.isWord "false" then some (.integer 0)
      else none
    | _ => none

/-- The value that pieces stand for. -/
def operand (s : Source) : List Piece → Except Fault Cell
  | [] => s.misfit []
  | p :: rest =>
    match literal? p, rest with
    | some v, [] => .ok v
    | some _, rest => s.misfit rest
    | none, [n] =>
      if p.isSign "-" && n.token.kind == .number then
        .ok (Draft.negated (Draft.numberCell n.token.text))
      else s.misfit [p]
    | none, _ => s.misfit [p]

/-- A piece that stands for a name, of a table or of a column to be set. -/
def name (s : Source) : List Piece → Except Fault String
  | [] => s.misfit []
  | p :: rest =>
    match p.token.name? with
    | some n => if rest.isEmpty then .ok n else s.misfit rest
    | none => s.misfit [p]

/-- Words that are values where they are no columns. -/
def valueWords : List String :=
  ["true", "false", "current_time", "current_date", "current_timestamp"]

/-- The column that a piece may stand for. -/
def mention? (s : Source) (p : Piece) : Option Mention :=
  match p.token.kind with
  | .name n => some ⟨n, p.token.text, none⟩
  | .word =>
    if valueWords.any p.isWord then none
    else p.token.name?.map fun n => ⟨n, p.token.text, some ⟨p.token.text, s.sql, p.token.offset⟩⟩
  | _ => none

/-- A column, and what follows it. -/
def mention (s : Source) : List Piece → Except Fault (Mention × List Piece)
  | [] => s.misfit []
  | p :: rest =>
    match s.mention? p with
    | some m => .ok (m, rest)
    | none => s.misfit [p]

/-- Pieces between brackets in groups, and what follows. -/
def bracketed (s : Source) : List Piece → Except Fault (List (List Piece) × List Piece)
  | [] => s.misfit []
  | p :: ps =>
    let inside := ps.takeWhile (!·.isSign ")")
    if !p.isSign "(" then s.misfit [p]
    else if inside.isEmpty then .error (.leftOut "()")
    else
      match ps.drop inside.length with
      | _ :: rest => .ok (groups inside, rest)
      | [] => s.misfit []

/-- Comparisons by their signs. -/
def signs : List (String × Comparison) :=
  [("=", .eq), ("==", .eq), ("!=", .ne), ("<>", .ne), (">", .gt), (">=", .gte), ("<", .lt),
    ("<=", .lte)]

/-- The comparison of a piece. -/
def comparison? (p : Piece) : Option Comparison :=
  if p.isWord "like" then some .like
  else if p.token.kind = .sign then signs.lookup p.token.text
  else none

/-- Values in brackets. -/
def members (s : Source) (ps : List Piece) : Except Fault (List Cell) := do
  let (inside, rest) ← s.bracketed ps
  if rest.isEmpty then inside.mapM s.operand else s.misfit rest

/-- What is asked of a column. -/
def question (s : Source) (m : Mention) : List Piece → Except Fault Condition
  | [] => s.misfit []
  | o :: rest =>
    match comparison? o with
    | some c => return .compare m c (← s.operand rest)
    | none =>
      if o.isWord "in" then return .member m false (← s.members rest)
      else if o.isWord "not" then
        match rest with
        | i :: rest =>
          if i.isWord "in" then return .member m true (← s.members rest) else s.misfit [i]
        | [] => s.misfit []
      else if o.isWord "is" then
        match rest with
        | [n] => if n.isWord "null" then .ok (.missing m false) else s.misfit [n]
        | [n, v] =>
          if n.isWord "not" && v.isWord "null" then .ok (.missing m true) else s.misfit [n]
        | group => s.misfit group
      else s.misfit [o]

/-- A condition. -/
def condition (s : Source) : List Piece → Except Fault Condition
  | [] => s.misfit []
  | p :: rest =>
    if rest.isEmpty && p.token.kind = .number && (p.token.text == "0" || p.token.text == "1") then
      .ok (.constant (p.token.text == "1"))
    else do
      let (m, rest) ← s.mention (p :: rest)
      if rest.isEmpty then .error (.leftOut m.text) else s.question m rest

/-- The conditions after a keyword, none if it is missing. -/
def conditions (s : Source) : List Piece → Except Fault (List Condition)
  | [] => .ok []
  | p :: ps =>
    if p.isWord "where" then (splitAt' (·.isWord "and") ps).mapM s.condition else s.misfit [p]

/-- An assignment. -/
def assignment (s : Source) : List Piece → Except Fault (String × Cell)
  | [] => s.misfit []
  | [p] => do
    discard (s.name [p])
    s.misfit []
  | p :: o :: rest => do
    let name ← s.name [p]
    if o.isSign "=" then return (name, ← s.operand rest) else s.misfit [o]

/-- A column to order by, and whether it is descending. -/
def orderTerm (s : Source) (group : List Piece) : Except Fault (Mention × Bool) := do
  let (m, rest) ← s.mention group
  match rest with
  | [] => return (m, false)
  | [d] =>
    if d.isWord "desc" then return (m, true)
    else if d.isWord "asc" then return (m, false)
    else s.misfit [d]
  | d :: e :: _ => if d.isWord "desc" || d.isWord "asc" then s.misfit [e] else s.misfit [d]

/-- The columns to order by, and what follows. -/
def order (s : Source) : List Piece → Except Fault (List (Mention × Bool) × List Piece)
  | o :: by_ :: ps =>
    let terms := ps.takeWhile (!·.isWord "limit")
    if !o.isWord "order" then .ok ([], o :: by_ :: ps)
    else if by_.isWord "by" then
      return (← (groups terms).mapM s.orderTerm, ps.drop terms.length)
    else s.misfit [by_]
  | ps => .ok ([], ps)

/-- The number that digits denote. -/
def digits? : List Piece → Option Nat
  | [p] => if p.token.kind = .number then wholeOf 10 p.token.text.toList else none
  | _ => none

/-- A number of rows; a negative one is none.  What is no number of 64 bits is taken as one that is too
large. -/
def count (s : Source) (group : List Piece) : Except Fault (Option Nat) := do
  let v ← s.operand group
  return match digits? group, Affinity.numeric.store v with
    | some n, _ => some n
    | none, .integer i => if i < 0 then none else some i.toInt.toNat
    | none, _ => some (maxRange + 1)

/-- The number of rows that are wanted, and of those before them. -/
def range (s : Source) : List Piece → Except Fault (Option Nat × Option Nat)
  | [] => .ok (none, none)
  | p :: ps => do
    let limit := ps.takeWhile (!·.isWord "offset")
    if !p.isWord "limit" then s.misfit [p]
    match ps.drop limit.length with
    | [] => return (← s.count limit, none)
    | _ :: offset => return (← s.count limit, ← s.count offset)

/-- The end of a query, after the table. -/
def query (s : Source) (table : String) (columns : List Mention) (ps : List Piece) :
    Except Fault Request := do
  let conditions := ps.takeWhile fun p => !(p.isWord "order" || p.isWord "limit")
  let rest := ps.drop conditions.length
  let conditions ← s.conditions conditions
  let (terms, rest) ← s.order rest
  let (limit, offset) ← s.range rest
  return .select table columns conditions terms limit offset

/-- The columns of a query; none for all. -/
def columns (s : Source) (ps : List Piece) : Except Fault (List Mention) :=
  if ps.map (·.isSign "*") = [true] then .ok []
  else (groups ps).mapM fun group => do
    let (m, rest) ← s.mention group
    if rest.isEmpty then return m else s.misfit rest

/-- A query of a table, or of literals. -/
def select (s : Source) (ps : List Piece) : Except Fault Request := do
  let items := ps.takeWhile (!·.isWord "from")
  match ps.drop items.length with
  | [] =>
    return .literals (← (groups items).mapM fun group => do
      let v ← s.operand group
      match group with
      | [p] => return (p.token.text, v)
      | _ => .error (.leftOut "a sign"))
  | f :: table =>
    if items.isEmpty then .error (f.token.fault s.sql)
    let columns ← s.columns items
    s.query (← s.name (table.take 1)) columns (table.drop 1)

/-- An insertion, after its keyword. -/
def insertion (s : Source) : List Piece → Except Fault Request
  | [] => s.misfit []
  | i :: table => do
    if !i.isWord "into" then s.misfit [i]
    let name ← s.name (table.take 1)
    let (columns, rest) ← s.bracketed (table.drop 1)
    let columns ← columns.mapM s.name
    match rest with
    | [] => s.misfit []
    | v :: ps =>
      if !v.isWord "values" then s.misfit [v]
      let (values, rest) ← s.bracketed ps
      if !rest.isEmpty then s.misfit rest
      let values ← values.mapM s.operand
      if values.length ≠ columns.length then
        .error (.leftOut "another number of values than of columns")
      return .insert name (columns.zip values)

/-- A change, after its keyword. -/
def revision (s : Source) : List Piece → Except Fault Request
  | [] => s.misfit []
  | table :: rest => do
    let name ← s.name [table]
    match rest with
    | [] => s.misfit []
    | set :: ps =>
      let assignments := ps.takeWhile (!·.isWord "where")
      if !set.isWord "set" then s.misfit [set]
      return .update name (← (groups assignments).mapM s.assignment)
        (← s.conditions (ps.drop assignments.length))

/-- A removal, after its keyword. -/
def removal (s : Source) : List Piece → Except Fault Request
  | [] => s.misfit []
  | f :: table => do
    if !f.isWord "from" then s.misfit [f]
    return .delete (← s.name (table.take 1)) (← s.conditions (table.drop 1))

/-- What is asked about the database itself, after the keyword. -/
def pragma : List Piece → Except Fault Request
  | [n] =>
    if n.isWord "foreign_keys" then .ok .pragma else .error (.leftOut "PRAGMA")
  | [n, e, v] =>
    if n.isWord "foreign_keys" && e.isSign "=" && (v.isWord "on" || v.token.text == "1") then
      .ok .nothing
    else .error (.leftOut "PRAGMA")
  | _ => .error (.leftOut "PRAGMA")

/-- First words of other statements. -/
def otherStatements : List String :=
  ["alter", "analyze", "attach", "begin", "commit", "create", "detach", "drop", "end", "explain",
    "reindex", "release", "replace", "rollback", "savepoint", "vacuum", "values", "with"]

end Source

/-- The request of a text. -/
def Request.parse (s : Source) : Except Fault Request :=
  match s.pieces with
  | [] => .ok .nothing
  | p :: ps =>
    if s.goesOn then .error (.leftOut "several statements")
    else if p.isWord "select" then s.select ps
    else if p.isWord "insert" then s.insertion ps
    else if p.isWord "update" then s.revision ps
    else if p.isWord "delete" then s.removal ps
    else if p.isWord "pragma" then Source.pragma ps
    else if Source.otherStatements.any p.isWord then .error (.leftOut p.token.text)
    else .error (p.token.fault s.sql)

/-! ## Running it -/

/-- What a name stands for in a table; only in quotes may it be no column. -/
def Mention.subject (m : Mention) (t : Table) : Except Fault Subject :=
  match t.subject m.name, m.bare with
  | .word _, some misfit => .error (.unknownName misfit)
  | subject, _ => .ok subject

/-- The probe of a condition. -/
def Condition.probe (t : Table) : Condition → Except Fault Probe
  | .compare m c operand => return .compare (← m.subject t) c operand
  | .member m negated operands => return .member (← m.subject t) negated operands
  | .missing m negated => return .missing (← m.subject t) negated
  | .constant holds => return .constant holds

/-- A column of a result. -/
def Mention.shown (m : Mention) (t : Table) : Except Fault (String × Subject) := do
  match ← m.subject t with
  | .column p => return (t.nameAt p, .column p)
  | .word w => return (m.text, .word w)

/-- The number of values has to be that of the question marks. -/
def Source.checkCount (s : Source) (given : Nat) : Except Fault Unit :=
  let needed := s.pieces.countP (·.value.isSome)
  refuseIf (given ≠ needed) (.parameterCount (min given (needed + 1)) needed)

/-- What a text leads to. -/
structure Answer where
  /-- The number of rows that an update or a removal counts. -/
  changed : Nat
  /-- The rows that are asked for. -/
  rows : List Row

/-- What a request leads to, if `check` allows it once all names are known. -/
def Request.answer (s : Contents) (check : Except Fault Unit) :
    Request → Except Fault (Contents × Answer)
  | .nothing => do check; return (s, ⟨0, []⟩)
  | .pragma => do
    check
    return (s, ⟨0, [Record.ofList [("foreign_keys", Cell.json (.integer 1))]]⟩)
  | .literals items => do
    check
    return (s, ⟨0, [Record.ofList (items.map fun (name, v) => (name, v.json))]⟩)
  | .select table columns conditions order limit offset => do
    let t ← s.get table
    let probes ← conditions.mapM (·.probe t)
    let header ← columns.mapM (·.shown t)
    let terms ← order.mapM fun (m, descending) => return (← m.subject t, descending)
    check
    let header := if columns.isEmpty then t.header [] else header
    let picked := t.entries.list.filter (Probe.pick t probes)
    return (s, ⟨0, ← page limit offset ((sorted terms picked).map (·.row header))⟩)
  | .insert table assignments => do
    let t ← s.get table
    discard (t.located (.noColumnToInsert table) assignments)
    check
    return (← s.insert table assignments, ⟨0, []⟩)
  | .update table assignments conditions => do
    let t ← s.get table
    discard (t.located .noColumn assignments)
    let probes ← conditions.mapM (·.probe t)
    check
    let (s, n) ← s.update table assignments (Probe.pick t probes)
    return (s, ⟨n, []⟩)
  | .delete table conditions => do
    let t ← s.get table
    let probes ← conditions.mapM (·.probe t)
    check
    let (s, n) ← s.delete table (Probe.pick t probes)
    return (s, ⟨n, []⟩)

/-- Runs a text with values for its question marks. -/
def Request.run (s : Contents) (sql : String) (params : List Json) :
    Except Fault (Contents × Answer) := do
  let source := Source.of sql params
  (← Request.parse source).answer s (source.checkCount params.length)

end TableService.Store
