/-
  Tokens of statements.

  * A `Token` has its text and the number of bytes before it, which faults tell.
  * `tokens` splits a statement; blanks and comments separate tokens.  What is no token is one of
    its own kind, so that it is found where the statement is read.
-/
import TableService.Store.Fault
import TableService.Number.Reading
import TableService.Text.Case

namespace TableService.Store

/-- Kinds of tokens. -/
inductive TokenKind where
  /-- Letters and digits, as written. -/
  | word
  /-- A name in quotes, and the name. -/
  | name (s : String)
  /-- A text in quotes, and the text. -/
  | text (s : String)
  | number
  /-- Bytes in hexadecimal. -/
  | blob (bytes : List UInt8)
  | sign
  /-- No token. -/
  | bad
  deriving DecidableEq, Repr

/-- A piece of a statement. -/
structure Token where
  kind : TokenKind
  text : String
  offset : Nat
  deriving DecidableEq, Repr

namespace Token

/-- The character may stand in a word. -/
def isWordChar (c : Char) : Bool := c.isAlphanum || c = '_' || c = '$' || 0x80 ≤ c.toNat

/-- The character may begin a word. -/
def isWordStart (c : Char) : Bool := c.isAlpha || c = '_' || 0x80 ≤ c.toNat

/-- A blank between tokens. -/
def isBlank (c : Char) : Bool := c = ' ' || c = '\t' || c = '\n' || c = '\x0c' || c = '\r'

/-- The number of characters up to the end of a line. -/
def lineLength (cs : List Char) : Nat := (cs.takeWhile (· ≠ '\n')).length

/-- The number of characters of a comment after its opening, up to its end. -/
def commentLength : List Char → Nat
  | '*' :: '/' :: _ => 2
  | _ :: cs => commentLength cs + 1
  | [] => 0

/-- What stands in quotes after the opening one, a doubled quote standing for one, and the number of
characters with the closing one; none if it is missing. -/
def quotedText (q : Char) : List Char → Option (List Char × Nat)
  | [] => none
  | [c] => if c = q then some ([], 1) else none
  | c :: d :: cs =>
    if c = q then
      if d = q then (quotedText q cs).map fun (s, n) => (q :: s, n + 2) else some ([], 1)
    else (quotedText q (d :: cs)).map fun (s, n) => (c :: s, n + 1)

/-- The number of characters of a number. -/
def numberLength (cs : List Char) : Nat :=
  let digits (l : List Char) : Nat := (l.takeWhile Char.isDigit).length
  match cs with
  | '0' :: 'x' :: rest | '0' :: 'X' :: rest =>
    match (rest.takeWhile fun c => (digitValue? 16 c).isSome).length with
    | 0 => 1
    | n => n + 2
  | _ =>
    let whole := digits cs
    let mantissa := match cs.drop whole with
      | '.' :: rest => whole + 1 + digits rest
      | _ => whole
    match cs.drop mantissa with
    | e :: rest =>
      if e = 'e' ∨ e = 'E' then
        let sign := match rest with
          | '+' :: _ | '-' :: _ => 1
          | _ => 0
        match digits (rest.drop sign) with
        | 0 => mantissa
        | n => mantissa + 1 + sign + n
      else mantissa
    | [] => mantissa

/-- Signs of two characters. -/
def pairs : List (List Char) :=
  ["->", "==", "<=", "<>", "<<", ">=", ">>", "!=", "||"].map String.toList

/-- Signs of one character. -/
def singles : List Char := "-();+*/%=<>|,&~.?".toList

/-- The kind of the token at the front and its number of characters; none for a blank or a
comment, which has a length only. -/
def first (c : Char) (cs : List Char) : Option TokenKind × Nat :=
  let all := cs.length + 1
  if isBlank c then (none, 1)
  else if c = '-' ∧ cs.head? = some '-' then (none, lineLength (c :: cs))
  else if c = '/' ∧ cs.head? = some '*' then (none, 2 + commentLength (cs.drop 1))
  else if c = '\'' then
    match quotedText c cs with
    | some (s, n) => (some (.text (String.ofList s)), n + 1)
    | none => (some .bad, all)
  else if c = '"' ∨ c = Char.ofNat 0x60 then
    match quotedText c cs with
    | some (s, n) => (some (.name (String.ofList s)), n + 1)
    | none => (some .bad, all)
  else if c = '[' then
    let s := cs.takeWhile (· ≠ ']')
    if s.length < cs.length then (some (.name (String.ofList s)), s.length + 2) else (some .bad, all)
  else if (c = 'x' ∨ c = 'X') ∧ cs.head? = some '\'' then
    let digits := (cs.drop 1).takeWhile fun d => (digitValue? 16 d).isSome
    match bytesOfHexadecimal? digits, (cs.drop (digits.length + 1)).head? with
    | some bytes, some '\'' => (some (.blob bytes), digits.length + 3)
    | _, _ => (some .bad, ((cs.drop 1).takeWhile (· ≠ '\'')).length + 3)
  else if isWordStart c then (some .word, (cs.takeWhile isWordChar).length + 1)
  else if c.isDigit ∨ (c = '.' ∧ cs.head?.any Char.isDigit) then
    let n := numberLength (c :: cs)
    match ((c :: cs).drop n).takeWhile isWordChar with
    | [] => (some .number, n)
    | rest => (some .bad, n + rest.length)
  else if pairs.any fun p => p == c :: cs.take 1 then (some .sign, 2)
  else if singles.contains c then (some .sign, 1)
  else (some .bad, 1)

/-- The tokens of a text that follows `offset` bytes, once `skip` characters have been passed over. -/
def scan (offset skip : Nat) : List Char → List Token
  | [] => []
  | c :: cs =>
    let rest (n : Nat) := scan (offset + c.utf8Size) n cs
    match skip with
    | n + 1 => rest n
    | 0 =>
      match first c cs with
      | (some kind, n) => ⟨kind, String.ofList (c :: cs.take (n - 1)), offset⟩ :: rest (n - 1)
      | (none, n) => rest (n - 1)

/-- The token is a word, whatever its case. -/
def isWord (t : Token) (lower : String) : Bool :=
  t.kind == .word && Text.lowerAscii t.text == lower

/-- The token is a sign. -/
def isSign (t : Token) (sign : String) : Bool := t.kind == .sign && t.text == sign

/-- Words that are no names without quotes. -/
def reserved : List String :=
  ["add", "all", "alter", "and", "as", "autoincrement", "between", "case", "check", "collate",
    "commit", "constraint", "create", "default", "deferrable", "delete", "distinct", "drop", "else",
    "escape", "except", "exists", "foreign", "from", "group", "having", "in", "index", "insert",
    "intersect", "into", "is", "isnull", "join", "limit", "not", "nothing", "notnull", "null", "on",
    "or", "order", "primary", "references", "returning", "select", "set", "table", "then", "to",
    "transaction", "union", "unique", "update", "using", "values", "when", "where"]

/-- Words that are names, but not words of a type. -/
def joinWords : List String :=
  ["cross", "full", "indexed", "inner", "left", "natural", "outer", "right"]

/-- The name that a token is. -/
def name? (t : Token) : Option String :=
  match t.kind with
  | .name s | .text s => some s
  | .word => if reserved.contains (Text.lowerAscii t.text) then none else some t.text
  | _ => none

/-- The token may be part of a type. -/
def isTypeWord (t : Token) : Bool :=
  t.name?.isSome && !(t.kind == .word && joinWords.contains (Text.lowerAscii t.text))

/-- The fault of a token where it stands. -/
def fault (t : Token) (sql : String) : Fault :=
  let m : Misfit := ⟨t.text, sql, t.offset⟩
  if t.kind = .bad then .badToken m else .syntaxError m

end Token

/-- The tokens of a statement, which ends before a NUL. -/
def tokens (sql : String) : List Token := Token.scan 0 0 (sql.toList.takeWhile (· ≠ '\x00'))

end TableService.Store
