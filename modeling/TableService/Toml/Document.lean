/-
  TOML documents.

  * `key?` reads a dotted key, `value?` a value.
  * `Entries.parse?` reads a document: its keys, in the order in which they were first mentioned.
-/
import TableService.Toml.Item

namespace TableService.Toml

/-! ## Blanks and comments -/

theorem length_dropWhile_le {α : Type} (p : α → Bool) (l : List α) :
    (l.dropWhile p).length ≤ l.length :=
  (List.dropWhile_suffix p).length_le

/-- What follows blanks, line ends and comments. -/
def skipLines : List Char → List Char
  | '\n' :: cs => skipLines cs
  | '\r' :: '\n' :: cs => skipLines cs
  | ' ' :: cs => skipLines cs
  | '\t' :: cs => skipLines cs
  | '#' :: cs => skipLines (cs.dropWhile (!isControl ·))
  | cs => cs
termination_by cs => cs.length
decreasing_by
  all_goals simp only [List.length_cons]
  all_goals first | omega | exact Nat.lt_succ_of_le (length_dropWhile_le _ cs)

/-- What follows blanks in a line. -/
def skipBlanks (cs : List Char) : List Char := cs.dropWhile isBlank

/-- What follows the end of a line, which may have a comment. -/
def lineRest? (cs : List Char) : Option (List Char) :=
  let rest := match skipBlanks cs with
    | '#' :: comment => comment.dropWhile (!isControl ·)
    | rest => rest
  if rest.isEmpty then some [] else lineEnd? rest

/-! ## Keys -/

/-- A character of a key without quotes. -/
def isKeyChar (c : Char) : Bool := c.isAlphanum || c = '_' || c = '-'

/-- Reads one part of a key. -/
def keyPart? : List Char → Option (String × List Char)
  | [] => none
  | c :: cs =>
    if c = '"' ∨ c = '\'' then (lineString? c cs).map fun (s, rest) => (String.ofList s, rest)
    else if isKeyChar c then
      let word := (c :: cs).takeWhile isKeyChar
      some (String.ofList word, (c :: cs).drop word.length)
    else none

/-- Reads a dotted key and the blanks after it. -/
def key? (cs : List Char) : Option (Path × List Char) := do
  let (part, rest) ← keyPart? (skipBlanks cs)
  match skipBlanks rest with
  | '.' :: rest =>
    if rest.length < cs.length then
      let (more, rest) ← key? rest
      return (⟨part, more.first :: more.more⟩, rest)
    else none
  | rest => return (⟨part, []⟩, rest)
termination_by cs.length

/-! ## Values -/

/-- Reads a value from the front of a text. -/
abbrev ValueReader := List Char → Option (Item × List Char)

/-- A character of a value without quotes or brackets. -/
def isWordChar (c : Char) : Bool :=
  c.isAlphanum || c = '+' || c = '-' || c = '.' || c = '_' || c = ':'

/-- Reads a scalar; a time may follow a date after a blank. -/
def scalar? (cs : List Char) : Option (Scalar × List Char) :=
  let word := cs.takeWhile isWordChar
  let rest := cs.drop word.length
  match rest with
  | c :: d :: more =>
    if c = ' ' && d.isDigit && (date.whole word).isSome then
      let time := (d :: more).takeWhile isWordChar
      (scalarOf? (word ++ ' ' :: time)).map fun s => (s, (d :: more).drop time.length)
    else if word.isEmpty && (c = '"' || c = '\'') then
      (string? rest).map fun (s, after) => (.text s, after)
    else (scalarOf? word).map fun s => (s, rest)
  | _ => (scalarOf? word).map fun s => (s, rest)

/-- Reads the items of a list up to its bracket; a comma may follow the last one. -/
def items? (read : ValueReader) (cs : List Char) : Option (List Item × List Char) :=
  match skipLines cs with
  | ']' :: rest => some ([], rest)
  | start => do
    let (v, rest) ← read start
    match skipLines rest with
    | ']' :: rest => return ([v], rest)
    | ',' :: rest =>
      if rest.length < cs.length then
        let (vs, rest) ← items? read rest
        return (v :: vs, rest)
      else none
    | _ => none
termination_by cs.length

/-- Reads the keys and values of a table in braces, which is on one line. -/
def inlineEntries? (read : ValueReader) (es : Entries) (cs : List Char) :
    Option (Entries × List Char) := do
  let (key, rest) ← key? cs
  match rest with
  | '=' :: rest =>
    let (v, rest) ← read (skipBlanks rest)
    let es ← es.assign? v key.first key.more
    match skipBlanks rest with
    | '\x7d' :: rest => return (es, rest)
    | ',' :: rest => if rest.length < cs.length then inlineEntries? read es rest else none
    | _ => none
  | _ => none
termination_by cs.length

/-- Reads a value, with so many lists and tables in one another. -/
def value? : Nat → ValueReader
  | depth, '[' :: cs =>
    match depth with
    | 0 => none
    | depth + 1 => (items? (value? depth) cs).map fun (vs, rest) => (.list vs, rest)
  | depth, '\x7b' :: cs =>
    match depth with
    | 0 => none
    | depth + 1 =>
      match skipBlanks cs with
      | '\x7d' :: rest => some (.inline [], rest)
      | cs => (inlineEntries? (value? depth) [] cs).map fun (es, rest) => (.inline es, rest)
  | _, cs => (scalar? cs).map fun (s, rest) => (.scalar s, rest)

/-- How many lists and tables may be in one another. -/
def maxNesting : Nat := 79

/-! ## Documents -/

namespace Entries

/-- Reads one line that is a header or a key with its value, given the header above it. -/
def line? (header : List String) (es : Entries) :
    List Char → Option ((List String × Entries) × List Char)
  | '[' :: '[' :: cs => do
    let (path, rest) ← key? cs
    match rest with
    | ']' :: ']' :: rest =>
      return ((path.first :: path.more, ← es.openElement? path), ← lineRest? rest)
    | _ => none
  | '[' :: cs => do
    let (path, rest) ← key? cs
    match rest with
    | ']' :: rest => return ((path.first :: path.more, ← es.openTable? path), ← lineRest? rest)
    | _ => none
  | cs => do
    let (key, rest) ← key? cs
    match rest with
    | '=' :: rest =>
      let (v, rest) ← value? maxNesting (skipBlanks rest)
      return ((header, ← es.assignIn? header key v), ← lineRest? rest)
    | _ => none

/-- Reads lines below a header. -/
def lines? (header : List String) (es : Entries) (cs : List Char) : Option Entries :=
  match skipLines cs with
  | [] => some es
  | start =>
    match es.line? header start with
    | some ((header, es), rest) =>
      if rest.length < cs.length then es.lines? header rest else none
    | none => none
termination_by cs.length

/-- The entries of a document. -/
def parse? (text : String) : Option Entries := lines? [] [] text.toList

end Entries

end TableService.Toml
