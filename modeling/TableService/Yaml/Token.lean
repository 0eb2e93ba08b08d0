/-
  The tokens of a YAML text.

  Indentation is turned into tokens: a block collection starts where a column is reached that is
  further right than the current indentation, and ends where a column to its left comes.  A key
  without a mark of its own is recognised by the colon after it, so its tokens are put in front of
  what has been read already.

  * `tokens?` gives the tokens of a text; none where it is malformed.
-/
import TableService.Yaml.Scalar

namespace TableService.Yaml

/-- A token. -/
inductive Token where
  | yamlDirective (major minor : Nat)
  | tagDirective (handle uri : String)
  | documentStart
  | documentEnd
  | blockSequence
  | blockMapping
  | blockEnd
  | flowSequence
  | flowSequenceEnd
  | flowMapping
  | flowMappingEnd
  | blockEntry
  | flowEntry
  | key
  | value
  | alias (name : String)
  | anchor (name : String)
  | tag (handle suffix : String)
  | scalar (text : String) (plain : Bool)
  deriving DecidableEq

/-- Where a key may turn out to begin. -/
structure Candidate where
  /-- It must be a key, for it stands at the indentation of a block mapping. -/
  required : Bool
  /-- The number of tokens before it. -/
  position : Nat
  line : Nat
  column : Nat
  index : Nat

/-- A key and its colon are on one line and at most this many characters apart. -/
def maxKeyLength : Nat := 1024

/-- What has been read of a text. -/
structure Scan where
  cursor : Cursor
  tokens : Array Token
  /-- The current indentation, `-1` outside any block collection. -/
  indent : Int
  indents : List Int
  /-- The candidate of the current level, and those of the flow collections around it. -/
  candidate : Option Candidate
  outer : List (Option Candidate)
  /-- A key without a mark may begin here. -/
  keyAllowed : Bool

namespace Scan

/-- The start of a text. -/
def start (cs : List Char) : Scan := ⟨.start cs, #[], -1, [], none, [], true⟩

/-- Inside a flow collection. -/
def inFlow (s : Scan) : Bool := !s.outer.isEmpty

/-- Adds a token. -/
def add (s : Scan) (t : Token) : Scan := { s with tokens := s.tokens.push t }

/-- Puts a token behind the first `n`. -/
def insertAt (s : Scan) (n : Nat) (t : Token) : Scan :=
  { s with tokens := (s.tokens.take n).push t ++ s.tokens.drop n }

/-- The position after `n` characters. -/
def skip (s : Scan) (n : Nat) : Scan := { s with cursor := s.cursor.skip n }

/-- Whether a key may begin next. -/
def allowKey (s : Scan) (b : Bool) : Scan := { s with keyAllowed := b }

/-- Gives the candidate up; none if it must be a key. -/
def dropCandidate (s : Scan) : Option Scan :=
  match s.candidate with
  | some k => if k.required then none else some { s with candidate := none }
  | none => some s

/-- Gives the candidate up if its colon can no longer come. -/
def dropStale (s : Scan) : Option Scan :=
  match s.candidate with
  | some k =>
    if k.line < s.cursor.line || k.index + maxKeyLength < s.cursor.index then s.dropCandidate
    else some s
  | none => some s

/-- Makes the position a candidate if a key may begin there. -/
def propose (s : Scan) : Option Scan :=
  let c := s.cursor
  let here : Candidate :=
    ⟨!s.inFlow && s.indent == c.column, s.tokens.size, c.line, c.column, c.index⟩
  if s.keyAllowed then s.dropCandidate.map fun s => { s with candidate := some here } else some s

/-- Starts a block collection behind the first `n` tokens if the column is further right than the
indentation. -/
def openBlock (s : Scan) (column n : Nat) (t : Token) : Scan :=
  if !s.inFlow && s.indent < column then
    { s with indent := column, indents := s.indent :: s.indents }.insertAt n t
  else s

/-- Ends the block collections that are indented further than a column; `outer` are the
indentations around the current one. -/
def closeBlocks (column : Int) (indent : Int) : List Int → Array Token → Int × List Int × Array Token
  | [], tokens => (indent, [], tokens)
  | i :: outer, tokens =>
    if column < indent then closeBlocks column i outer (tokens.push .blockEnd)
    else (indent, i :: outer, tokens)

/-- Ends the block collections that are indented further than a column. -/
def unindent (s : Scan) (column : Int) : Scan :=
  if s.inFlow then s
  else
    let (indent, indents, tokens) := closeBlocks column s.indent s.indents s.tokens
    { s with indent := indent, indents := indents, tokens := tokens }

/-- Ends all block collections before a marker or the end of the text. -/
def endBlocks (s : Scan) : Option Scan :=
  ((s.unindent (-1)).dropCandidate).map (·.allowKey false)

/-! ## Between tokens -/

/-- Goes to the next token: over blanks, comments and ends of lines.  A tab may not stand where a
line could begin a block collection. -/
def toNext (s : Scan) : Scan :=
  let c := s.cursor
  let (_, c) := c.span fun x => x = ' ' || (x = '\t' && (s.inFlow || !s.keyAllowed))
  let (_, c) := if c.rest.head? = some '#' then c.span fun x => !isBreak x else ([], c)
  match c.break? with
  | some (_, d) =>
    if d.rest.length < s.cursor.rest.length then
      toNext { s with cursor := d, keyAllowed := s.keyAllowed || !s.inFlow }
    else { s with cursor := c }
  | none => { s with cursor := c }
termination_by s.cursor.rest.length

/-! ## Names, tags and directives -/

/-- A letter or digit of ASCII, a hyphen or an underscore. -/
def isWordChar (c : Char) : Bool := c.isAlphanum || c = '-' || c = '_'

/-- The name after an ampersand or an asterisk. -/
def anchorName? (c : Cursor) : Option (String × Cursor) :=
  let (name, d) := (c.skip 1).span isWordChar
  let closed := blankOrEnd d.rest || (d.rest.head?.any fun x => "?:,]\x7d%@`".toList.contains x)
  if name.isEmpty || !closed then none else some (String.ofList name, d)

/-- A character of a tag, apart from escapes. -/
def isTagChar (verbatim : Bool) (c : Char) : Bool :=
  isWordChar c || ";/?:@&=+$.!~*'()".toList.contains c ||
    (verbatim && ",[]".toList.contains c)

/-- The bytes of a tag at the front of a text, and the number of characters they take. -/
def tagBytes (verbatim : Bool) : List Char → Option (List UInt8 × Nat)
  | '%' :: a :: b :: cs => do
    let byte ← byteOfHexadecimal? a b
    let (bytes, n) ← tagBytes verbatim cs
    return (byte :: bytes, n + 3)
  | '%' :: _ => none
  | c :: cs =>
    if isTagChar verbatim c then
      (tagBytes verbatim cs).map fun (bytes, n) => (c.toNat.toUInt8 :: bytes, n + 1)
    else some ([], 0)
  | [] => some ([], 0)

/-- A part of a tag and the position after it. -/
def tagText? (verbatim : Bool) (c : Cursor) : Option (String × Cursor) := do
  let (bytes, n) ← tagBytes verbatim c.rest
  let s ← String.fromUTF8? ⟨bytes.toArray⟩
  return (s, c.skip n)

/-- A tag handle: an exclamation mark, or a word between two of them; of what follows a single
mark the word is returned as well. -/
def tagHandle? (c : Cursor) : Option (String × Cursor) :=
  match c.rest with
  | '!' :: _ =>
    let (word, d) := (c.skip 1).span isWordChar
    if d.rest.head? = some '!' then some (String.ofList ('!' :: word ++ ['!']), d.skip 1)
    else some (String.ofList ('!' :: word), d)
  | _ => none

/-- A tag at a position. -/
def tag? (flow : Bool) (c : Cursor) : Option (Token × Cursor) := do
  let (t, d) ← (do
    if (c.rest.drop 1).head? = some '<' then
      let (uri, d) ← tagText? true (c.skip 2)
      if uri.isEmpty || d.rest.head? ≠ some '>' then none
      return (Token.tag "" uri, d.skip 1)
    else
      let (handle, d) ← tagHandle? c
      if 1 < handle.length && handle.endsWith "!" then
        let (suffix, e) ← tagText? false d
        if suffix.isEmpty then none
        return (Token.tag handle suffix, e)
      else
        let (more, e) ← tagText? false d
        let suffix := String.ofList (handle.toList.drop 1) ++ more
        return (if suffix.isEmpty then Token.tag "" "!" else Token.tag "!" suffix, e))
  if blankOrEnd d.rest || (flow && d.rest.head? = some ',') then return (t, d) else none

/-- A number of a directive, of at most nine digits. -/
def versionNumber? (c : Cursor) : Option (Nat × Cursor) :=
  let (ds, d) := c.span Char.isDigit
  if ds.isEmpty || 9 < ds.length then none else some (digitsValue ds, d)

/-- A directive at a position. -/
def directive? (c : Cursor) : Option (Token × Cursor) := do
  let (name, d) := (c.skip 1).span isWordChar
  if !blankOrEnd d.rest then none
  let (_, e) := d.span isBlank
  let (t, e) ← (do
    if String.ofList name = "YAML" then
      let (major, e) ← versionNumber? e
      if e.rest.head? ≠ some '.' then none
      let (minor, e) ← versionNumber? (e.skip 1)
      return (Token.yamlDirective major minor, e)
    else if String.ofList name = "TAG" then
      let (handle, e) ← tagHandle? e
      if handle ≠ "!" && !(1 < handle.length && handle.endsWith "!") then none
      let (blanks, e) := e.span isBlank
      if blanks.isEmpty then none
      let (uri, e) ← tagText? true e
      if uri.isEmpty || !blankOrEnd e.rest then none
      return (Token.tagDirective handle uri, e)
    else none)
  let (_, e) := e.span isBlank
  let (_, e) := if e.rest.head? = some '#' then e.span fun x => !isBreak x else ([], e)
  if breakOrEnd e.rest then return (t, (e.break?.map Prod.snd).getD e) else none

/-! ## One token -/

/-- A mark of one character that opens a flow collection. -/
def openFlow (s : Scan) (t : Token) : Option Scan :=
  s.propose.map fun s =>
    { (s.skip 1).add t with outer := s.candidate :: s.outer, candidate := none, keyAllowed := true }

/-- A mark of one character that closes a flow collection. -/
def closeFlow (s : Scan) (t : Token) : Option Scan :=
  s.dropCandidate.map fun s =>
    let s := match s.outer with
      | k :: outer => { s with candidate := k, outer := outer }
      | [] => s
    ((s.skip 1).add t).allowKey false

/-- The mark of an item of a block sequence. -/
def blockEntry (s : Scan) : Option Scan :=
  if !s.inFlow && !s.keyAllowed then none
  else
    (s.openBlock s.cursor.column s.tokens.size .blockSequence).dropCandidate.map fun s =>
      ((s.skip 1).add .blockEntry).allowKey true

/-- The mark of a key. -/
def keyMark (s : Scan) : Option Scan :=
  if !s.inFlow && !s.keyAllowed then none
  else
    (s.openBlock s.cursor.column s.tokens.size .blockMapping).dropCandidate.map fun s =>
      ((s.skip 1).add .key).allowKey !s.inFlow

/-- The mark of a value, which may turn a candidate into a key. -/
def valueMark (s : Scan) : Option Scan := do
  let s ← s.dropStale
  match s.candidate with
  | some k =>
    let s := (s.insertAt k.position .key).openBlock k.column k.position .blockMapping
    return (({ s with candidate := none }.skip 1).add .value).allowKey false
  | none =>
    if !s.inFlow && !s.keyAllowed then none
    let s := s.openBlock s.cursor.column s.tokens.size .blockMapping
    return ((s.skip 1).add .value).allowKey !s.inFlow

/-- A scalar that may be a key. -/
def scalarToken (s : Scan) (plain : Bool) (read : Cursor → Option Scanned) : Option Scan := do
  let s ← s.propose
  let r ← read s.cursor
  return { s.add (.scalar (String.ofList r.text) plain) with
    cursor := r.next, keyAllowed := plain && r.newLine }

/-- An anchor, alias or tag, which may begin a key. -/
def property (s : Scan) (read : Cursor → Option (Token × Cursor)) : Option Scan := do
  let s ← s.propose
  let (t, c) ← read s.cursor
  return { s.add t with cursor := c, keyAllowed := false }

/-- A scalar in a block of lines. -/
def blockScalar (s : Scan) (literal : Bool) : Option Scan := do
  let s ← s.dropCandidate
  let r ← block? literal s.indent s.cursor
  return { s.add (.scalar (String.ofList r.text) false) with cursor := r.next, keyAllowed := true }

/-- Characters that cannot begin a plain scalar by themselves. -/
def isIndicator (c : Char) : Bool := "-?:,[]\x7b\x7d#&*!|>'\"%@`".toList.contains c

/-- The token at a position where a text goes on. -/
def fetch (s : Scan) (c : Char) (cs : List Char) : Option Scan :=
  let flow := s.inFlow
  if c = '%' ∧ s.cursor.column = 0 then do
    let s ← s.endBlocks
    let (t, d) ← directive? s.cursor
    return { s.add t with cursor := d }
  else if s.cursor.atMarker '-' then
    s.endBlocks.map fun s => (s.skip 3).add .documentStart
  else if s.cursor.atMarker '.' then
    s.endBlocks.map fun s => (s.skip 3).add .documentEnd
  else if c = '[' then s.openFlow .flowSequence
  else if c = '\x7b' then s.openFlow .flowMapping
  else if c = ']' then s.closeFlow .flowSequenceEnd
  else if c = '\x7d' then s.closeFlow .flowMappingEnd
  else if c = ',' then
    s.dropCandidate.map fun s => ((s.skip 1).add .flowEntry).allowKey true
  else if c = '-' ∧ blankOrEnd cs then s.blockEntry
  else if c = '?' ∧ (flow ∨ blankOrEnd cs) then s.keyMark
  else if c = ':' ∧ (flow ∨ blankOrEnd cs) then s.valueMark
  else if c = '*' then
    s.property fun d => (anchorName? d).map fun (name, e) => (.alias name, e)
  else if c = '&' then
    s.property fun d => (anchorName? d).map fun (name, e) => (.anchor name, e)
  else if c = '!' then s.property (tag? flow)
  else if c = '|' ∧ !flow then s.blockScalar true
  else if c = '>' ∧ !flow then s.blockScalar false
  else if c = '\'' ∨ c = '"' then s.scalarToken false (quoted? c)
  else if (!isIndicator c && !isBlank c) || (c == '-' && !cs.head?.any isBlank) ||
      (!flow && (c == '?' || c == ':') && !blankOrEnd cs) then
    s.scalarToken true (plain? flow (s.indent + 1).toNat)
  else none

/-- The end of the text. -/
def finish (s : Scan) : Option (List Token) :=
  let s := if s.cursor.column = 0 then s else { s with cursor := s.cursor.newLine 0 }
  s.endBlocks.map (·.tokens.toList)

/-- The tokens from a position on. -/
def run (s : Scan) : Option (List Token) := do
  let t ← s.toNext.dropStale
  let t := t.unindent t.cursor.column
  match t.cursor.rest with
  | [] => t.finish
  | c :: cs =>
    let u ← t.fetch c cs
    if u.cursor.rest.length < s.cursor.rest.length then run u else none
termination_by s.cursor.rest.length

end Scan

/-- The tokens of a text; a byte order mark in front is skipped. -/
def tokens? (text : String) : Option (List Token) :=
  let cs := match text.toList with
    | c :: rest => if c.toNat = 0xFEFF then rest else c :: rest
    | [] => []
  if cs.all isAllowed then (Scan.start cs).run else none

end TableService.Yaml
