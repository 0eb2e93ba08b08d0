/-
  The scalars of a YAML text: plain, quoted, and in blocks of lines.

  Inside a plain or quoted scalar, a single end of a line with the blanks around it is a space, and
  of several ends of lines the first is dropped (`folded`).

  * `plain?`, `quoted?` and `block?` read a scalar at a position; none where it is malformed.
-/
import TableService.Json.Source
import TableService.Yaml.Cursor

namespace TableService.Yaml

/-! ## Line folding -/

/-- A tab among blanks at a column below the indentation. -/
def tabBelow (indent column : Nat) (blanks : List Char) : Bool :=
  (blanks.take (indent - column)).contains '\t'

/-- The ends of lines at a position, each with the blanks after it, and the position behind; none
if a tab stands where a line is not indented enough. -/
def breaks (indent : Nat) (c : Cursor) : Option (List Char × Cursor) :=
  match _h : c.break? with
  | none => some ([], c)
  | some (b, d) =>
    if tabBelow indent d.column (d.span isBlank).1 then none
    else (breaks indent (d.span isBlank).2).map fun (bs, e) => (b :: bs, e)
termination_by c.rest.length
decreasing_by
  have := Cursor.break?_shorter _h
  simp only [Cursor.span, Cursor.skip, List.length_drop]
  omega

/-- What stands for the ends of lines between two parts of a scalar. -/
def folded : List Char → List Char
  | ['\n'] => [' ']
  | '\n' :: more => more
  | bs => bs

/-- Blanks and ends of lines between two parts of a scalar. -/
structure Spacing where
  /-- What stands for them in the scalar. -/
  text : List Char
  /-- A line ends among them. -/
  newLine : Bool
  next : Cursor

/-- The blanks and ends of lines at a position. -/
def spacing (indent : Nat) (c : Cursor) : Option Spacing := do
  let (blanks, d) := c.span isBlank
  let (bs, e) ← breaks indent d
  return if bs.isEmpty then ⟨blanks, false, d⟩ else ⟨folded bs, true, e⟩

/-! ## Plain scalars -/

/-- Characters that delimit the parts of a flow collection. -/
def isFlowIndicator (c : Char) : Bool :=
  c = ',' || c = '[' || c = ']' || c = '\x7b' || c = '\x7d'

/-- The characters of a plain scalar up to a blank or an indicator that ends it. -/
def plainChunk (flow : Bool) : List Char → Option (List Char)
  | [] => some []
  | c :: cs =>
    if isBlank c || isBreak c then some []
    else if flow && c == ':' && (cs.head?.any fun d => isFlowIndicator d || d == '?') then none
    else if c == ':' && blankOrEnd cs then some []
    else if flow && isFlowIndicator c then some []
    else (plainChunk flow cs).map (c :: ·)

/-- A scalar with the position after it. -/
structure Scanned where
  text : List Char
  /-- The scalar is followed by the start of a line. -/
  newLine : Bool
  next : Cursor

/-- Goes on with a plain scalar; `space` stands between what has been read and what follows. -/
def plainFrom (flow : Bool) (indent : Nat) (text : List Char) (space : Spacing) :
    Option Scanned := do
  let c := space.next
  let ended : Scanned := ⟨text, space.newLine, c⟩
  if c.atDocumentMarker || c.rest.head? == some '#' then return ended
  let chunk ← plainChunk flow c.rest
  if chunk.isEmpty then return ended
  let text := text ++ space.text ++ chunk
  let d := c.skip chunk.length
  if d.rest.head?.any fun x => isBlank x || isBreak x then
    let next ← spacing indent d
    if !flow && next.next.column < indent then return ⟨text, next.newLine, next.next⟩
    else if next.next.rest.length < c.rest.length then plainFrom flow indent text next
    else none
  else return ⟨text, false, d⟩
termination_by space.next.rest.length

/-- A plain scalar; its lines are indented by `indent` at least. -/
def plain? (flow : Bool) (indent : Nat) (c : Cursor) : Option Scanned :=
  plainFrom flow indent [] ⟨[], false, c⟩

/-! ## Quoted scalars -/

/-- The character of a one-letter escape. -/
def escape? (c : Char) : Option Char :=
  match c with
  | '0' => some (Char.ofNat 0)
  | 'a' => some (Char.ofNat 7)
  | 'b' => some (Char.ofNat 8)
  | 't' | '\t' => some '\t'
  | 'n' => some '\n'
  | 'v' => some (Char.ofNat 0xB)
  | 'f' => some (Char.ofNat 0xC)
  | 'r' => some '\r'
  | 'e' => some (Char.ofNat 0x1B)
  | ' ' => some ' '
  | '"' => some '"'
  | '/' => some '/'
  | '\\' => some '\\'
  | 'N' => some (Char.ofNat 0x85)
  | '_' => some (Char.ofNat 0xA0)
  | 'L' => some (Char.ofNat 0x2028)
  | 'P' => some (Char.ofNat 0x2029)
  | _ => none

/-- The number of hexadecimal digits after an escape letter. -/
def escapeDigits? (c : Char) : Option Nat :=
  match c with
  | 'x' => some 2
  | 'u' => some 4
  | 'U' => some 8
  | _ => none

/-- The character with a code in hexadecimal. -/
def coded? (digits : List Char) : Option Char := do
  let n ← wholeOf 16 digits
  if n.isValidChar then some (Char.ofNat n) else none

/-- A step inside a quoted scalar: some text, or the closing quote. -/
def quotedStep (quote : Char) (c : Cursor) : Option (Option (List Char) × Cursor) :=
  if c.atDocumentMarker then none
  else match c.rest with
    | [] => none
    | '\\' :: cs =>
      if quote = '"' then
        match (c.skip 1).break?, cs with
        | some (_, d), _ => do
          -- an escaped end of a line stands for nothing
          let (bs, e) ← breaks 0 (d.span isBlank).2
          return (some bs, e)
        | none, x :: more =>
          match escape? x, escapeDigits? x with
          | some e, _ => some (some [e], c.skip 2)
          | none, some n => do
            let digits := more.take n
            if digits.length < n then none
            return (some [← coded? digits], c.skip (2 + n))
          | none, none => none
        | none, [] => none
      else some (some ['\\'], c.skip 1)
    | x :: cs =>
      if x = quote then
        if quote = '\'' ∧ cs.head? = some '\'' then some (some ['\''], c.skip 2)
        else some (none, c.skip 1)
      else if isBlank x || isBreak x then do
        let s ← spacing 0 c
        return (some s.text, s.next)
      else some (some [x], c.skip 1)

/-- The rest of a quoted scalar. -/
def quotedFrom (quote : Char) (text : List Char) (c : Cursor) : Option Scanned :=
  match quotedStep quote c with
  | none => none
  | some (none, d) => some ⟨text.reverse, false, d⟩
  | some (some part, d) =>
    if d.rest.length < c.rest.length then quotedFrom quote (part.reverse ++ text) d else none
termination_by c.rest.length

/-- A scalar between quotes. -/
def quoted? (quote : Char) (c : Cursor) : Option Scanned := quotedFrom quote [] (c.skip 1)

/-! ## Block scalars -/

/-- What happens to the ends of lines at the end of a block scalar. -/
inductive Chomping where
  | strip
  | clip
  | keep

/-- The indicators of a block scalar: its chomping, and how much further it is indented. -/
def blockHeader (c : Cursor) : Option (Chomping × Option Nat × Cursor) :=
  let chomping? : Char → Option Chomping
    | '+' => some .keep
    | '-' => some .strip
    | _ => none
  let digit? (x : Char) : Option Nat :=
    if '1' ≤ x ∧ x ≤ '9' then some (x.toNat - 48) else none
  match c.rest with
  | [] => some (.clip, none, c)
  | x :: cs =>
    match chomping? x with
    | some chomping =>
      match cs with
      | y :: _ =>
        if y = '0' then none
        else match digit? y with
          | some n => some (chomping, some n, c.skip 2)
          | none => some (chomping, none, c.skip 1)
      | [] => some (chomping, none, c.skip 1)
    | none =>
      if x = '0' then none
      else match digit? x with
        | some n =>
          match cs.head?.bind chomping? with
          | some chomping => some (chomping, some n, c.skip 2)
          | none => some (.clip, some n, c.skip 1)
        | none => some (.clip, none, c)

/-- The empty lines of a block scalar at a position, the greatest indentation met, and the
position behind.  Without a known indentation all spaces of a line count. -/
def blockBreaks (indent : Option Nat) (widest : Nat) (c : Cursor) :
    Option (List Char × Nat × Cursor) :=
  let spaces := c.rest.takeWhile (· = ' ')
  let d := c.skip (match indent with
    | none => spaces.length
    | some n => min spaces.length (n - c.column))
  let widest := max widest d.column
  let inIndent : Bool := match indent with
    | none => true
    | some n => d.column < n
  if inIndent && d.rest.head? == some '\t' then none
  else match _h : d.break? with
    | none => some ([], widest, d)
    | some (b, e) =>
      (blockBreaks indent widest e).map fun (bs, w, f) => (b :: bs, w, f)
termination_by c.rest.length
decreasing_by
  have := Cursor.break?_shorter _h
  simp only [d, Cursor.skip, List.length_drop] at this
  omega

/-- The lines of a block scalar from a position on.  `text` has been read; `last` is the end of the
line before, `empty` the empty lines after it. -/
def blockLines (literal : Bool) (indent : Nat) (text last empty : List Char) (blankBefore : Bool)
    (c : Cursor) : Option (List Char × List Char × List Char × Cursor) :=
  if c.column = indent && !c.rest.isEmpty then
    let blankNow := c.rest.head?.any isBlank
    let join :=
      if !literal && last == ['\n'] && !blankBefore && !blankNow then
        if empty.isEmpty then [' '] else empty
      else last ++ empty
    let (line, d) := c.span fun x => !isBreak x
    let text := text ++ join ++ line
    let (last, e) := match d.break? with
      | some (b, e) => ([b], e)
      | none => ([], d)
    match blockBreaks (some indent) 0 e with
    | none => none
    | some (empty, _, f) =>
      if f.rest.length < c.rest.length then blockLines literal indent text last empty blankNow f
      else none
  else some (text, last, empty, c)
termination_by c.rest.length

/-- A block scalar inside a node that is indented by `parent`. -/
def block? (literal : Bool) (parent : Int) (c : Cursor) : Option Scanned := do
  let (chomping, further, d) ← blockHeader (c.skip 1)
  let (_, d) := d.span isBlank
  let (_, d) := if d.rest.head? = some '#' then d.span fun x => !isBreak x else ([], d)
  if !breakOrEnd d.rest then none
  let d := (d.break?.map Prod.snd).getD d
  let known : Option Nat := further.map fun n => (if 0 ≤ parent then parent.toNat + n else n)
  let (empty, widest, d) ← blockBreaks known 0 d
  let indent := known.getD (max widest (max (parent + 1).toNat 1))
  let (text, last, empty, d) ← blockLines literal indent [] [] empty false d
  let ending := match chomping with
    | .strip => []
    | .clip => last
    | .keep => last ++ empty
  return ⟨text ++ ending, true, d⟩

end TableService.Yaml
