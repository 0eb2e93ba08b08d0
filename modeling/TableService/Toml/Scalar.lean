/-
  The scalars of TOML.

  * `string?` reads a string in any of its four forms from the front of a text.
  * `scalarOf?` reads a word that is no string: a truth value, a number, or a date or time, which
    is written in its normal form.
-/
import TableService.Calendar.Reading
import TableService.Number.Reading

namespace TableService.Toml

/-- A scalar. -/
inductive Scalar where
  | bool (b : Bool)
  | int (i : Int)
  | float (x : Double)
  | text (s : String)
  deriving DecidableEq

/-! ## Strings -/

/-- A blank within a line. -/
def isBlank (c : Char) : Bool := c = ' ' || c = '\t'

/-- A character that has to be escaped. -/
def isControl (c : Char) : Bool := (c.toNat < 0x20 && c ≠ '\t') || c.toNat = 0x7F

/-- A line end at the front of a text, and what follows it. -/
def lineEnd? : List Char → Option (List Char)
  | '\n' :: cs => some cs
  | '\r' :: '\n' :: cs => some cs
  | _ => none

/-- The character of a short escape. -/
def shortEscape? (c : Char) : Option Char :=
  match c with
  | 'b' => some (Char.ofNat 8)
  | 't' => some '\t'
  | 'n' => some '\n'
  | 'f' => some (Char.ofNat 12)
  | 'r' => some '\r'
  | '"' => some '"'
  | '\\' => some '\\'
  | _ => none

/-- The character after a backslash, and how many characters it takes. -/
def escape? : List Char → Option (Char × Nat)
  | 'u' :: cs => coded? 4 cs
  | 'U' :: cs => coded? 8 cs
  | c :: _ => (shortEscape? c).map fun d => (d, 1)
  | [] => none
where
  /-- The character with a code in hexadecimal. -/
  coded? (length : Nat) (cs : List Char) : Option (Char × Nat) := do
    if cs.length < length then none
    let n ← wholeOf 16 (cs.take length)
    if n.isValidChar then some (Char.ofNat n, length + 1) else none

/-- What a string of one line holds up to its closing quote, and what follows that. -/
def lineString? (quote : Char) (cs : List Char) : Option (List Char × List Char) :=
  match cs with
  | [] => none
  | c :: rest =>
    if c = quote then some ([], rest)
    else if c = '\\' && quote = '"' then
      match escape? rest with
      | some (d, n) => (lineString? quote (rest.drop n)).map fun (s, r) => (d :: s, r)
      | none => none
    else if isControl c then none
    else (lineString? quote rest).map fun (s, r) => (c :: s, r)
termination_by cs.length
decreasing_by all_goals (simp only [List.length_drop, List.length_cons]; omega)

/-- Blanks and line ends after a backslash at the end of a line, of which there has to be one. -/
def joined? (cs : List Char) : Option (List Char) :=
  match lineEnd? (cs.dropWhile isBlank) with
  | some rest => some (rest.dropWhile fun c => isBlank c || c = '\n' || c = '\r')
  | none => none

/-- What a string of several lines holds up to its three closing quotes, to which up to two more
may belong, and what follows them. -/
def blockString? (quote : Char) (cs : List Char) : Option (List Char × List Char) :=
  match cs with
  | [] => none
  | c :: rest =>
    if c = quote && rest.take 2 = [quote, quote] then
      let more := min ((rest.drop 2).takeWhile (· = quote)).length 2
      some (List.replicate more quote, rest.drop (2 + more))
    else if c = '\\' && quote = '"' then
      match escape? rest with
      | some (d, n) => (blockString? quote (rest.drop n)).map fun (s, r) => (d :: s, r)
      | none =>
        match joined? rest with
        | some after =>
          if after.length ≤ rest.length then blockString? quote after else none
        | none => none
    else match lineEnd? (c :: rest) with
      | some after =>
        if after.length ≤ rest.length then
          (blockString? quote after).map fun (s, r) => ('\n' :: s, r)
        else none
      | none =>
        if isControl c then none
        else (blockString? quote rest).map fun (s, r) => (c :: s, r)
termination_by cs.length
decreasing_by all_goals (simp only [List.length_drop, List.length_cons]; omega)

/-- Reads a string that begins with its quote. -/
def string? : List Char → Option (String × List Char)
  | [] => none
  | quote :: cs =>
    let read := if cs.take 2 = [quote, quote] then
        let inner := cs.drop 2
        blockString? quote ((lineEnd? inner).getD inner)
      else lineString? quote cs
    read.map fun (s, r) => (String.ofList s, r)

/-! ## Numbers -/

/-- Digits without the underscores between them. -/
def plainDigits? (isDigit : Char → Bool) : List Char → Option (List Char)
  | [] => none
  | [c] => if isDigit c then some [c] else none
  | c :: '_' :: cs => if isDigit c then (plainDigits? isDigit cs).map (c :: ·) else none
  | c :: cs => if isDigit c then (plainDigits? isDigit cs).map (c :: ·) else none

/-- Decimal digits without a zero in front. -/
def decimalDigits? (cs : List Char) : Option (List Char) := do
  let ds ← plainDigits? Char.isDigit cs
  if 1 < ds.length ∧ ds.head? = some '0' then none else some ds

/-- A whole number of 64 bits. -/
def integer? (cs : List Char) : Option Int := do
  let inBase (base : Nat) (ds : List Char) : Option Int := do
    let ds ← plainDigits? (fun c => (digitValue? base c).isSome) ds
    (wholeOf base ds).map Int.ofNat
  let i ← match cs with
    | '0' :: 'x' :: ds => inBase 16 ds
    | '0' :: 'o' :: ds => inBase 8 ds
    | '0' :: 'b' :: ds => inBase 2 ds
    | cs => do
      let (negative, ds) := signOf cs
      let n ← wholeOf 10 (← decimalDigits? ds)
      some (if negative then -n else n : Int)
  if -0x8000000000000000 ≤ i ∧ i < 0x8000000000000000 then some i else none

/-- A number with a fraction or an exponent, or a word for one. -/
def float? (cs : List Char) : Option Double := do
  let (negative, rest) := signOf cs
  if rest = "inf".toList then return .ofValue (.infinite negative)
  if rest = "nan".toList then return (if negative then (Double.ofValue .nan).neg else .ofValue .nan)
  let isMark (c : Char) : Bool := c = '.' || c = 'e' || c = 'E'
  let whole := rest.takeWhile (!isMark ·)
  let ds ← decimalDigits? whole
  let (places, left) ← match rest.drop whole.length with
    | '.' :: l =>
      let f := l.takeWhile (!isMark ·)
      pure (some (← plainDigits? Char.isDigit f), l.drop f.length)
    | l => pure (none, l)
  let exponent ← match left with
    | [] => if places.isNone then none else some 0
    | c :: e =>
      if c = '.' then none
      else
        let (below, e) := signOf e
        let n ← wholeOf 10 (← plainDigits? Char.isDigit e)
        some (if below then -n else n : Int)
  let places := places.getD []
  let x := decimalDouble negative (digitsValue (ds ++ places)) (exponent - places.length)
  if x.isFinite then some x else none

/-! ## Dates and times -/

/-- Reads a date of ten characters. -/
def date : Calendar.Reader (List Char) := do
  let y ← Calendar.Reader.digits 4 4
  Calendar.Reader.char '-'
  let m ← Calendar.Reader.digits 2 2
  Calendar.Reader.char '-'
  let d ← Calendar.Reader.digits 2 2
  discard (Calendar.Date.of? (digitsValue y) (digitsValue m) (digitsValue d) :
    StateT (List Char) Option Calendar.Date)
  return y ++ '-' :: m ++ '-' :: d

/-- Reads a time; the fraction loses the zeros at its end. -/
def time : Calendar.Reader (List Char) := do
  let h ← Calendar.Reader.number 2 2 0 23
  Calendar.Reader.char ':'
  let m ← Calendar.Reader.number 2 2 0 59
  Calendar.Reader.char ':'
  let s ← Calendar.Reader.number 2 2 0 60
  let fraction ← match ← get with
    | '.' :: rest => do
      set rest
      let f ← Calendar.Reader.digits 1 rest.length
      pure ((f.take 9).reverse.dropWhile (· = '0')).reverse
    | _ => pure []
  return paddedDigits 2 h ++ ':' :: paddedDigits 2 m ++ ':' :: paddedDigits 2 s ++
    (if fraction.isEmpty then [] else '.' :: fraction)

/-- Reads an offset, if there is one. -/
def offset : Calendar.Reader (List Char) := do
  match ← get with
  | [] => return []
  | c :: rest =>
    set rest
    if c = 'Z' || c = 'z' then return ['Z']
    else if c = '+' || c = '-' then
      let h ← Calendar.Reader.number 2 2 0 23
      Calendar.Reader.char ':'
      let m ← Calendar.Reader.number 2 2 0 59
      return c :: paddedDigits 2 h ++ ':' :: paddedDigits 2 m
    else failure

/-- Reads a date, a time, or both with an offset. -/
def moment? (cs : List Char) : Option (List Char) :=
  let both : Calendar.Reader (List Char) := do
    let d ← date
    discard (Calendar.Reader.charThat fun c => c = 'T' || c = 't' || c = ' ')
    let t ← time
    return d ++ 'T' :: t ++ (← offset)
  both.whole cs <|> date.whole cs <|> time.whole cs

/-- Reads a word. -/
def scalarOf? (cs : List Char) : Option Scalar :=
  if cs = "true".toList then some (.bool true)
  else if cs = "false".toList then some (.bool false)
  else (integer? cs).map Scalar.int <|> (float? cs).map Scalar.float <|>
    (moment? cs).map fun t => .text (String.ofList t)

end TableService.Toml
