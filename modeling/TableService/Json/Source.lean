/-
  A JSON text as far as it can be read.

  A reader of JSON works from the front of the text and stops at the first thing that is wrong,
  which may be the text itself (`Fault.eof`, `Fault.malformed`) or a value of another shape than
  wanted (`Fault.shape`).  To keep the order of these, a text is first turned into a `Source`: a
  tree that holds everything up to the point where the text goes wrong, and that fault.

  A number or a string is judged twice, for it may be wanted or passed over: a number beyond the
  range of a double and an escape that denotes half a character matter only where it is wanted.

  * `tokens` cuts a text into tokens, up to the first that cannot be read; `grow` builds the tree
    from them, with the open lists and objects on a stack.
  * `Source.ofText` reads a text; `Source.fault?` is the fault met when passing over a value.
-/
import TableService.Json.Basic
import TableService.Number.Shortest

namespace TableService

/-- Why a JSON text cannot be used. -/
inductive Fault where
  /-- The text ends too early. -/
  | eof
  /-- The text is not JSON. -/
  | malformed
  /-- The text is JSON of another shape than wanted. -/
  | shape
  deriving DecidableEq, Repr

/-- A scalar at the front of a text, when it is wanted and when it is passed over. -/
structure Scalar (α : Type) where
  wanted : Except Fault α
  passed : Option Fault

/-- A character read in front of the rest of a string. -/
def Scalar.cons (c : Char) (s : Scalar (List Char)) : Scalar (List Char) :=
  ⟨s.wanted.map (c :: ·), s.passed⟩

/-- The tree of a text. -/
inductive Source where
  | null
  | bool (b : Bool)
  | number (n : Scalar JsonNumber)
  | string (s : Scalar String)
  /-- The items, and what is wrong where the list should go on or end. -/
  | array (items : List Source) (stop : Option Fault)
  /-- The members, and what is wrong where the object should go on or end. -/
  | object (members : List (Scalar String × Source)) (stop : Option Fault)
  /-- No value starts here. -/
  | broken (fault : Fault)

namespace Source

/-! ## Numbers -/

/-- Takes digits into a significand as long as it stays below `2 ^ 64`; the other digits are
returned. -/
def accumulate (significand : Nat) : List Char → Nat × List Char
  | [] => (significand, [])
  | c :: cs =>
    let next := 10 * significand + (c.toNat - 48)
    if next < 0x10000000000000000 then accumulate next cs else (significand, c :: cs)

/-- The greatest power of ten that scaling uses in one step. -/
def maxPower : Nat := 308

/-- Scales a number by a power of ten, one rounded multiplication or division after the other;
`none` when the result is too large. -/
def scale (x : Double) (exponent : Int) : Option Double :=
  if exponent.natAbs ≤ maxPower then
    if 0 ≤ exponent then
      let y := x.mul (Double.ofInt (Nat.pow 10 exponent.natAbs))
      if y.isFinite then some y else none
    else some (x.div (Double.ofInt (Nat.pow 10 exponent.natAbs)))
  else if x.isZero then some x
  else if 0 ≤ exponent then none
  else scale (x.div (Double.ofInt (Nat.pow 10 maxPower))) (exponent + maxPower)
termination_by exponent.natAbs
decreasing_by simp only [maxPower] at *; omega

/-- The parts of a number literal, all of them digits. -/
structure Literal where
  negative : Bool
  whole : List Char
  fraction : Option (List Char)
  /-- The sign of the exponent, negative or not, and its digits. -/
  exponent : Option (Bool × List Char)

/-- A finite double as a number. -/
def ofFinite (x : Double) : Except Fault JsonNumber :=
  if h : x.isFinite = true then .ok (.double x h) else .error .malformed

/-- A double from its parts; too large a number is malformed. -/
def ofParts (negative : Bool) (significand : Nat) (exponent : Int) : Except Fault JsonNumber :=
  match scale (Double.ofInt significand) exponent with
  | some x => ofFinite (if negative then x.neg else x)
  | none => .error .malformed

/-- Exponents are kept within 32 bits. -/
def clampExponent (e : Int) : Int := max (-0x80000000) (min e 0x7fffffff)

/-- The number that a literal denotes.  Digits beyond the 64 bits of the significand count only
for the exponent. -/
def Literal.value (l : Literal) : Except Fault JsonNumber :=
  let (significand, dropped) := accumulate 0 l.whole
  match l.fraction, l.exponent, dropped with
  | none, none, [] =>
    let i : Int := if l.negative then -significand else significand
    if l.negative ∧ significand = 0 then ofFinite Double.zero.neg
    else if h : -0x8000000000000000 ≤ i ∧ i < 0x10000000000000000 then .ok (.int i h.1 h.2)
    else ofParts l.negative significand 0
  | fraction, exponent, dropped =>
    let digits := fraction.getD []
    let (significand, rest) := accumulate significand digits
    let start : Int := dropped.length - (digits.length - rest.length : Nat)
    match exponent with
    | none => ofParts l.negative significand start
    | some (below, digits) =>
      let e := digitsValue digits
      if 0x80000000 ≤ e then
        if significand ≠ 0 ∧ !below then .error .malformed
        else ofFinite (if l.negative then Double.zero.neg else Double.zero)
      else
        ofParts l.negative significand
          (clampExponent (if below then start - e else start + e))

/-- Digits at the front of a text. -/
def digits (cs : List Char) : List Char := cs.takeWhile Char.isDigit

/-- A missing digit is the end of the text or a malformed number; where the number is passed over
both count as malformed. -/
def missingDigit (rest : List Char) : Fault := if rest.isEmpty then .eof else .malformed

/-- A number whose literal is not complete. -/
def badNumber (wanted : Fault) : Scalar JsonNumber := ⟨.error wanted, some .malformed⟩

/-- The exponent of a number, after its letter, and the number of characters used. -/
def exponentPart (cs : List Char) : Except Fault (Bool × List Char × Nat) :=
  let (below, signs, rest) := match cs with
    | '+' :: r => (false, 1, r)
    | '-' :: r => (true, 1, r)
    | r => (false, 0, r)
  match digits rest with
  | [] => .error (missingDigit rest)
  | ds => .ok (below, ds, signs + ds.length)

/-- A number after its sign, and the number of characters used. -/
def numberAfterSign (negative : Bool) (cs : List Char) : Scalar JsonNumber × Nat :=
  let whole := digits cs
  let rest := cs.drop whole.length
  if whole.isEmpty then (badNumber (missingDigit cs), 0)
  else if whole.head? = some '0' ∧ 1 < whole.length then (badNumber .malformed, 0)
  else
    let fraction := match rest with
      | '.' :: r => some r
      | _ => none
    let places := (fraction.map digits).getD []
    let afterFraction := (fraction.map (·.drop places.length)).getD rest
    match fraction, places with
    | some r, [] => (badNumber (missingDigit r), 0)
    | _, _ =>
      let used := cs.length - afterFraction.length
      match afterFraction with
      | c :: r =>
        if c = 'e' ∨ c = 'E' then
          match exponentPart r with
          | .error f => (badNumber f, 0)
          | .ok (below, ds, n) =>
            let l : Literal := ⟨negative, whole, fraction.map fun _ => places, some (below, ds)⟩
            (⟨l.value, none⟩, used + 1 + n)
        else (⟨Literal.value ⟨negative, whole, fraction.map fun _ => places, none⟩, none⟩, used)
      | [] => (⟨Literal.value ⟨negative, whole, fraction.map fun _ => places, none⟩, none⟩, used)

/-! ## Strings -/

/-- Four hexadecimal digits. -/
def hexUnit? (cs : List Char) : Option Nat := if cs.length = 4 then wholeOf 16 cs else none

/-- The code unit after `\u`; the text ends too early when fewer than four bytes are left. -/
def unitAt (cs : List Char) : Except Fault Nat :=
  match hexUnit? (cs.take 4) with
  | some n => .ok n
  | none =>
    if (String.ofList cs).utf8ByteSize < 4 then .error .eof else .error .malformed

/-- The character of a short escape. -/
def shortEscape? (c : Char) : Option Char :=
  match c with
  | '"' => some '"'
  | '\\' => some '\\'
  | '/' => some '/'
  | 'b' => some (Char.ofNat 8)
  | 'f' => some (Char.ofNat 12)
  | 'n' => some '\n'
  | 'r' => some '\r'
  | 't' => some '\t'
  | _ => none

/-- A piece of a string: a character, a code unit, the closing quote, or a fault; with the number
of characters used. -/
inductive Piece where
  | char (c : Char)
  | unit (n : Nat)
  | close
  | fault (f : Fault)

/-- The first piece of the rest of a string. -/
def piece : List Char → Piece × Nat
  | [] => (.fault .eof, 0)
  | '"' :: _ => (.close, 1)
  | ['\\'] => (.fault .eof, 1)
  | '\\' :: c :: r =>
    if c = 'u' then
      match unitAt r with
      | .ok n => (.unit n, 6)
      | .error f => (.fault f, 2)
    else match shortEscape? c with
      | some d => (.char d, 2)
      | none => (.fault .malformed, 2)
  | c :: _ => if c.toNat < 32 then (.fault .malformed, 1) else (.char c, 1)

/-- A code unit that starts a pair. -/
def isHighUnit (n : Nat) : Bool := 0xD800 ≤ n && n < 0xDC00

/-- A code unit that ends a pair. -/
def isLowUnit (n : Nat) : Bool := 0xDC00 ≤ n && n < 0xE000

/-- What follows the first unit of a pair: the second one, or why there is none. -/
def lowUnit : List Char → Except Fault Nat
  | [] => .error .eof
  | ['\\'] => .error .eof
  | '\\' :: 'u' :: r =>
    match unitAt r with
    | .ok n => if isLowUnit n then .ok n else .error .malformed
    | .error f => .error f
  | _ => .error .malformed

theorem piece_used {cs : List Char} {p : Piece} {n : Nat} (h : piece cs = (p, n))
    (ok : ∀ f, p ≠ .fault f) : 0 < n := by
  unfold piece at h
  split at h
  · simp only [Prod.mk.injEq] at h; exact absurd h.1.symm (ok _)
  · simp only [Prod.mk.injEq] at h; omega
  · simp only [Prod.mk.injEq] at h; omega
  · split at h
    · split at h <;> simp only [Prod.mk.injEq] at h <;> omega
    · split at h <;> simp only [Prod.mk.injEq] at h <;> omega
  · split at h <;> simp only [Prod.mk.injEq] at h <;> omega

/-- The rest of a string after its opening quote, and the text after the closing one.  A unit that
is half of a pair is a fault only where the string is wanted. -/
def stringBody (cs : List Char) : Scalar (List Char) × Option (List Char) :=
  match _h : piece cs with
  | (.fault f, _) => (⟨.error f, some f⟩, none)
  | (.close, n) => (⟨.ok [], none⟩, some (cs.drop n))
  | (.char c, n) =>
    let (s, rest) := stringBody (cs.drop n)
    (s.cons c, rest)
  | (.unit u, n) =>
    if isLowUnit u then
      let (s, rest) := stringBody (cs.drop n)
      (⟨.error .malformed, s.passed⟩, rest)
    else if isHighUnit u then
      match lowUnit (cs.drop n) with
      | .ok low =>
        let (s, rest) := stringBody (cs.drop (n + 6))
        (s.cons (Char.ofNat (0x10000 + (u - 0xD800) * 0x400 + (low - 0xDC00))), rest)
      | .error f =>
        let (s, rest) := stringBody (cs.drop n)
        (⟨.error f, s.passed⟩, rest)
    else
      let (s, rest) := stringBody (cs.drop n)
      (s.cons (Char.ofNat u), rest)
termination_by cs.length
decreasing_by
  all_goals
    have used := piece_used _h (by simp)
    have nonempty : cs ≠ [] := by
      rintro rfl
      simp [piece] at _h
    have := List.length_pos_iff.2 nonempty
    simp only [List.length_drop]
    omega

theorem stringBody_rest {cs r : List Char} (h : (stringBody cs).2 = some r) :
    r.length < cs.length := by
  fun_induction stringBody cs with
  | case1 => simp at h
  | case2 cs n hp =>
    simp only [Option.some.injEq] at h
    subst h
    have := piece_used hp (by simp)
    have nonempty : cs ≠ [] := by
      rintro rfl
      simp [piece] at hp
    have := List.length_pos_iff.2 nonempty
    simp only [List.length_drop]
    omega
  | _ =>
    simp_all only [List.length_drop]
    grind

/-! ## Tokens -/

/-- White space between tokens. -/
def isSpace (c : Char) : Bool := c = ' ' || c = '\n' || c = '\t' || c = '\r'

/-- A token of a text. -/
inductive Token where
  | openList
  | closeList
  | openObject
  | closeObject
  | comma
  | colon
  | null
  | bool (b : Bool)
  | number (n : Scalar JsonNumber)
  | string (s : Scalar String)
  /-- Something that is no token, with the fault it is where a value is due. -/
  | bad (fault : Fault)

/-- The letters of a keyword at the front of a text, or what is wrong with them. -/
def keyword : (letters cs : List Char) → Option Fault
  | [], _ => none
  | _ :: _, [] => some .eof
  | l :: ls, c :: cs => if l = c then keyword ls cs else some .malformed

/-- A keyword after its first letter, and the number of characters used. -/
def wordToken (token : Token) (letters cs : List Char) : Token × Option Nat :=
  match keyword letters cs with
  | none => (token, some letters.length)
  | some f => (.bad f, none)

/-- A number, and the number of characters used unless it cannot be read. -/
def numberToken (negative : Bool) (cs : List Char) : Token × Option Nat :=
  match numberAfterSign negative cs with
  | (n, used) => (.number n, if n.passed.isNone then some used else none)

/-- A string after its opening quote, and the number of characters used unless it has no end. -/
def stringToken (cs : List Char) : Token × Option Nat :=
  match stringBody cs with
  | (s, rest) =>
    (.string ⟨s.wanted.map String.ofList, s.passed⟩, rest.map fun r => cs.length - r.length)

/-- The token that starts with `c`, and how many characters of the rest belong to it; none where
the text cannot be read on. -/
def token (c : Char) (cs : List Char) : Token × Option Nat :=
  match c with
  | '[' => (.openList, some 0)
  | ']' => (.closeList, some 0)
  | '\x7b' => (.openObject, some 0)
  | '\x7d' => (.closeObject, some 0)
  | ',' => (.comma, some 0)
  | ':' => (.colon, some 0)
  | 'n' => wordToken .null ['u', 'l', 'l'] cs
  | 't' => wordToken (.bool true) ['r', 'u', 'e'] cs
  | 'f' => wordToken (.bool false) ['a', 'l', 's', 'e'] cs
  | '-' => numberToken true cs
  | '"' => stringToken cs
  | c =>
    if c.isDigit then ((numberToken false (c :: cs)).1, (numberToken false (c :: cs)).2.map (· - 1))
    else (.bad .malformed, none)

/-- The tokens of a text, up to the first that cannot be read. -/
def tokens (cs : List Char) : List Token :=
  match cs with
  | [] => []
  | c :: cs =>
    if isSpace c then tokens cs
    else match token c cs with
      | (t, some n) => t :: tokens (cs.drop n)
      | (t, none) => [t]
termination_by cs.length
decreasing_by
  · simp
  · simp only [List.length_drop, List.length_cons]
    omega

/-! ## The tree -/

/-- An open list or object, its parts in reverse. -/
inductive Frame where
  | list (items : List Source)
  | object (members : List (Scalar String × Source))
  /-- An object in which a member's value is due. -/
  | member (members : List (Scalar String × Source)) (name : Scalar String)

/-- What may come next. -/
inductive Due where
  | value
  /-- A value or the end of a list. -/
  | itemOrEnd
  /-- A name or the end of an object. -/
  | nameOrEnd
  | name
  | colon
  /-- A comma or the end of what is open; at the outermost level, the end of the text. -/
  | commaOrEnd

/-- A text as a tree, and what is wrong after it. -/
structure Reading where
  source : Source
  rest : Option Fault

/-- Closes everything that is open because of a fault; `inner` is what was read last. -/
def close (fault : Fault) : List Frame → Option Source → Source
  | [], inner => inner.getD (.broken fault)
  | .list items :: outer, inner =>
    close fault outer (some (.array ((inner.toList ++ items).reverse) (some fault)))
  | .object members :: outer, _ =>
    close fault outer (some (.object members.reverse (some fault)))
  | .member members name :: outer, inner =>
    close fault outer
      (some (.object ((name, inner.getD (.broken fault)) :: members).reverse (some fault)))

/-- The state of a tree under construction: the open frames, what is due, and the finished
outermost value. -/
structure Growth where
  frames : List Frame
  due : Due
  done : Option Source

/-- A finished value goes into the innermost frame. -/
def Growth.place (v : Source) : List Frame → Growth
  | [] => ⟨[], .commaOrEnd, some v⟩
  | .list items :: outer => ⟨.list (v :: items) :: outer, .commaOrEnd, none⟩
  | .member members name :: outer => ⟨.object ((name, v) :: members) :: outer, .commaOrEnd, none⟩
  | .object members :: outer => ⟨.object members :: outer, .commaOrEnd, none⟩

/-- Goes on at a value, or stops there. -/
def Growth.value (frames : List Frame) : Token → Except Fault Growth
  | .openList => .ok ⟨.list [] :: frames, .itemOrEnd, none⟩
  | .openObject => .ok ⟨.object [] :: frames, .nameOrEnd, none⟩
  | .null => .ok (place .null frames)
  | .bool b => .ok (place (.bool b) frames)
  | .number n => .ok (place (.number n) frames)
  | .string s => .ok (place (.string s) frames)
  | .bad f => .error f
  | _ => .error .malformed

/-- Goes on at a name, or stops there. -/
def Growth.name (frames : List Frame) : Token → Except Fault Growth
  | .string s =>
    match frames with
    | .object members :: outer => .ok ⟨.member members s :: outer, .colon, none⟩
    | _ => .error .malformed
  | _ => .error .malformed

/-- Goes on at one token, or stops there with a fault. -/
def Growth.step (g : Growth) (t : Token) : Except Fault Growth :=
  match g.due, t, g.frames with
  | .value, t, frames => value frames t
  | .itemOrEnd, .closeList, .list items :: outer => .ok (place (.array items.reverse none) outer)
  | .itemOrEnd, t, frames => value frames t
  | .nameOrEnd, .closeObject, .object members :: outer =>
    .ok (place (.object members.reverse none) outer)
  | .nameOrEnd, t, frames => name frames t
  | .name, t, frames => name frames t
  | .colon, .colon, frames => .ok ⟨frames, .value, none⟩
  | .commaOrEnd, .comma, .list items :: outer => .ok ⟨.list items :: outer, .value, none⟩
  | .commaOrEnd, .comma, .object members :: outer => .ok ⟨.object members :: outer, .name, none⟩
  | .commaOrEnd, .closeList, .list items :: outer => .ok (place (.array items.reverse none) outer)
  | .commaOrEnd, .closeObject, .object members :: outer =>
    .ok (place (.object members.reverse none) outer)
  | _, _, _ => .error .malformed

/-- The tree that is left when reading stops.  A fault where an item is due belongs to that
item. -/
def Growth.stop (g : Growth) (fault : Fault) : Source :=
  match g.due, g.frames with
  | .value, .list _ :: _ => close fault g.frames (some (.broken fault))
  | _, _ => close fault g.frames none

/-- The tree of the tokens. -/
def grow (g : Growth) : List Token → Reading
  | [] =>
    match g.done with
    | some v => ⟨v, none⟩
    | none => ⟨g.stop .eof, none⟩
  | t :: ts =>
    match g.done with
    | some v => ⟨v, some .malformed⟩
    | none =>
      match g.step t with
      | .ok g => grow g ts
      | .error f => ⟨g.stop f, none⟩

/-- The tree of a text. -/
def ofText (s : String) : Reading := grow ⟨[], .value, none⟩ (tokens s.toList)

/-! ## Passing over a value -/

mutual

/-- The first fault met when passing over a value, at whatever depth.  Names are always read. -/
def fault? : Source → Option Fault
  | .null | .bool _ => none
  | .number n => n.passed
  | .string s => s.passed
  | .array items stop => itemsFault? items <|> stop
  | .object members stop => membersFault? members <|> stop
  | .broken f => some f

/-- The first fault in list items. -/
def itemsFault? : List Source → Option Fault
  | [] => none
  | v :: vs => v.fault? <|> itemsFault? vs

/-- The first fault in members. -/
def membersFault? : List (Scalar String × Source) → Option Fault
  | [] => none
  | (name, v) :: ms => name.passed <|> v.fault? <|> membersFault? ms

end

end Source

end TableService
