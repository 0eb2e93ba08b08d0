/-
  The values of YAML nodes.

  * `Value.ofPlain?` gives the meaning of a plain scalar: null, a truth value, a number or a
    string.  Digits after a leading zero are a string.
  * `Node.value?` gives the value of a node; none for a node with a tag of its own kind, and where a
    standard tag does not fit.
-/
import TableService.Number.Reading
import TableService.Yaml.Node

namespace TableService.Yaml

/-- The value of a node. -/
inductive Value where
  | null
  | bool (b : Bool)
  /-- A whole number of 64 bits without a minus sign. -/
  | whole (n : Nat)
  /-- Any other number. -/
  | number
  | string (s : String)
  | sequence (items : List Value)
  | mapping (entries : List (Value × Value))
  deriving Inhabited

/-- The truth value of a plain scalar. -/
def boolOf? (s : String) : Option Bool :=
  if s = "true" ∨ s = "True" ∨ s = "TRUE" then some true
  else if s = "false" ∨ s = "False" ∨ s = "FALSE" then some false
  else none

/-- The word for no value. -/
def isNullWord (s : String) : Bool := s == "null" || s == "Null" || s == "NULL" || s == "~"

/-- Two or more digits of which the first is zero. -/
def isPaddedNumber (cs : List Char) : Bool :=
  let digits := (signOf cs).2
  1 < digits.length && digits.head? == some '0' && digits.all Char.isDigit

/-- The sign, the base and the digits of an integer. -/
def integerParts (cs : List Char) : Bool × Nat × List Char :=
  let (negative, rest) := signOf cs
  match rest with
  | '0' :: 'x' :: ds => (negative, 16, ds)
  | '0' :: 'o' :: ds => (negative, 8, ds)
  | '0' :: 'b' :: ds => (negative, 2, ds)
  | ds => (negative, 10, ds)

/-- The value of an integer: nothing for other texts, and no value beyond 64 bits unless it is so
large that it counts as a decimal fraction. -/
def integerValue? (cs : List Char) : Option (Option Value) :=
  let (negative, base, digits) := integerParts cs
  if base = 10 && isPaddedNumber cs then none
  else match wholeOf base digits with
    | none => none
    | some n =>
      if negative then
        if n ≤ Nat.pow 2 63 then some (some .number)
        else if n ≤ Nat.pow 2 127 then some none
        else none
      else if n < Nat.pow 2 64 then some (some (.whole n))
      else if n < Nat.pow 2 128 then some none
      else none

/-- The text is a number with a fraction or an exponent, or a word for one. -/
def isFloat (s : String) : Bool :=
  let unsigned := match s.toList with
    | '+' :: cs => if cs.head?.any fun c => c = '+' || c = '-' then [] else cs
    | cs => cs
  let word := String.ofList unsigned
  word == ".inf" || word == ".Inf" || word == ".INF" ||
    s == "-.inf" || s == "-.Inf" || s == "-.INF" || s == ".nan" || s == ".NaN" || s == ".NAN" ||
    ((floatOf unsigned).any (·.isFinite))

/-- The meaning of a plain scalar; none for a number that is too large. -/
def Value.ofPlain? (s : String) : Option Value :=
  if s.isEmpty || isNullWord s then some .null
  else match boolOf? s with
    | some b => some (.bool b)
    | none =>
      match integerValue? s.toList with
      | some v => v
      | none => some (if !isPaddedNumber s.toList && isFloat s then .number else .string s)

/-- The value of a scalar with its tag. -/
def scalarValue? (text : String) (plain : Bool) (tag : Option String) : Option Value :=
  match tag with
  | none => if plain then Value.ofPlain? text else some (.string text)
  | some tag =>
    if tag = "tag:yaml.org,2002:bool" then (boolOf? text).map .bool
    else if tag = "tag:yaml.org,2002:int" then (integerValue? text.toList).bind id
    else if tag = "tag:yaml.org,2002:float" then if isFloat text then some .number else none
    else if tag = "tag:yaml.org,2002:null" then if isNullWord text then some .null else none
    else if tag.startsWith "!" then none
    else some (.string text)

/-- A collection may have this tag. -/
def isStandardTag (tag : Option String) : Bool :=
  match tag with
  | some t => !t.startsWith "!"
  | none => true

mutual

/-- The value of a node. -/
def Node.value? : Node → Option Value
  | .scalar text plain tag => scalarValue? text plain tag
  | .sequence items tag =>
    if isStandardTag tag then (itemValues? items).map .sequence else none
  | .mapping entries tag =>
    if isStandardTag tag then (entryValues? entries).map .mapping else none

/-- The values of items. -/
def itemValues? : List Node → Option (List Value)
  | [] => some []
  | n :: ns => do return (← n.value?) :: (← itemValues? ns)

/-- The values of entries. -/
def entryValues? : List (Node × Node) → Option (List (Value × Value))
  | [] => some []
  | (k, v) :: es => do return (← k.value?, ← v.value?) :: (← entryValues? es)

end

end TableService.Yaml
