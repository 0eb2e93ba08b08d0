/-
  Decimal numbers of up to 96 bits with up to 28 places after the point.

  * `Decimal.ofText?` reads positional text; places that do not fit are rounded off, other digits
    have to fit.  `Decimal.ofScientific?` reads a power of ten after it.
  * `Decimal.add?` adds exactly and then drops as few places as it takes to fit, a half going to
    the even neighbour.
  * `Decimal.normalize` drops the zeros at the end of the places, `Decimal.round` keeps a number of
    places, a half going away from zero, and `Decimal.text` writes all places.
-/
import TableService.Number.Reading

namespace TableService

/-- The number `± coefficient / 10 ^ scale`. -/
structure Decimal where
  negative : Bool
  coefficient : Nat
  scale : Nat
  coefficient_lt : coefficient < 0x1000000000000000000000000
  scale_le : scale ≤ 28
  deriving DecidableEq, Repr

namespace Decimal

/-- The number of these parts, if they are within the bounds. -/
def of? (negative : Bool) (coefficient scale : Nat) : Option Decimal :=
  if h : coefficient < 0x1000000000000000000000000 ∧ scale ≤ 28 then
    some ⟨negative, coefficient, scale, h.1, h.2⟩
  else none

/-- Zero, without places. -/
def zero : Decimal := ⟨false, 0, 0, by decide, by decide⟩

instance : Inhabited Decimal := ⟨zero⟩

/-- The numerator over `10 ^ scale`. -/
def numerator (d : Decimal) : Int := if d.negative then -d.coefficient else d.coefficient

/-! ## Reading -/

/-- What has been read of a positional text. -/
structure Draft where
  coefficient : Nat
  scale : Nat
  /-- The point has been read. -/
  point : Bool
  /-- A digit has been read. -/
  digits : Bool

namespace Draft

/-- Nothing has been read. -/
def start : Draft := ⟨0, 0, false, false⟩

/-- The draft with the digit that follows. -/
def push (d : Draft) (digit : Nat) : Draft :=
  ⟨10 * d.coefficient + digit, if d.point then d.scale + 1 else 0, d.point, true⟩

/-- No further place is kept. -/
def isFull (d : Draft) : Bool := d.point && 28 ≤ d.scale

/-- Ends with a character that is rounded off; what follows it is not looked at. -/
def rounded (d : Draft) (negative : Bool) (c : Char) : Option Decimal :=
  match digitValue? 10 c with
  | some v =>
    if v < 5 then of? negative d.coefficient d.scale
    else if d.coefficient + 1 < 0x1000000000000000000000000 then
      of? negative (d.coefficient + 1) d.scale
    else if d.scale = 0 then none
    else of? negative ((d.coefficient + 5) / 10) (d.scale - 1)
  | none =>
    if c = '_' || c = '.' && d.point then of? negative d.coefficient d.scale else none

/-- Reads on to the end of a text. -/
def finish (negative : Bool) : Draft → List Char → Option Decimal
  | d, [] => if d.digits then of? negative d.coefficient d.scale else none
  | d, c :: cs =>
    if d.isFull then d.rounded negative c
    else match digitValue? 10 c with
      | some v =>
        if (d.push v).coefficient < 0x1000000000000000000000000 then finish negative (d.push v) cs
        else if d.point then d.rounded negative c
        else none
      | none =>
        if c = '.' && !d.point then finish negative { d with point := true } cs
        else if c = '_' && d.digits then finish negative d cs
        else none

end Draft

/-- Reads digits around a point, with an optional sign; `_` may stand behind a digit. -/
def ofText? (cs : List Char) : Option Decimal :=
  let (negative, cs) := signOf cs
  Draft.start.finish negative cs

/-- The zeros at the end of the places are dropped: the coefficient and the scale that remain. -/
def stripZeros : Nat → Nat → Nat × Nat
  | c, 0 => (c, 0)
  | c, scale + 1 => if c % 10 = 0 then stripZeros (c / 10) scale else (c, scale + 1)

theorem stripZeros_le (c scale : Nat) :
    (stripZeros c scale).1 ≤ c ∧ (stripZeros c scale).2 ≤ scale := by
  induction scale generalizing c with
  | zero => simp [stripZeros]
  | succ n ih =>
    simp only [stripZeros]
    split
    · have := ih (c / 10)
      omega
    · simp

/-- The same number with the fewest places; zero has no sign. -/
def normalize (d : Decimal) : Decimal where
  negative := d.negative && d.coefficient != 0
  coefficient := (stripZeros d.coefficient d.scale).1
  scale := (stripZeros d.coefficient d.scale).2
  coefficient_lt :=
    Nat.lt_of_le_of_lt (stripZeros_le d.coefficient d.scale).1 d.coefficient_lt
  scale_le := Nat.le_trans (stripZeros_le d.coefficient d.scale).2 d.scale_le

/-- The number times `10 ^ n`, with no more places than it needs when it is a whole number. -/
def shift? (d : Decimal) (n : Nat) : Option Decimal :=
  if n ≤ d.scale then of? d.negative d.coefficient (d.scale - n)
  else if n ≤ 28 then (of? d.negative (d.coefficient * Nat.pow 10 (n - d.scale)) 0).map normalize
  else none

/-- Reads a positional text with a power of ten behind it. -/
def ofScientific? (cs : List Char) : Option Decimal := do
  let base := cs.takeWhile fun c => c != 'e' && c != 'E'
  let d ← ofText? base
  match cs.drop base.length with
  | [] => none
  | _ :: '-' :: e =>
    let n ← wholeOf 10 (if e.head? = some '+' then e.drop 1 else e)
    of? d.negative d.coefficient (d.scale + n)
  | _ :: e =>
    let n ← wholeOf 10 (if e.head? = some '+' then e.drop 1 else e)
    d.shift? n

/-! ## Arithmetic -/

/-- The number `± coefficient / 10 ^ scale` with as few places dropped as it takes to fit. -/
def fit? (negative : Bool) (coefficient scale : Nat) : Option Decimal := do
  let drop ← (List.range (scale + 1)).find? fun k =>
    coefficient / Nat.pow 10 k < 0x1000000000000000000000000 && scale - k ≤ 28
  let c := roundDiv coefficient (Nat.pow 10 drop)
  if c < 0x1000000000000000000000000 then of? negative c (scale - drop)
  else if scale = drop then none
  else of? negative (roundDiv c 10) (scale - drop - 1)

/-- The sum. -/
def add? (a b : Decimal) : Option Decimal :=
  let scale := max a.scale b.scale
  let sum := a.numerator * Nat.pow 10 (scale - a.scale) + b.numerator * Nat.pow 10 (scale - b.scale)
  fit? (sum < 0) sum.natAbs scale

/-- The number with a limit on the places, a half going away from zero. -/
def round (d : Decimal) (places : Nat) : Decimal :=
  if h : places < d.scale then
    { negative := d.negative
      coefficient :=
        (d.coefficient + Nat.pow 10 (d.scale - places) / 2) / Nat.pow 10 (d.scale - places)
      scale := places
      coefficient_lt := by
        have pow : 10 ^ 1 ≤ Nat.pow 10 (d.scale - places) :=
          Nat.pow_le_pow_right (by decide) (by omega)
        have := d.coefficient_lt
        generalize Nat.pow 10 (d.scale - places) = p at *
        exact Nat.div_lt_of_lt_mul (by omega)
      scale_le := Nat.le_of_lt (Nat.lt_of_lt_of_le h d.scale_le) }
  else d

/-! ## Writing -/

/-- All digits of the number, and a point before the places if there are any. -/
def text (d : Decimal) : List Char :=
  let digits := paddedDigits (d.scale + 1) d.coefficient
  let whole := digits.take (digits.length - d.scale)
  let places := digits.drop (digits.length - d.scale)
  (if d.negative then ['-'] else []) ++ whole ++ (if d.scale = 0 then [] else '.' :: places)

end Decimal

end TableService
