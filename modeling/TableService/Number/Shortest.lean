/-
  Decimal forms of doubles.

  * `shortest` gives the fewest digits that read back as the number, and of those the nearest
    to it: every real in the interval around a double rounds to it, ends included when its
    significand is even, and the digits are sought on coarser grids first.
  * `significant` gives a fixed number of digits, a tie going away from zero.
-/
import TableService.Number.Digits
import TableService.Number.Double

namespace TableService

/-- A positive decimal number `coefficient * 10 ^ exponent`. -/
structure Scientific where
  coefficient : Nat
  exponent : Int
  deriving DecidableEq, Repr

/-- The power of ten below the quotient: `10 ^ k ≤ num / den < 10 ^ (k + 1)`, for a positive
quotient. -/
def decimalExponent (num den : Nat) : Int :=
  if den ≤ num then ((digitsText (num / den)).length : Int) - 1
  else -((digitsText ((den - 1) / num)).length : Int)

/-- `num / den` divided by `10 ^ e`, as a quotient. -/
def unscaleTen (num den : Nat) (e : Int) : Nat × Nat :=
  if 0 ≤ e then (num, den * Nat.pow 10 e.toNat) else (num * Nat.pow 10 (-e).toNat, den)

namespace Double

/-- The reals that round to `significand * 2 ^ exponent`: the distances to both ends in quarters
of a unit, and whether the ends belong to it. -/
structure Neighbourhood where
  below : Nat
  above : Nat
  closed : Bool

/-- The neighbourhood of a positive double; below a power of two the spacing halves. -/
def neighbourhood (significand : Nat) (exponent : Int) : Neighbourhood where
  below := if significand = 0x10000000000000 ∧ -1074 < exponent then 1 else 2
  above := 2
  closed := significand % 2 = 0

/-- The multiple of `10 ^ e` inside the neighbourhood that is nearest to the number, if any. -/
def onGrid (significand : Nat) (exponent : Int) (e : Int) : Option Scientific :=
  let near := neighbourhood significand exponent
  let (quarter, unit) := binaryRatio 1 exponent
  -- everything in quarters of the last binary unit
  let (scaled, den) := unscaleTen (4 * significand * quarter) (4 * unit) e
  let (lowest, _) := unscaleTen ((4 * significand - near.below) * quarter) (4 * unit) e
  let (highest, _) := unscaleTen ((4 * significand + near.above) * quarter) (4 * unit) e
  let inside (c : Nat) : Bool :=
    if near.closed then lowest ≤ c * den && c * den ≤ highest
    else lowest < c * den && c * den < highest
  let low := scaled / den
  let high := low + 1
  let belowHalf := 2 * (scaled % den) < den || (2 * (scaled % den) == den && low % 2 == 0)
  if low ≠ 0 && inside low && (belowHalf || !inside high) then some ⟨low, e⟩
  else if inside high then some ⟨high, e⟩
  else none

/-- Tries grids from coarse to fine, `n` of them. -/
def firstOnGrids (significand : Nat) (exponent : Int) : Nat → Int → Option Scientific
  | 0, _ => none
  | n + 1, e => onGrid significand exponent e <|> firstOnGrids significand exponent n (e - 1)

/-- The shortest decimal that reads back as the positive double `significand * 2 ^ exponent`. -/
def shortest (significand : Nat) (exponent : Int) : Scientific :=
  let (n, d) := binaryRatio significand exponent
  (firstOnGrids significand exponent 18 (decimalExponent n d + 1)).getD ⟨significand, 0⟩

/-- The positive quotient with `count` significant digits, a tie going up; the coefficient has
exactly `count` digits. -/
def significant (num den : Nat) (count : Nat) : Scientific :=
  let e := decimalExponent num den - count + 1
  let (n, d) := unscaleTen num den e
  let c := (2 * n + d) / (2 * d)
  if c = Nat.pow 10 count then ⟨c / 10, e + 1⟩ else ⟨c, e⟩

end Double

end TableService
