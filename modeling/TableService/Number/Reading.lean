/-
  Reading numbers from texts.

  * `integerOf` reads digits with an optional sign; `longIn?` and `wholeBelow?` have limits.
  * `floatOf` reads a decimal with an optional fraction and exponent, rounded to the nearest
    double, or a word for infinity or for no number.
-/
import TableService.Number.Shortest

namespace TableService

/-- A sign at the front of a text, negative or not, and the rest. -/
def signOf : List Char → Bool × List Char
  | '-' :: cs => (true, cs)
  | '+' :: cs => (false, cs)
  | cs => (false, cs)

/-- The value of decimal digits with an optional sign. -/
def integerOf (cs : List Char) : Option Int :=
  let (negative, digits) := signOf cs
  (wholeOf 10 digits).map fun n => if negative then -n else n

/-- A whole number of 64 bits in a base, with an optional sign. -/
def longIn? (base : Nat) (cs : List Char) : Option Int := do
  let (negative, ds) := signOf cs
  let n ← wholeOf base ds
  let i : Int := if negative then -n else n
  if -0x8000000000000000 ≤ i ∧ i < 0x8000000000000000 then some i else none

/-- A whole number below a limit in decimal digits, with an optional plus sign. -/
def wholeBelow? (limit : Nat) (cs : List Char) : Option Nat := do
  let n ← wholeOf 10 (if cs.head? = some '+' then cs.drop 1 else cs)
  if n < limit then some n else none

/-- The double nearest to `± coefficient * 10 ^ exponent`; exponents far out of range are not
computed. -/
def decimalDouble (negative : Bool) (coefficient : Nat) (exponent : Int) : Double :=
  let top := exponent + (digitsText coefficient).length
  if coefficient = 0 then Double.ofRatio negative 0 1
  else if 400 < top then Double.ofValue (.infinite negative)
  else if top < -400 then Double.ofRatio negative 0 1
  else if 0 ≤ exponent then Double.ofRatio negative (coefficient * Nat.pow 10 exponent.toNat) 1
  else Double.ofRatio negative coefficient (Nat.pow 10 (-exponent).toNat)

/-- An exponent with its letter, or nothing. -/
def exponentOf : List Char → Option Int
  | [] => some 0
  | c :: cs => if c = 'e' ∨ c = 'E' then integerOf cs else none

/-- A double in decimal notation, with digits before or after the point. -/
def floatOf (cs : List Char) : Option Double :=
  let (negative, cs) := signOf cs
  let whole := cs.takeWhile Char.isDigit
  let rest := cs.drop whole.length
  let (fraction, rest) := match rest with
    | '.' :: r => (r.takeWhile Char.isDigit, r.dropWhile Char.isDigit)
    | r => ([], r)
  let word := cs.map Char.toLower
  if word = "inf".toList ∨ word = "infinity".toList then some (Double.ofValue (.infinite negative))
  else if word = "nan".toList then
    some (if negative then (Double.ofValue .nan).neg else Double.ofValue .nan)
  else if whole.isEmpty && fraction.isEmpty then none
  else do
    let e ← exponentOf rest
    return decimalDouble negative (digitsValue (whole ++ fraction)) (e - fraction.length)

end TableService
