/-
  Binary floating-point formats, in exact arithmetic on natural numbers.

  A format has `precision` significant bits, and the unit of its last bit has the weight `2 ^ e`
  for `least ≤ e ≤ greatest`.  A finite value is `± significand * 2 ^ exponent`.

  * `round` gives the value nearest to a quotient, a tie going to the even significand, and
    infinity where the quotient is too large by half a unit or more.
  * `encode` and `decode` go between values and bit patterns.
-/

namespace TableService

/-- A binary interchange format. -/
structure BinaryFormat where
  precision : Nat
  least : Int
  greatest : Int

/-- What a bit pattern denotes. -/
inductive BinaryValue where
  /-- `± significand * 2 ^ exponent` -/
  | finite (negative : Bool) (significand : Nat) (exponent : Int)
  | infinite (negative : Bool)
  | nan
  deriving DecidableEq, Repr

/-- The format of 64 bits. -/
def binary64 : BinaryFormat := ⟨53, -1074, 971⟩

/-- The format of 32 bits. -/
def binary32 : BinaryFormat := ⟨24, -149, 104⟩

/-- The quotient rounded to the nearest whole number, a tie to the even one. -/
def roundDiv (num den : Nat) : Nat :=
  let q := num / den
  let r := num % den
  if 2 * r < den then q
  else if 2 * r > den then q + 1
  else if q % 2 = 0 then q else q + 1

/-- `num / den` as a pair after division by `2 ^ e`. -/
def unscale (num den : Nat) (e : Int) : Nat × Nat :=
  if 0 ≤ e then (num, den * Nat.pow 2 e.toNat) else (num * Nat.pow 2 (-e).toNat, den)

/-- `m * 2 ^ e` as a quotient. -/
def binaryRatio (m : Nat) (e : Int) : Nat × Nat :=
  if 0 ≤ e then (m * Nat.pow 2 e.toNat, 1) else (m, Nat.pow 2 (-e).toNat)

namespace BinaryFormat

variable (f : BinaryFormat)

/-- The exponent of the last bit when `num / den` is written with the full precision. -/
def unitExponent (num den : Nat) : Int :=
  let e : Int := (Nat.log2 num : Int) - Nat.log2 den - f.precision
  let (n, d) := unscale num den e
  let e := if Nat.pow 2 f.precision * d ≤ n then e + 1 else e
  max e f.least

/-- The value of the format nearest to `± num / den`. -/
def round (negative : Bool) (num den : Nat) : BinaryValue :=
  if num = 0 then .finite negative 0 f.least
  else
    let e := f.unitExponent num den
    let (n, d) := unscale num den e
    let m := roundDiv n d
    let (m, e) := if m = Nat.pow 2 f.precision then (m / 2, e + 1) else (m, e)
    if f.greatest < e then .infinite negative else .finite negative m e

/-- The number of exponent bits. -/
def exponentBits : Nat := Nat.log2 (f.greatest - f.least + 3).toNat

/-- The weight of the sign bit. -/
def signWeight : Nat := Nat.pow 2 (f.precision - 1 + f.exponentBits)

/-- The exponent field of infinities and of what is no number. -/
def topField : Nat := (f.greatest - f.least + 2).toNat

/-- The bit pattern of a value. -/
def encode : BinaryValue → Nat
  | .nan => f.topField * Nat.pow 2 (f.precision - 1) + Nat.pow 2 (f.precision - 2)
  | .infinite negative =>
    (if negative then f.signWeight else 0) + f.topField * Nat.pow 2 (f.precision - 1)
  | .finite negative m e =>
    (if negative then f.signWeight else 0) +
      (if m < Nat.pow 2 (f.precision - 1) then m
       else (e - f.least + 1).toNat * Nat.pow 2 (f.precision - 1) +
         (m - Nat.pow 2 (f.precision - 1)))

/-- The value of a bit pattern. -/
def decode (bits : Nat) : BinaryValue :=
  let negative := f.signWeight ≤ bits
  let field := bits % f.signWeight / Nat.pow 2 (f.precision - 1)
  let m := bits % Nat.pow 2 (f.precision - 1)
  if field = f.topField then (if m = 0 then .infinite negative else .nan)
  else if field = 0 then .finite negative m f.least
  else .finite negative (Nat.pow 2 (f.precision - 1) + m) (f.least + field - 1)

end BinaryFormat

end TableService
