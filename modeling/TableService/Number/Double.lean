/-
  Double-precision numbers, held as their bit pattern, with exactly rounded arithmetic.

  * `Double.ofRatio` rounds a quotient; products and quotients of doubles are built on it.
  * `Double.compareInt` and `Double.compare` compare by value, without rounding.
  * `Double.toInt?` is the whole number that a double denotes, if it denotes one.
-/
import TableService.Number.Binary

namespace TableService

/-- A number of the 64-bit format. -/
structure Double where
  bits : UInt64
  deriving DecidableEq, Repr

namespace Double

/-- What the number denotes. -/
def value (x : Double) : BinaryValue := binary64.decode x.bits.toNat

/-- The number with the given value. -/
def ofValue (v : BinaryValue) : Double := ⟨(binary64.encode v).toUInt64⟩

/-- The number nearest to `± num / den`. -/
def ofRatio (negative : Bool) (num den : Nat) : Double :=
  ofValue (binary64.round negative num den)

/-- The number nearest to a whole number. -/
def ofInt (i : Int) : Double := ofRatio (i < 0) i.natAbs 1

/-- Zero, without a sign. -/
def zero : Double := ⟨0⟩

instance : Inhabited Double := ⟨zero⟩

/-- Neither infinite nor without a value. -/
def isFinite (x : Double) : Bool :=
  match x.value with
  | .finite .. => true
  | _ => false

/-- The sign bit is set. -/
def isNegative (x : Double) : Bool :=
  match x.value with
  | .finite s _ _ | .infinite s => s
  | .nan => false

/-- Zero of either sign. -/
def isZero (x : Double) : Bool :=
  match x.value with
  | .finite _ 0 _ => true
  | _ => false

/-- The other sign. -/
def neg (x : Double) : Double := ⟨x.bits ^^^ 0x8000000000000000⟩

/-- The sign and the magnitude as a quotient, of a finite number. -/
def ratio? (x : Double) : Option (Bool × Nat × Nat) :=
  match x.value with
  | .finite s m e => some (s, binaryRatio m e)
  | _ => none

/-- The product of finite numbers, rounded. -/
def mul (x y : Double) : Double :=
  match x.ratio?, y.ratio? with
  | some (s, n, d), some (t, p, q) => ofRatio (s != t) (n * p) (d * q)
  | _, _ => ofValue .nan

/-- The quotient of finite numbers, rounded; the divisor is not zero. -/
def div (x y : Double) : Double :=
  match x.ratio?, y.ratio? with
  | some (s, n, d), some (t, p, q) => ofRatio (s != t) (n * q) (d * p)
  | _, _ => ofValue .nan

/-- The signed numerator over the denominator, of a finite number. -/
def signedRatio? (x : Double) : Option (Int × Nat) :=
  x.ratio?.map fun (s, n, d) => (if s then -(n : Int) else n, d)

/-- Compares by value; a number without a value is below all others. -/
def compare (x y : Double) : Ordering :=
  match x.value, y.value with
  | .nan, .nan => .eq
  | .nan, _ => .lt
  | _, .nan => .gt
  | .infinite s, .infinite t => if s = t then .eq else if s then .lt else .gt
  | .infinite s, _ => if s then .lt else .gt
  | _, .infinite t => if t then .gt else .lt
  | .finite s m e, .finite t k g =>
    let (n, d) := binaryRatio m e
    let (p, q) := binaryRatio k g
    Ord.compare ((if s then -(n : Int) else n) * q) ((if t then -(p : Int) else p) * d)

/-- Compares with a whole number by value. -/
def compareInt (x : Double) (i : Int) : Ordering :=
  match x.value with
  | .nan => .lt
  | .infinite s => if s then .lt else .gt
  | .finite s m e =>
    let (n, d) := binaryRatio m e
    Ord.compare (if s then -(n : Int) else (n : Int)) (i * d)

/-- The whole number that `x` denotes. -/
def toInt? (x : Double) : Option Int := do
  let (n, d) ← x.signedRatio?
  if n.natAbs % d = 0 then some (n / d) else none

/-- The whole number nearest to a finite number, a tie going away from zero. -/
def roundAway (x : Double) : Option Int := do
  let (s, n, d) ← x.ratio?
  let m : Int := (2 * n + d) / (2 * d)
  some (if s then -m else m)

/-- The single-precision bit pattern nearest to the number; what is no number keeps its sign. -/
def toSingleBits (x : Double) : Nat :=
  match x.value with
  | .finite s m e =>
    let (n, d) := binaryRatio m e
    binary32.encode (binary32.round s n d)
  | .infinite s => binary32.encode (.infinite s)
  | .nan =>
    (if binary64.signWeight ≤ x.bits.toNat then binary32.signWeight else 0) + binary32.encode .nan

/-- The number that a single-precision bit pattern denotes. -/
def ofSingleBits (bits : Nat) : Double :=
  match binary32.decode bits with
  | .finite s m e =>
    let (n, d) := binaryRatio m e
    ofRatio s n d
  | v => ofValue v

end Double

end TableService
