/-
  Cells: the values that a table of the embedded database holds.

  * `Cell.ofJson` and `Cell.json` carry values in and out.  A list or an object is held as its
    JSON text, a truth value as 0 or 1.
  * `Cell.order` compares cells: nothing, then numbers by value, then texts, then bytes.
  * `Cell.ofNumeral?` reads a text that is a number as a whole, and `Cell.textOf` writes a number
    as it is written where a text is wanted, with fifteen significant digits at most.
-/
import TableService.Json.Writer
import TableService.Number.Reading

namespace TableService.Store

/-- A value in a table. -/
inductive Cell where
  | null
  | integer (i : Int64)
  | real (x : Double)
  | text (s : String)
  | blob (bytes : List UInt8)
  deriving DecidableEq, Inhabited

namespace Cell

/-! ## Values from and to JSON -/

/-- A whole number; beyond the 64 bits with sign it is rounded. -/
def ofInt (i : Int) : Cell :=
  if -0x8000000000000000 ≤ i ∧ i < 0x8000000000000000 then .integer (Int64.ofInt i)
  else .real (Double.ofInt i)

/-- The cell for a JSON value. -/
def ofJson : Json → Cell
  | .null => .null
  | .bool b => .integer (if b then 1 else 0)
  | .number (.int i _ _) => ofInt i
  | .number (.double x _) => .real x
  | .string s => .text s
  | .array items => .text (Json.array items).render
  | .object members => .text (Json.object members).render

/-- The JSON value of a cell. -/
def json : Cell → Json
  | .null => .null
  | .integer i => .ofInt64 i
  | .real x => .ofDouble x
  | .text s => .string s
  | .blob bytes => .ofBytes bytes

/-! ## Order -/

/-- The place of the kinds among each other. -/
def rank : Cell → Nat
  | .null => 0
  | .integer _ | .real _ => 1
  | .text _ => 2
  | .blob _ => 3

/-- Compares two cells; cells of different kinds by the place of the kinds. -/
def order : Cell → Cell → Ordering
  | .integer i, .integer j => compare i.toInt j.toInt
  | .integer i, .real y => (y.compareInt i.toInt).swap
  | .real x, .integer j => x.compareInt j.toInt
  | .real x, .real y => x.compare y
  | .text s, .text t => compare s t
  | .blob a, .blob b => a.compareLex compare b
  | a, b => compare a.rank b.rank

/-- Neither is nothing, and they are equal. -/
def same (a b : Cell) : Bool := a != .null && b != .null && order a b == .eq

/-! ## Numbers in texts -/

/-- A blank around a number. -/
def isNumeralBlank (c : Char) : Bool :=
  c = ' ' || (0x09 ≤ c.toNat && c.toNat ≤ 0x0D)

/-- The number that a text is as a whole, blanks around it apart; only decimal notation counts. -/
def ofNumeral? (s : String) : Option Cell := do
  let cs := ((s.toList.dropWhile isNumeralBlank).reverse.dropWhile isNumeralBlank).reverse
  let (negative, unsigned) := signOf cs
  if unsigned.all Char.isDigit then
    (wholeOf 10 unsigned).map fun n => ofInt (if negative then -n else n)
  else if unsigned.any Char.isDigit && unsigned.head?.any fun c => c.isDigit || c == '.' then
    (floatOf cs).map .real
  else none

/-- The exponents between which a number with fifteen digits is written positionally. -/
def isPositional (exponent : Int) : Bool := -4 ≤ exponent && exponent ≤ 14

/-- Digits after the point, without zeros at the end but with one digit at least. -/
def fractionText (digits : List Char) : List Char :=
  match (digits.reverse.dropWhile (· == '0')).reverse with
  | [] => ['0']
  | ds => ds

/-- A positive decimal of at most fifteen digits. -/
def decimalText (s : Scientific) : List Char :=
  let digits := digitsText s.coefficient
  let exponent := s.exponent + digits.length - 1
  if isPositional exponent then
    if 0 ≤ exponent then
      digits.take (exponent.toNat + 1) ++ '.' :: fractionText (digits.drop (exponent.toNat + 1))
    else '0' :: '.' :: fractionText (Double.zeros (-exponent - 1).toNat ++ digits)
  else
    let size := digitsText exponent.natAbs
    digits.take 1 ++ '.' :: fractionText (digits.drop 1) ++
      'e' :: (if exponent < 0 then '-' else '+') ::
        (if size.length < 2 then '0' :: size else size)

/-- The text of a double with at most fifteen significant digits; zero has no sign. -/
def realText (x : Double) : List Char :=
  match x.value with
  | .finite negative significand exponent =>
    if significand = 0 then ['0', '.', '0']
    else
      let (num, den) := binaryRatio significand exponent
      let magnitude := decimalText (Double.significant num den 15)
      if negative then '-' :: magnitude else magnitude
  | .infinite negative => if negative then "-Inf".toList else "Inf".toList
  | .nan => []

/-- The text of a number, and any other cell unchanged. -/
def textOf : Cell → Cell
  | .integer i => .text (String.ofList (intText i.toInt))
  | .real x => .text (String.ofList (realText x))
  | c => c

/-- The number that a text is, and any other cell unchanged. -/
def numberOf : Cell → Cell
  | .text s => (ofNumeral? s).getD (.text s)
  | c => c

end Cell

end TableService.Store
