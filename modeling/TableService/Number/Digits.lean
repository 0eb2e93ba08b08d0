/-
  Natural numbers and bytes in digits.

  * `digitsText` spells a number, `paddedDigits` in a least length, and `wholeOf` reads one in a
    base of up to sixteen.
  * `hexadecimal` spells bytes in two digits each, and `bytesOfHexadecimal?` reads them.
-/

namespace TableService

/-- The digits of a number, without a sign. -/
def digitsText (n : Nat) : List Char := Nat.toDigits 10 n

/-- The digits of a number with zeros in front of them up to a length. -/
def paddedDigits (length n : Nat) : List Char :=
  List.replicate (length - (digitsText n).length) '0' ++ digitsText n

/-- A natural number read from digits, each taken as its code above `0`. -/
def digitsValue (cs : List Char) : Nat := cs.foldl (fun n c => 10 * n + (c.toNat - 48)) 0

/-- The value of a digit in a base of up to sixteen. -/
def digitValue? (base : Nat) (c : Char) : Option Nat :=
  let n := c.toNat
  let v? : Option Nat :=
    if 48 ≤ n ∧ n ≤ 57 then some (n - 48)
    else if 97 ≤ n ∧ n ≤ 102 then some (n - 87)
    else if 65 ≤ n ∧ n ≤ 70 then some (n - 55)
    else none
  v?.bind fun v => if v < base then some v else none

/-- The value of one or more digits in a base. -/
def wholeOf (base : Nat) (cs : List Char) : Option Nat :=
  if cs.isEmpty then none
  else cs.foldlM (fun n c => (digitValue? base c).map (base * n + ·)) 0

/-- The two digits of a byte. -/
def hexadecimalByte (b : UInt8) : List Char :=
  [Nat.digitChar (b.toNat / 16), Nat.digitChar (b.toNat % 16)]

/-- The digits of bytes, in lower case. -/
def hexadecimal (bytes : List UInt8) : List Char := bytes.flatMap hexadecimalByte

/-- The byte of two digits. -/
def byteOfHexadecimal? (high low : Char) : Option UInt8 := do
  return UInt8.ofNat (16 * (← digitValue? 16 high) + (← digitValue? 16 low))

/-- The bytes of an even number of digits. -/
def bytesOfHexadecimal? : List Char → Option (List UInt8)
  | [] => some []
  | [_] => none
  | high :: low :: cs => do
    return (← byteOfHexadecimal? high low) :: (← bytesOfHexadecimal? cs)

end TableService
