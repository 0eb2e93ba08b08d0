/-
  Texts in which bytes are written as a percent sign with two hexadecimal digits.

  * `bytesOfPercent` gives the bytes; a percent sign without two digits stands for itself.
  * `ofPercent?` gives the text of the bytes, if they are one.
  * `percentEncoded` writes the characters with a property in this way.
-/
import TableService.Number.Digits

namespace TableService.Text

/-- The bytes of an encoded text. -/
def bytesOfPercent : List Char → List UInt8
  | [] => []
  | c :: cs =>
    match c, cs with
    | '%', high :: low :: rest =>
      match byteOfHexadecimal? high low with
      | some b => b :: bytesOfPercent rest
      | none => 0x25 :: bytesOfPercent (high :: low :: rest)
    | c, cs => (String.singleton c).toUTF8.toList ++ bytesOfPercent cs

/-- The text that is encoded, if it is one. -/
def ofPercent? (s : String) : Option String :=
  String.fromUTF8? ⟨(bytesOfPercent s.toList).toArray⟩

/-- A byte with its percent sign, the digits in upper case. -/
def percentByte (b : UInt8) : List Char := '%' :: (hexadecimalByte b).map Char.toUpper

/-- Encodes the characters with the property `p`, and all beyond ASCII. -/
def percentEncoded (p : Char → Bool) (cs : List Char) : List Char :=
  cs.flatMap fun c =>
    if p c || 0x7F ≤ c.toNat || c.toNat < 0x20 then
      (String.singleton c).toUTF8.toList.flatMap percentByte
    else [c]

end TableService.Text
