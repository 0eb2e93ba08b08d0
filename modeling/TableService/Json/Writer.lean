/-
  JSON text: without spaces, and every value with one text.

  * `Json.render` writes a value.  In a string only the quote, the backslash and the characters
    below the space are escaped.
  * A double is written with its shortest digits: in positional notation when its decimal exponent
    is from -5 to 15, with at least one digit after the point, and otherwise with one digit
    before the point and an exponent with a sign when it is positive (`1e-6`, `1.5e+300`).
-/
import TableService.Json.Basic
import TableService.Number.Shortest

namespace TableService

/-- The text of an integer. -/
def intText (i : Int) : List Char :=
  if i < 0 then '-' :: digitsText i.natAbs else digitsText i.natAbs

namespace Double

/-- A run of zeros. -/
def zeros (n : Nat) : List Char := List.replicate n '0'

/-- Positional notation ends above and below these decimal exponents. -/
def isPositional (exponent : Int) : Bool := -5 ≤ exponent && exponent ≤ 15

/-- A positive decimal in the notation that its exponent calls for. -/
def scientificText (s : Scientific) : List Char :=
  let digits := digitsText s.coefficient
  let exponent := s.exponent + digits.length - 1
  if isPositional exponent then
    if 0 ≤ s.exponent then digits ++ zeros s.exponent.toNat ++ ['.', '0']
    else if 0 ≤ exponent then
      digits.take (exponent.toNat + 1) ++ '.' :: digits.drop (exponent.toNat + 1)
    else '0' :: '.' :: zeros (-exponent - 1).toNat ++ digits
  else
    let fraction := digits.drop 1
    digits.take 1 ++ (if fraction.isEmpty then [] else '.' :: fraction) ++
      'e' :: (if exponent < 0 then intText exponent else '+' :: intText exponent)

/-- The text of a double; `null` stands for what has no decimal text. -/
def jsonText (x : Double) : List Char :=
  match x.value with
  | .finite negative significand exponent =>
    let magnitude :=
      if significand = 0 then ['0', '.', '0'] else scientificText (shortest significand exponent)
    if negative then '-' :: magnitude else magnitude
  | _ => ['n', 'u', 'l', 'l']

end Double

/-- The text of a number. -/
def JsonNumber.text : JsonNumber → List Char
  | .int i _ _ => intText i
  | .double x _ => x.jsonText

namespace Json

/-- A character inside a string. -/
def escapedChar (c : Char) : List Char :=
  if c = '"' then ['\\', '"']
  else if c = '\\' then ['\\', '\\']
  else if c = '\n' then ['\\', 'n']
  else if c = '\r' then ['\\', 'r']
  else if c = '\t' then ['\\', 't']
  else if c.toNat = 8 then ['\\', 'b']
  else if c.toNat = 12 then ['\\', 'f']
  else if c.toNat < 32 then
    ['\\', 'u', '0', '0', Nat.digitChar (c.toNat / 16), Nat.digitChar (c.toNat % 16)]
  else [c]

/-- The text of a string, between quotes. -/
def stringText (s : String) : List Char := '"' :: s.toList.flatMap escapedChar ++ ['"']

/-- Texts with a comma between each two. -/
def commaJoin : List (List Char) → List Char
  | [] => []
  | [t] => t
  | t :: ts => t ++ ',' :: commaJoin ts

mutual

/-- The characters of the text of a value. -/
def chars : Json → List Char
  | .null => "null".toList
  | .bool true => "true".toList
  | .bool false => "false".toList
  | .number n => n.text
  | .string s => stringText s
  | .array items => '[' :: commaJoin (itemChars items) ++ [']']
  | .object members => '\x7b' :: commaJoin (memberChars members) ++ ['\x7d']

/-- The texts of list items. -/
def itemChars : List Json → List (List Char)
  | [] => []
  | v :: vs => v.chars :: itemChars vs

/-- The texts of members. -/
def memberChars : List (String × Json) → List (List Char)
  | [] => []
  | (name, v) :: ms => (stringText name ++ ':' :: v.chars) :: memberChars ms

end

/-- The text of a value. -/
def render (v : Json) : String := String.ofList v.chars

/-- The text of an object whose members keep the order given. -/
def renderMembers (members : List (String × Json)) : String := (Json.object members).render

end Json

/-- The text of a row. -/
def Row.render (r : Row) : String := (Json.object r.entries).render

end TableService
