/-
  JSON values as values of PostgreSQL in their binary form, and back.

  * `PostgresType.encode?` gives the bytes of a parameter for the type that the server wants; there
    are none where the value has no form in the type.
  * `PostgresType.decode?` gives the JSON value of a column; there is none for bytes that are no
    value of the type.
-/
import TableService.Calendar.Reading
import TableService.Json.Shape
import TableService.Json.Writer
import TableService.Server.PostgresNumeric
import TableService.Server.PostgresType
import TableService.Uuid

namespace TableService

/-- A value on the wire; none stands for the absence of one. -/
abbrev PostgresWire := Option (List UInt8)

namespace PostgresType

/-! ## Parameters -/

/-- The text of a string without blanks at its ends. -/
def trimmed? : Json → Option (List Char)
  | .string s => some (Text.stripBoth Text.isBlank s.toList)
  | _ => none

/-- A whole number of 64 bits. -/
def long? (i : Int) : Option Int :=
  if -0x8000000000000000 ≤ i ∧ i < 0x8000000000000000 then some i else none

/-- The whole number that a value stands for. -/
def integerOf? : Json → Option Int
  | .bool b => some (if b then 1 else 0)
  | .number (.int i _ _) => long? i
  | .string s => do long? (← integerOf (← trimmed? (.string s)))
  | _ => none

/-- The bytes of a whole number, if it is in the range of a width. -/
def integerBytes? (width : Nat) (i : Int) : Option (List UInt8) :=
  if -(Nat.pow 256 width : Nat) ≤ 2 * i ∧ 2 * i < (Nat.pow 256 width : Nat) then
    some (bigEndian width i)
  else none

/-- The double that a value stands for. -/
def doubleOf? : Json → Option Double
  | .number (.int i _ _) => some (Double.ofInt i)
  | .number (.double x _) => some x
  | .string s => do floatOf (← trimmed? (.string s))
  | _ => none

/-- The decimal that a value stands for; a number is taken as it is written. -/
def decimalOf? : Json → Option Decimal
  | .number n => ofNumeral (Json.number n).render.toList
  | .string s => do ofNumeral (← trimmed? (.string s))
  | _ => none
where
  /-- Reads a decimal with or without a power of ten. -/
  ofNumeral (cs : List Char) : Option Decimal := Decimal.ofText? cs <|> Decimal.ofScientific? cs

/-- The truth value that a value stands for. -/
def boolOf? : Json → Option Bool
  | .bool b => some b
  | .number (.int i _ _) => some (((long? i).getD 0) != 0)
  | .number (.double _ _) => some false
  | .string s => if s = "true" then some true else if s = "false" then some false else none
  | _ => none

/-- A byte among the items of a list. -/
def byteOf? : Json → Option UInt8
  | .number (.int i _ _) => if 0 ≤ i ∧ i < 256 then some (UInt8.ofNat i.toNat) else none
  | _ => none

/-- The bytes that a value stands for. -/
def bytesOf? : Json → Option (List UInt8)
  | .string s => some s.toUTF8.toList
  | .array items => items.mapM byteOf?
  | _ => none

/-- The moment that a text says, in nanoseconds; without an offset it is in universal time. -/
def timestampOf? (cs : List Char) : Option Int :=
  Calendar.zonedOf cs <|>
    Calendar.momentOf Calendar.Reader.blanks cs <|>
    Calendar.momentOf (Calendar.Reader.char 'T') cs

/-- The moment that a text with or without an offset says. -/
def zonedTimestampOf? (cs : List Char) : Option Int := Calendar.zonedOf cs <|> timestampOf? cs

/-- The text that a value is held as. -/
def textOf : Json → String
  | .string s => s
  | v => v.render

/-- The bytes of a moment in nanoseconds, that are sent as microseconds. -/
def momentBytes (nanos : Int) : List UInt8 := bigEndian 8 (Calendar.microseconds nanos)

/-- The bytes of a value that is not null. -/
def bytes? (t : PostgresType) (v : Json) : Option (List UInt8) :=
  match t with
  | .json => some v.render.toUTF8.toList
  | .jsonb => some (1 :: v.render.toUTF8.toList)
  | .bool => (boolOf? v).map fun b => [if b then 1 else 0]
  | .int2 => do integerBytes? 2 (← integerOf? v)
  | .int4 => do integerBytes? 4 (← integerOf? v)
  | .int8 => do integerBytes? 8 (← integerOf? v)
  | .float4 => (doubleOf? v).map fun x => bigEndian 4 x.toSingleBits
  | .float8 => (doubleOf? v).map fun x => bigEndian 8 x.bits.toNat
  | .bytea => bytesOf? v
  | .numeric => (decimalOf? v).map fun d => (PostgresNumeric.ofDecimal d).bytes
  | .timestamp => do return momentBytes (← timestampOf? (← trimmed? v))
  | .timestamptz => do return momentBytes (← zonedTimestampOf? (← trimmed? v))
  | .date => do return bigEndian 4 (← Calendar.dateOf (← trimmed? v)).days
  | .time => do return momentBytes (← Calendar.clockOf (← trimmed? v))
  | .uuid => do return (← Uuid.ofText? (← trimmed? v)).bytes
  | .text => some (textOf v).toUTF8.toList
  | .other => none

/-- The form of a parameter on the wire. -/
def encode? (t : PostgresType) : Json → Option PostgresWire
  | .null => some none
  | v => (t.bytes? v).map some

/-! ## Columns -/

/-- The whole number of bytes of a width. -/
def integerJson? (width : Nat) (raw : List UInt8) : Option Json :=
  if raw.length = width then Json.ofInt? (signed raw) else none

/-- A decimal as a number, if a number is written like it, and else as a string. -/
def decimalJson (d : Decimal) : Json :=
  let text := String.ofList d.normalize.text
  match Json.parse text with
  | .ok (.number n) => if (Json.number n).render = text then .number n else .string text
  | _ => .string text

/-- The moment of eight bytes, if its year is kept. -/
def moment? (raw : List UInt8) : Option Int :=
  if raw.length = 8 ∧ (Calendar.momentDate (signed raw)).isKept then some (signed raw) else none

/-- The date of four bytes, if its year is kept. -/
def date? (raw : List UInt8) : Option Calendar.Date :=
  if raw.length = 4 ∧ (Calendar.Date.ofDays (signed raw)).isKept then
    some (Calendar.Date.ofDays (signed raw))
  else none

/-- A text as JSON. -/
def stringJson (cs : List Char) : Json := .string (String.ofList cs)

/-- The text of bytes. -/
def text? (raw : List UInt8) : Option String := String.fromUTF8? ⟨raw.toArray⟩

/-- The JSON value in bytes. -/
def document? (raw : List UInt8) : Option Json := do (Json.parse (← text? raw)).toOption

/-- The JSON value of bytes. -/
def decode? (t : PostgresType) (raw : List UInt8) : Option Json :=
  match t with
  | .int2 => integerJson? 2 raw
  | .int4 => integerJson? 4 raw
  | .int8 => integerJson? 8 raw
  | .float4 => if raw.length = 4 then some (.ofDouble (.ofSingleBits (unsigned raw))) else none
  | .float8 => if raw.length = 8 then some (.ofDouble ⟨(unsigned raw).toUInt64⟩) else none
  | .bool => if raw.length = 1 then some (.bool (unsigned raw != 0)) else none
  | .bytea => some (.ofBytes raw)
  | .json => document? raw
  | .jsonb => match raw with
    | 1 :: rest => document? rest
    | _ => none
  | .numeric => do return decimalJson (← (← PostgresNumeric.ofBytes? raw).decimal?)
  | .timestamp => do return stringJson (Calendar.momentText ' ' (← moment? raw))
  | .timestamptz =>
    do return stringJson (Calendar.momentText 'T' (← moment? raw) ++ "+00:00".toList)
  | .date => do return stringJson (← date? raw).text
  | .time =>
    if raw.length = 8 then
      some (stringJson (Calendar.clockText (Calendar.momentClock (signed raw))))
    else none
  | .uuid => do return stringJson (← Uuid.ofBytes? raw).text
  | .text => (text? raw).map .string
  | .other => none

/-- The JSON value of a column; nothing and what cannot be decoded are null. -/
def columnJson (t : PostgresType) (v : PostgresWire) : Json := (v.bind t.decode?).getD .null

end PostgresType

end TableService
