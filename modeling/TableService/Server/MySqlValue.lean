/-
  JSON values as values of MySQL, and back.

  * `MySqlValue.ofJson` is the value of a parameter: a list or an object is sent as its JSON text,
    a truth value as 0 or 1.
  * `MySqlValue.json` is the JSON value of a column: bytes that are text become a string, other
    bytes the list of them; moments and times become text, in whole seconds.
-/
import TableService.Json.Writer

namespace TableService

/-- A value as it is exchanged with a server. -/
inductive MySqlValue where
  | null
  | int (i : Int64)
  | uint (n : UInt64)
  | single (bits : UInt32)
  | double (x : Double)
  | bytes (raw : List UInt8)
  | datetime (year : UInt16) (month day hour minute second : UInt8) (micros : UInt32)
  | time (negative : Bool) (days : UInt32) (hours minutes seconds : UInt8) (micros : UInt32)
  deriving DecidableEq

namespace MySqlValue

/-- A text as its bytes. -/
def ofText (s : String) : MySqlValue := .bytes s.toUTF8.toList

/-- A whole number, with a sign if it fits. -/
def ofInt (i : Int) : MySqlValue :=
  if i < 0x8000000000000000 then .int (Int64.ofInt i) else .uint i.toNat.toUInt64

/-- The value of a parameter. -/
def ofJson : Json → MySqlValue
  | .null => .null
  | .bool b => .int (if b then 1 else 0)
  | .number (.int i _ _) => ofInt i
  | .number (.double x _) => .double x
  | .string s => ofText s
  | .array items => ofText (Json.array items).render
  | .object members => ofText (Json.object members).render

/-- Numbers of at least two digits with a colon between each two. -/
def clock (hours : List Char) (minutes seconds : UInt8) : List Char :=
  hours ++ ':' :: paddedDigits 2 minutes.toNat ++ ':' :: paddedDigits 2 seconds.toNat

/-- The JSON value of a column. -/
def json : MySqlValue → Json
  | .null => .null
  | .int i => .ofInt64 i
  | .uint n => .number (.int n.toNat (by omega) (by have := n.toNat_lt; omega))
  | .single bits => .ofDouble (.ofSingleBits bits.toNat)
  | .double x => .ofDouble x
  | .bytes raw => match String.fromUTF8? ⟨raw.toArray⟩ with
    | some s => .string s
    | none => .ofBytes raw
  | .datetime year month day hour minute second _ =>
    .string (String.ofList (paddedDigits 4 year.toNat ++ '-' :: paddedDigits 2 month.toNat ++
      '-' :: paddedDigits 2 day.toNat ++ ' ' :: clock (paddedDigits 2 hour.toNat) minute second))
  | .time negative days hours minutes seconds _ =>
    .string (String.ofList ((if negative then ['-'] else []) ++
      clock (digitsText (24 * days.toNat + hours.toNat)) minutes seconds))

end MySqlValue

end TableService
