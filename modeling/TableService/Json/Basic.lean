/-
  JSON values.

  * An integer within the 64-bit ranges, signed or unsigned, is kept exactly; every other number
    is a finite double.  Both bounds are part of the type.
  * An object holds its members by ascending name, each name once; `Json.ofMembers` builds it
    from members in any order, the last of a repeated name winning.
-/
import TableService.Number.Double
import TableService.Record

namespace TableService

/-- A number of a JSON text. -/
inductive JsonNumber where
  /-- A whole number of 64 bits, with or without sign. -/
  | int (val : Int) (lower : -0x8000000000000000 ≤ val) (upper : val < 0x10000000000000000)
  /-- Any other number, rounded. -/
  | double (val : Double) (finite : val.isFinite = true)
  deriving DecidableEq, Repr

/-- A JSON value. -/
inductive Json where
  | null
  | bool (b : Bool)
  | number (n : JsonNumber)
  | string (s : String)
  | array (items : List Json)
  /-- Members by ascending name. -/
  | object (members : List (String × Json))
  deriving Inhabited, Repr

namespace Json

/-- The object with these members. -/
def ofMembers (members : List (String × Json)) : Json :=
  .object (Record.ofList members).entries

/-- A whole number, when it has 64 bits. -/
def ofInt? (i : Int) : Option Json :=
  if h : -0x8000000000000000 ≤ i ∧ i < 0x10000000000000000 then some (.number (.int i h.1 h.2))
  else none

/-- A number of 64 bits with sign. -/
def ofInt64 (i : Int64) : Json :=
  .number (.int i.toInt (by have := i.le_toInt; omega) (by have := i.toInt_lt; omega))

/-- A byte, as a number. -/
def ofByte (b : UInt8) : Json :=
  .number (.int b.toNat (by omega) (by have := b.toNat_lt; omega))

/-- A double; what is not finite has no JSON form and becomes `null`. -/
def ofDouble (x : Double) : Json :=
  if h : x.isFinite = true then .number (.double x h) else .null

/-- The list of the bytes. -/
def ofBytes (bytes : List UInt8) : Json := .array (bytes.map ofByte)

end Json

/-- A row: column names with their values. -/
abbrev Row := Record Json

end TableService
