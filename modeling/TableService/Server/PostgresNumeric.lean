/-
  Decimals in the binary form of PostgreSQL.

  A decimal is held in groups of four digits, of which the first has the weight
  `10000 ^ weight`, with a sign and the number of places that are shown.

  * `PostgresNumeric.ofDecimal` splits a decimal into groups; `PostgresNumeric.decimal?` puts the
    groups together and rounds to the places shown.
  * `PostgresNumeric.bytes` and `PostgresNumeric.ofBytes?` are the form on the wire.
-/
import TableService.Number.BigEndian
import TableService.Number.Decimal

namespace TableService

/-- A decimal in groups of four digits. -/
structure PostgresNumeric where
  groups : List Nat
  /-- The power of ten thousand that the first group counts. -/
  weight : Int
  negative : Bool
  /-- The places that are shown. -/
  places : Nat
  deriving DecidableEq, Repr

namespace PostgresNumeric

/-- The number in groups of four digits, the first not being zero. -/
def groupsOf (n : Nat) : List Nat :=
  if n = 0 then [] else groupsOf (n / 10000) ++ [n % 10000]
termination_by n
decreasing_by omega

/-- A list without the zeros at its end. -/
def dropLastZeros (l : List Nat) : List Nat := (l.reverse.dropWhile (· = 0)).reverse

/-- A decimal in groups; of zero nothing is left. -/
def ofDecimal (d : Decimal) : PostgresNumeric :=
  if d.coefficient = 0 then ⟨[], 0, false, 0⟩
  else
    let fractional := (d.scale + 3) / 4
    let groups := groupsOf (d.coefficient * Nat.pow 10 (4 * fractional - d.scale))
    let whole := groups.length - fractional
    { groups :=
        if fractional < groups.length then groups.take whole ++ dropLastZeros (groups.drop whole)
        else groups
      weight := (groups.length : Int) - fractional - 1
      negative := d.negative
      places := d.scale }

/-- The whole number that groups are, times a power of ten thousand. -/
def wholeOf? (groups : List Nat) (missing : Nat) : Option Decimal := do
  let d ← groups.foldlM (fun (d : Decimal) g => do
    Decimal.of? false ((← Decimal.of? false (d.coefficient * 10000) 0).coefficient + g) 0) .zero
  if d.coefficient = 0 then d else if missing ≤ 7 then d.shift? (4 * missing) else none

/-- Adds the groups after the point to a number, the first of them having `places` places; what is
beyond the twenty-eighth place is rounded off by the first group there. -/
def addFraction? : Decimal → Nat → List Nat → Option Decimal
  | d, _, [] => some d
  | d, places, g :: gs => do
    let part :=
      if places ≤ 28 then Decimal.of? false g places
      else if places = 32 ∧ 5000 ≤ g then Decimal.of? false 1 28
      else none
    match part with
    | some part => addFraction? (← d.add? part) (places + 4) gs
    | none => addFraction? d (places + 4) gs

/-- The decimal that the groups are, if it is one. -/
def decimal? (n : PostgresNumeric) : Option Decimal := do
  let whole := (n.weight + 1).toNat
  let start := (-n.weight - 1).toNat
  let d ← wholeOf? (n.groups.take whole) (whole - n.groups.length)
  let d ← addFraction? d (4 * (start + 1)) (n.groups.drop whole)
  return Decimal.round { d with negative := n.negative } n.places

/-- The mark of a negative number. -/
def negativeMark : Nat := 0x4000

/-- The mark of what is no number. -/
def nanMark : Nat := 0xC000

/-- The form on the wire. -/
def bytes (n : PostgresNumeric) : List UInt8 :=
  bigEndian 2 n.groups.length ++ bigEndian 2 n.weight ++
    bigEndian 2 (if n.negative then negativeMark else 0 : Nat) ++ bigEndian 2 n.places ++
    n.groups.flatMap fun (g : Nat) => bigEndian 2 g

/-- The next `count` words of two bytes. -/
def words? : Nat → List UInt8 → Option (List Nat)
  | 0, _ => some []
  | count + 1, high :: low :: rest => (words? count rest).map (unsigned [high, low] :: ·)
  | _ + 1, _ => none

/-- Reads the form on the wire. -/
def ofBytes? (raw : List UInt8) : Option PostgresNumeric := do
  match ← words? 4 raw with
  | [count, weight, sign, places] =>
    if sign = nanMark then none
    let groups ← words? count (raw.drop 8)
    return ⟨groups, signed (bytesOfNat 2 weight), sign = negativeMark, places⟩
  | _ => none

end PostgresNumeric

end TableService
