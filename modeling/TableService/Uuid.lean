/-
  Universally unique identifiers.

  * A `Uuid` is sixteen bytes.
  * `Uuid.text` writes them in five groups with hyphens between; `Uuid.ofText?` reads that form,
    also in braces or as a URN, and the digits without hyphens.
-/
import TableService.Number.Digits

namespace TableService

/-- A universally unique identifier. -/
structure Uuid where
  bytes : List UInt8
  length_bytes : bytes.length = 16
  deriving DecidableEq, Repr

namespace Uuid

/-- The identifier of sixteen bytes. -/
def ofBytes? (bytes : List UInt8) : Option Uuid :=
  if h : bytes.length = 16 then some ⟨bytes, h⟩ else none

/-- The digits in groups with hyphens between. -/
def text (u : Uuid) : List Char :=
  let ds := hexadecimal u.bytes
  ds.take 8 ++ '-' :: (ds.drop 8).take 4 ++ '-' :: (ds.drop 12).take 4 ++
    '-' :: (ds.drop 16).take 4 ++ '-' :: ds.drop 20

/-- The digits of a text in groups, if the hyphens are in their places. -/
def ungrouped? (cs : List Char) : Option (List Char) :=
  if cs.length = 36 ∧ [8, 13, 18, 23].all (fun i => cs[i]? = some '-') then
    some (cs.take 8 ++ (cs.drop 9).take 4 ++ (cs.drop 14).take 4 ++ (cs.drop 19).take 4 ++
      cs.drop 24)
  else none

/-- What stands before the groups in a URN. -/
def urn : List Char := "urn:uuid:".toList

/-- The digits of a text in any of its forms. -/
def digitsOf? (cs : List Char) : Option (List Char) :=
  if cs.length = 32 then some cs
  else if cs.length = 38 ∧ cs.head? = some '\x7b' ∧ cs.getLast? = some '\x7d' then
    ungrouped? ((cs.drop 1).take 36)
  else if cs.length = 45 ∧ urn.isPrefixOf cs then ungrouped? (cs.drop 9)
  else ungrouped? cs

/-- Reads an identifier in any of its forms. -/
def ofText? (cs : List Char) : Option Uuid := do
  ofBytes? (← bytesOfHexadecimal? (← digitsOf? cs))

end Uuid

end TableService
