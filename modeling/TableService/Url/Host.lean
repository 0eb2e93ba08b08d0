/-
  Hosts of URLs.

  * `Host.ofOpaque` reads the host of a URL whose scheme says nothing about hosts: an address in
    brackets, or a name that is kept as it is.
  * `ipv6Of?` reads an address of eight pieces, of which a run of zeros may be left out once and
    the last two may be written as four decimal numbers; `ipv6Text` leaves out the longest run.
-/
import TableService.Text.Percent
import TableService.Text.Pieces

namespace TableService

/-- Why a text is no URL. -/
inductive UrlFault where
  | relative
  | emptyHost
  | port
  | ipv6
  | domainCharacter
  deriving DecidableEq, Repr

/-- What is said of a fault. -/
def UrlFault.message : UrlFault → String
  | .relative => "relative URL without a base"
  | .emptyHost => "empty host"
  | .port => "invalid port number"
  | .ipv6 => "invalid IPv6 address"
  | .domainCharacter => "invalid domain character"

namespace Url

/-- A host. -/
inductive Host where
  | name (s : String)
  /-- Eight pieces of two bytes. -/
  | ipv6 (pieces : List Nat)
  deriving DecidableEq, Repr

/-! ## Addresses in brackets -/

/-- A decimal number of a byte, without leading zeros. -/
def byteNumber? (cs : List Char) : Option Nat := do
  if 1 < cs.length ∧ cs.head? = some '0' then none
  let n ← wholeOf 10 cs
  if n < 256 then some n else none

/-- Four decimal numbers as two pieces. -/
def ipv4Pieces? (cs : List Char) : Option (List Nat) := do
  match ← (Text.piecesAt '.' cs).mapM byteNumber? with
  | [a, b, c, d] => some [256 * a + b, 256 * c + d]
  | _ => none

/-- A piece of up to four digits. -/
def ipv6Piece? (cs : List Char) : Option Nat := if cs.length ≤ 4 then wholeOf 16 cs else none

/-- Pieces with colons between them, the last one possibly as four decimal numbers. -/
def ipv6Pieces? (decimal : Bool) : List (List Char) → Option (List Nat)
  | [] => some []
  | [p] => if decimal && p.contains '.' then ipv4Pieces? p else (ipv6Piece? p).map ([·])
  | p :: ps => do return (← ipv6Piece? p) :: (← ipv6Pieces? decimal ps)

/-- What stands before and after two colons in a row. -/
def splitAtDouble : List Char → Option (List Char × List Char)
  | ':' :: ':' :: cs => some ([], cs)
  | c :: cs => (splitAtDouble cs).map fun (a, b) => (c :: a, b)
  | [] => none

/-- Pieces of a text that may be empty. -/
def piecesOf? (decimal : Bool) (cs : List Char) : Option (List Nat) :=
  if cs.isEmpty then some [] else ipv6Pieces? decimal (Text.piecesAt ':' cs)

/-- Reads an address of eight pieces. -/
def ipv6Of? (cs : List Char) : Option (List Nat) := do
  match splitAtDouble cs with
  | none =>
    let ps ← piecesOf? true cs
    if ps.length = 8 then some ps else none
  | some (a, b) =>
    let left ← piecesOf? false a
    let right ← piecesOf? true b
    if left.length + right.length ≤ 7 then
      some (left ++ List.replicate (8 - left.length - right.length) 0 ++ right)
    else none

/-- The length of the run of zeros at the front. -/
def zeroRun (ps : List Nat) : Nat := (ps.takeWhile (· = 0)).length

/-- The place of the first of the longest runs of zeros, of two pieces or more. -/
def longestRun (ps : List Nat) : Option Nat :=
  let runs := (List.range ps.length).map fun i => zeroRun (ps.drop i)
  let longest := runs.foldl max 0
  if longest < 2 then none else runs.findIdx? (· = longest)

/-- Pieces with colons between them. -/
def pieceTexts (ps : List Nat) : List Char :=
  (":".intercalate (ps.map fun p => String.ofList (Nat.toDigits 16 p))).toList

/-- The text of an address. -/
def ipv6Text (ps : List Nat) : List Char :=
  match longestRun ps with
  | none => pieceTexts ps
  | some i =>
    pieceTexts (ps.take i) ++ "::".toList ++ pieceTexts (ps.drop (i + zeroRun (ps.drop i)))

/-! ## Names -/

/-- A character that no host has. -/
def isForbidden (c : Char) : Bool :=
  c.toNat = 0 || "\t\n\r #/:<>?@[\\]^|".toList.contains c

namespace Host

/-- Reads an address in brackets. -/
def ofBrackets (cs : List Char) : Except UrlFault Host :=
  if cs.getLast? = some ']' then
    match ipv6Of? (cs.drop 1).dropLast with
    | some ps => .ok (.ipv6 ps)
    | none => .error .ipv6
  else .error .ipv6

/-- Reads a host of which the scheme says nothing. -/
def ofOpaque (cs : List Char) : Except UrlFault Host :=
  if cs.head? = some '[' then ofBrackets cs
  else if cs.any isForbidden then .error .domainCharacter
  else .ok (.name (String.ofList (Text.percentEncoded (fun _ => false) cs)))

/-- Reads a host that is a domain. -/
def ofDomain (cs : List Char) : Except UrlFault Host :=
  if cs.head? = some '[' then ofBrackets cs
  else if cs.isEmpty then .error .emptyHost
  else .ok (.name (String.ofList (cs.map Char.toLower)))

end Host

end Url

end TableService
