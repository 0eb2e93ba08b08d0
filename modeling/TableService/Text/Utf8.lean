/-
  Bytes as text in UTF-8.

  * `utf8Fault?` finds the first place where bytes are no text; `decoded` gives the text otherwise,
    and `readable` gives one in any case.
-/

namespace TableService.Text

/-- The first fault of bytes: how many come before it, and how many of those after them belong
together; none if they end too early. -/
structure Utf8Fault where
  before : Nat
  length : Option Nat
  deriving DecidableEq, Repr

/-- What is said of a fault. -/
def Utf8Fault.message (f : Utf8Fault) : String :=
  match f.length with
  | some n => s!"invalid utf-8 sequence of {n} bytes from index {f.before}"
  | none => s!"incomplete utf-8 byte sequence from index {f.before}"

/-- The least and the greatest of the bytes that may follow a first byte; none for a byte that
cannot be the first. -/
def followers? (b : UInt8) : Option (List (UInt8 × UInt8)) :=
  let any : UInt8 × UInt8 := (0x80, 0xBF)
  if b < 0x80 then some []
  else if b < 0xC2 then none
  else if b < 0xE0 then some [any]
  else if b = 0xE0 then some [(0xA0, 0xBF), any]
  else if b = 0xED then some [(0x80, 0x9F), any]
  else if b < 0xF0 then some [any, any]
  else if b = 0xF0 then some [(0x90, 0xBF), any, any]
  else if b < 0xF4 then some [any, any, any]
  else if b = 0xF4 then some [(0x80, 0x8F), any, any]
  else none

/-- What is wrong with the bytes after a first byte, of which so many have been seen. -/
def followFault? (seen : Nat) : List (UInt8 × UInt8) → List UInt8 → Option (Option Nat)
  | [], _ => none
  | _ :: _, [] => some none
  | (low, high) :: more, b :: bs =>
    if low ≤ b ∧ b ≤ high then followFault? (seen + 1) more bs else some (some seen)

/-- The first fault of bytes, with so many before them. -/
def utf8FaultFrom? (before : Nat) (bytes : List UInt8) : Option Utf8Fault :=
  match bytes with
  | [] => none
  | b :: bs =>
    match followers? b with
    | none => some ⟨before, some 1⟩
    | some ranges =>
      match followFault? 1 ranges bs with
      | some length => some ⟨before, length⟩
      | none => utf8FaultFrom? (before + 1 + ranges.length) (bs.drop ranges.length)
termination_by bytes.length
decreasing_by simp only [List.length_drop, List.length_cons]; omega

/-- The first fault of bytes. -/
def utf8Fault? (bytes : List UInt8) : Option Utf8Fault := utf8FaultFrom? 0 bytes

/-- The text of bytes that have no fault. -/
def sound (bytes : List UInt8) : String := (String.fromUTF8? ⟨bytes.toArray⟩).getD ""

/-- The text of bytes. -/
def decoded (bytes : List UInt8) : Except Utf8Fault String :=
  match utf8Fault? bytes with
  | some f => .error f
  | none => .ok (sound bytes)

/-- The text of bytes, with a replacement character for each fault. -/
def readable (bytes : List UInt8) : List Char :=
  match bytes with
  | [] => []
  | b :: bs =>
    match followers? b with
    | none => '\uFFFD' :: readable bs
    | some ranges =>
      match followFault? 1 ranges bs with
      | some (some n) => '\uFFFD' :: readable (bs.drop (n - 1))
      | some none => ['\uFFFD']
      | none => (sound (b :: bs.take ranges.length)).toList ++ readable (bs.drop ranges.length)
termination_by bytes.length
decreasing_by all_goals (simp only [List.length_drop, List.length_cons]; omega)

end TableService.Text
