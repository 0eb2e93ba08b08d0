/-
  Positions in a YAML text.

  * A `Cursor` is what is left of a text, with the line, the column and the number of characters
    before it.
  * A line ends at a line feed, a carriage return or both, the next-line control, or a line or
    paragraph separator; the last two are kept in texts, the others count as a line feed.
-/

namespace TableService.Yaml

/-- A position in a text. -/
structure Cursor where
  rest : List Char
  line : Nat
  column : Nat
  index : Nat

/-- A line ends here. -/
def isBreak (c : Char) : Bool :=
  c = '\r' || c = '\n' || c.toNat = 0x85 || c.toNat = 0x2028 || c.toNat = 0x2029

/-- A space or a tab. -/
def isBlank (c : Char) : Bool := c = ' ' || c = '\t'

/-- A character that may stand in a YAML text. -/
def isAllowed (c : Char) : Bool :=
  let n := c.toNat
  n = 0x9 || n = 0xA || n = 0xD || (0x20 ≤ n && n ≤ 0x7E) || n = 0x85 ||
    (0xA0 ≤ n && n ≤ 0xD7FF) || (0xE000 ≤ n && n ≤ 0xFFFD && n ≠ 0xFEFF) || 0x10000 ≤ n

/-- The text ends here, or a blank or the end of the line comes next. -/
def blankOrEnd : List Char → Bool
  | [] => true
  | c :: _ => isBlank c || isBreak c

/-- The text or the line ends here. -/
def breakOrEnd : List Char → Bool
  | [] => true
  | c :: _ => isBreak c

namespace Cursor

/-- The start of a text. -/
def start (cs : List Char) : Cursor := ⟨cs, 0, 0, 0⟩

/-- Goes over `n` characters within a line. -/
def skip (c : Cursor) (n : Nat) : Cursor :=
  ⟨c.rest.drop n, c.line, c.column + n, c.index + n⟩

/-- The characters with a property at the position, and the position after them. -/
def span (c : Cursor) (p : Char → Bool) : List Char × Cursor :=
  let taken := c.rest.takeWhile p
  (taken, c.skip taken.length)

/-- Goes over the end of a line, of `n` characters. -/
def newLine (c : Cursor) (n : Nat) : Cursor := ⟨c.rest.drop n, c.line + 1, 0, c.index + n⟩

/-- The end of the line at the position, as it is kept in texts, and the start of the next. -/
def break? (c : Cursor) : Option (Char × Cursor) :=
  match c.rest with
  | '\r' :: '\n' :: _ => some ('\n', c.newLine 2)
  | x :: _ =>
    if x.toNat = 0x2028 ∨ x.toNat = 0x2029 then some (x, c.newLine 1)
    else if isBreak x then some ('\n', c.newLine 1)
    else none
  | [] => none

theorem break?_shorter {c d : Cursor} {x : Char} (h : c.break? = some (x, d)) :
    d.rest.length < c.rest.length := by
  unfold break? at h
  split at h
  · rename_i eq
    simp only [Option.some.injEq, Prod.mk.injEq] at h
    rw [← h.2, eq]
    simp only [newLine, eq, List.length_drop, List.length_cons]
    omega
  · rename_i eq
    split at h
    · simp only [Option.some.injEq, Prod.mk.injEq] at h
      simp only [← h.2, newLine, eq, List.length_drop, List.length_cons]
      omega
    · split at h
      · simp only [Option.some.injEq, Prod.mk.injEq] at h
        simp only [← h.2, newLine, eq, List.length_drop, List.length_cons]
        omega
      · simp at h
  · simp at h

/-- At the start of a line with a marker of three characters, followed by a blank or the end. -/
def atMarker (c : Cursor) (mark : Char) : Bool :=
  c.column == 0 && c.rest.take 3 == [mark, mark, mark] && blankOrEnd (c.rest.drop 3)

/-- At the marker of a start or an end of a document. -/
def atDocumentMarker (c : Cursor) : Bool := c.atMarker '-' || c.atMarker '.'

end Cursor

end TableService.Yaml
