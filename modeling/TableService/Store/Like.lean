/-
  Patterns: `%` stands for any characters and `_` for one.

  Letters of ASCII match in either case, all other characters only themselves.
-/
import TableService.Store.Cell

namespace TableService.Store

/-- A character as patterns see it; what is no character matches the replacement character. -/
def folded (c : Char) : Char :=
  if c = '\uFFFE' ∨ c = '\uFFFF' then '\uFFFD' else c.toLower

/-- The pattern matches the text. -/
def matchesPattern : List Char → List Char → Bool
  | [], text => text.isEmpty
  | '%' :: pattern, [] => matchesPattern pattern []
  | '%' :: pattern, c :: text => matchesPattern pattern (c :: text) || matchesPattern ('%' :: pattern) text
  | _ :: _, [] => false
  | p :: pattern, c :: text => (p = '_' || folded p = folded c) && matchesPattern pattern text

/-- The characters that a pattern is matched with; a text ends before its first NUL. -/
def Cell.likeText? : Cell → Option (List Char)
  | .null => none
  | .blob bytes =>
    some ((String.fromUTF8? ⟨bytes.toArray⟩).getD "" |>.toList.takeWhile (· ≠ '\x00'))
  | c =>
    match c.textOf with
    | .text s => some (s.toList.takeWhile (· ≠ '\x00'))
    | _ => none

/-- A cell is like a pattern; nothing is known when one of them is nothing. -/
def like (value pattern : Cell) : Option Bool := do
  return matchesPattern (← pattern.likeText?) (← value.likeText?)

end TableService.Store
