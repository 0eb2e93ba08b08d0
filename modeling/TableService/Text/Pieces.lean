/-
  Texts cut at a character.

  * `piecesAt` gives the pieces between the occurrences of a character; there is always one more
    than there are occurrences.
-/

namespace TableService.Text

/-- The pieces of a text between occurrences of a character. -/
def piecesAt (c : Char) : List Char → List (List Char)
  | [] => [[]]
  | d :: cs =>
    if d = c then [] :: piecesAt c cs
    else match piecesAt c cs with
      | [] => [[d]]
      | p :: ps => (d :: p) :: ps

theorem length_piecesAt (c : Char) (cs : List Char) :
    (piecesAt c cs).length = cs.count c + 1 := by
  induction cs with
  | nil => rfl
  | cons d cs ih =>
    by_cases h : d = c
    · simp [piecesAt, h, ih]
    · simp only [piecesAt, h, if_false]
      split
      · rename_i empty
        simp [empty] at ih
      · rename_i p ps more
        rw [more] at ih
        simp [h] at ih ⊢
        exact ih

end TableService.Text
