/-
  Blank characters, and texts cut at them.

  * `isBlank` is the property White_Space of Unicode.
  * `trim` drops blanks at both ends; `words` are the maximal runs of other characters, so no
    word is empty and none holds a blank.
-/

namespace TableService.Text

/-- Ranges of blank characters, both ends included. -/
def blankRanges : List (Nat × Nat) :=
  [(0x9, 0xD), (0x20, 0x20), (0x85, 0x85), (0xA0, 0xA0), (0x1680, 0x1680), (0x2000, 0x200A),
    (0x2028, 0x2029), (0x202F, 0x202F), (0x205F, 0x205F), (0x3000, 0x3000)]

/-- The character is white space. -/
def isBlank (c : Char) : Bool :=
  blankRanges.any fun (first, last) => first ≤ c.toNat && c.toNat ≤ last

/-- Drops leading characters with the property `p`, and trailing ones. -/
def stripBoth (p : Char → Bool) (cs : List Char) : List Char :=
  ((cs.dropWhile p).reverse.dropWhile p).reverse

/-- The text without blanks at its ends. -/
def trim (s : String) : String := String.ofList (stripBoth isBlank s.toList)

/-- The words of a list of characters. -/
def wordsOf : List Char → List (List Char)
  | [] => []
  | c :: cs =>
    if isBlank c then wordsOf cs
    else match cs with
      | [] => [[c]]
      | d :: _ =>
        if isBlank d then [c] :: wordsOf cs
        else match wordsOf cs with
          | [] => [[c]]
          | w :: ws => (c :: w) :: ws

/-- The words of a text, in order. -/
def words (s : String) : List String := (wordsOf s.toList).map String.ofList

end TableService.Text
