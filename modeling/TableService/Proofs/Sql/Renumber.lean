/-
  Statements with other numbers in their marks.

  * `renumber d k` adds `k` to the number of each mark of a statement that has one.  All else stays
    as it is; what looks like a mark inside a quoted name is none.
  * `Renumbers`: characters of which this makes certain others wherever they end; the rules are those
    of `Lexes`, with the same pieces.
-/
import TableService.Proofs.Sql.Token

namespace TableService.Sql

/-- What becomes of the characters of a token, or of a blank. -/
def renumbered (k : Nat) (cs : List Char) : Option Token → List Char
  | some (.mark (some n)) => '$' :: digitsText (n + k)
  | _ => cs

/-- The statement with `k` added to the numbers of its marks, unless it ends inside a name. -/
def renumber (d : Dialect) (k : Nat) : List Char → Option (List Char)
  | [] => some []
  | c :: cs =>
    match _h : next d c cs with
    | some (t, rest) =>
      (renumber d k rest).map (renumbered k (c :: cs.take (cs.length - rest.length)) t ++ ·)
    | none => none
termination_by cs => cs.length
decreasing_by exact Nat.lt_succ_of_le (next_shorter _h)

/-- What is read in one step is renumbered by itself. -/
theorem renumber_cons {d : Dialect} {k : Nat} {c : Char} {cs rest : List Char} {t : Option Token}
    (h : next d c (cs ++ rest) = some (t, rest)) :
    renumber d k (c :: (cs ++ rest)) =
      (renumber d k rest).map (renumbered k (c :: cs) t ++ ·) := by
  have htake : (cs ++ rest).take ((cs ++ rest).length - rest.length) = cs := by simp
  rw [renumber]
  split
  · rename_i h'
    cases h'.symm.trans h
    rw [htake]
  · rename_i h'
    cases h'.symm.trans h

/-- Of these characters renumbering makes those, wherever they end. -/
def Renumbers (d : Dialect) (k : Nat) (cs cs' : List Char) : Prop := Yields (renumber d k) cs cs'

/-- A token is renumbered by itself. -/
theorem Spells.renumbers {d : Dialect} {k : Nat} {t : Token} :
    ∀ {cs : List Char}, Spells d t cs → Renumbers d k cs (renumbered k cs (some t))
  | _ :: _, h, rest, hr => renumber_cons (h rest hr)

namespace Renumbers
variable {d : Dialect} {k : Nat} {cs cs' es es' : List Char}

theorem nil : Renumbers d k [] [] := Yields.nil

theorem append (h : Renumbers d k cs cs') (h' : Renumbers d k es es') (he : Ends es) :
    Renumbers d k (cs ++ es) (cs' ++ es') :=
  Yields.append h h' he

theorem renumber_eq (h : Renumbers d k cs cs') : renumber d k cs = some cs' := by
  have h := h [] .nil
  rw [List.append_nil, renumber] at h
  simpa using h

theorem space (h : Renumbers d k cs cs') : Renumbers d k (' ' :: cs) (' ' :: cs') := by
  intro rest hr
  have hn : next d ' ' ([] ++ (cs ++ rest)) = some (none, cs ++ rest) := rfl
  rw [List.cons_append, ← List.nil_append (cs ++ rest), renumber_cons hn, h rest hr, Option.map_map]
  rfl

theorem sign {c : Char} (hc : isSign c = true) (h : Renumbers d k cs cs') :
    Renumbers d k (c :: cs) (c :: cs') := by
  intro rest hr
  have hn : next d c ([] ++ (cs ++ rest)) = some (some (.sign c), cs ++ rest) := next_sign hc d _
  rw [List.cons_append, ← List.nil_append (cs ++ rest), renumber_cons hn, h rest hr, Option.map_map]
  rfl

theorem word {s : String} (h : isWord s.toList = true) : Renumbers d k s.toList s.toList :=
  (Spells.text h).renumbers

/-- **A quoted name stays as it is**, whatever it contains. -/
theorem quoted (name : String) :
    Renumbers d k (d.quoteText name).toList (d.quoteText name).toList :=
  (Spells.quoted name).renumbers

/-- **The mark of a parameter becomes the mark of a later one.** -/
theorem placeholder (n : Nat) :
    Renumbers d k (d.placeholder n).toList (d.placeholder (n + k)).toList := by
  have h : Renumbers d k (d.placeholder n).toList _ := (Spells.placeholder n).renumbers
  cases d with
  | sqlite | mysql => exact h
  | postgres =>
    have hmark : (Dialect.placeholder .postgres (n + k)).toList = '$' :: digitsText (n + k) :=
      String.toList_ofList
    rw [hmark]
    exact h

/-- Texts with a separator and a blank between them. -/
theorem intercalate {s : String} (hs : Renumbers d k s.toList s.toList) (he : Ends s.toList)
    {texts texts' : List String}
    (h : List.Forall₂ (fun t t' : String => Renumbers d k t.toList t'.toList) texts texts') :
    Renumbers d k (String.intercalate (s ++ " ") texts).toList
      (String.intercalate (s ++ " ") texts').toList := by
  have hblank : ∀ {cs cs'}, Renumbers d k cs cs' → Renumbers d k (' ' :: cs) ([' '] ++ cs') := space
  have h : List.Forall₂ (Renumbers d k) (texts.map String.toList) (texts'.map String.toList) :=
    List.forall₂_map_left_iff.2 (List.forall₂_map_right_iff.2 h)
  have hall := Yields.intercalate hblank hs he h
  rwa [String.toList_intercalate, String.toList_intercalate, String.toList_append]

theorem commaSpaced {texts texts' : List String}
    (h : List.Forall₂ (fun t t' : String => Renumbers d k t.toList t'.toList) texts texts') :
    Renumbers d k (commaSpaced texts).toList (commaSpaced texts').toList := by
  have hcomma : Renumbers d k ",".toList ",".toList := sign rfl nil
  exact hcomma.intercalate (.comma _) h

end Renumbers

end TableService.Sql
