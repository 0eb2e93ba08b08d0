/-
  What pieces are read as.

  * `Reads`: of pieces like the given ones a reader makes this, wherever they stand.
  * `reads_parts`: what stands between separators is read part by part; `split_at`: what stands before
    a stop is told apart from what follows.
  * `Piece.bracketed`, `Piece.joined`: lists as statements have them, in brackets and with commas;
    `reads_joined` and `bracketed_joined`: they are read part by part.
  * `Whole`: pieces at none of which a statement is taken apart.
-/
import TableService.Proofs.Results
import TableService.Proofs.Store.Piece

namespace TableService.Store

open Piece

/-- The piece as it stands after so many bytes. -/
def Piece.after (p : Piece) (offset : Nat) : Piece := ⟨{ p.token with offset }, p.value⟩

@[simp] theorem Piece.isWord_after (p : Piece) (offset : Nat) (w : String) :
    (p.after offset).isWord w = p.isWord w := rfl

@[simp] theorem Source.comparison_after (p : Piece) (offset : Nat) :
    comparison? (p.after offset) = comparison? p := rfl

/-- Of pieces like these, wherever they stand, a reader makes this. -/
def Reads {β : Type} (read : List Piece → Except Fault β) (ps : List Piece) (x : β) : Prop :=
  ∀ qs, qs.map atStart = ps → read qs = .ok x

section
variable {α β : Type} {read : List Piece → Except Fault β} {p sep : Piece} {ps : List Piece} {x : β}

theorem reads_nil (h : read [] = .ok x) : Reads read [] x := by
  rintro qs hqs
  rwa [List.map_eq_nil_iff.1 hqs]

theorem reads_cons (h : ∀ offset, Reads (fun qs => read (p.after offset :: qs)) ps x) :
    Reads read (p :: ps) x := by
  intro qs hqs
  obtain ⟨q, qs, rfl, rfl, hrest⟩ := List.map_eq_cons_iff.1 hqs
  exact h q.token.offset qs hrest

/-! ## Parts -/

theorem splitAt'_eq (p : α → Bool) : ∀ l, splitAt' p l = l.splitOnP p
  | [] => rfl
  | x :: l => by
    rw [List.splitOnP_cons_eq_if_modifyHead, splitAt', splitAt'_eq p l]
    cases h : l.splitOnP p with
    | nil => exact absurd h (List.splitOnP_ne_nil p l)
    | cons g gs => rfl

/-- **What stands between separators is read part by part.** -/
theorem reads_parts (isSep : Piece → Bool) (hplace : ∀ p, isSep p.atStart = isSep p)
    (hsep : isSep sep = true) {part : α → List Piece} {meant : α → β}
    (hpart : ∀ a, Reads read (part a) (meant a)) (hfree : ∀ a, ∀ p ∈ part a, isSep p = false)
    {l : List α} (hne : l ≠ []) :
    Reads (fun qs => (splitAt' isSep qs).mapM read) ([sep].intercalate (l.map part))
      (l.map meant) := by
  have hown {a : α} {qs : List Piece} (h : qs.map atStart = part a) :
      splitAt' isSep qs = [qs] := by
    rw [splitAt'_eq]
    refine List.splitOnP_eq_singleton fun q hq => ?_
    rw [← hplace]
    exact hfree a _ (h ▸ List.mem_map_of_mem hq)
  match l with
  | [] => exact absurd rfl hne
  | [a] =>
    intro qs h
    have h : qs.map atStart = part a := by simpa using h
    show (splitAt' isSep qs).mapM read = _
    rw [hown h, List.mapM_cons, hpart a qs h]
    rfl
  | a :: b :: l =>
    intro qs h
    rw [List.map_cons, List.map_cons, List.intercalate_cons_cons, ← List.map_cons,
      List.append_assoc, List.singleton_append] at h
    obtain ⟨first, rest, rfl, hfirst, hrest⟩ := List.map_eq_append_iff.1 h
    obtain ⟨s, rest, rfl, hs, hrest⟩ := List.map_eq_cons_iff.1 hrest
    have ih : (splitAt' isSep rest).mapM read = .ok ((b :: l).map meant) :=
      reads_parts isSep hplace hsep hpart hfree (List.cons_ne_nil b l) rest hrest
    have hstop : isSep s = true := by rw [← hplace, hs, hsep]
    have hsplit : splitAt' isSep (first ++ s :: rest) = first :: splitAt' isSep rest := by
      rw [splitAt'_eq, List.splitOnP_append_cons _ _ hstop, ← splitAt'_eq, ← splitAt'_eq, hown hfirst,
        List.singleton_append]
    show (splitAt' isSep (first ++ s :: rest)).mapM read = _
    rw [hsplit, List.mapM_cons, hpart a first hfirst, ih]
    rfl

/-- What stands before the first stop, and what follows. -/
theorem split_at (stop : Piece → Bool) (hplace : ∀ p, stop p.atStart = stop p)
    {before rest qs : List Piece} (h : qs.map atStart = before ++ rest)
    (hbefore : ∀ p ∈ before, stop p = false) (hrest : ∀ p ∈ rest.head?, stop p = true) :
    ∃ a b, qs.takeWhile (!stop ·) = a ∧ qs.drop a.length = b ∧ a.map atStart = before ∧
      b.map atStart = rest := by
  obtain ⟨a, b, rfl, ha, hb⟩ := List.map_eq_append_iff.1 h
  refine ⟨a, b, ?_, List.drop_left, ha, hb⟩
  have hfree : ∀ p ∈ a, (!stop p) = true := by
    intro p hp
    rw [← hplace, hbefore _ (ha ▸ List.mem_map_of_mem hp)]
    rfl
  have hstops : b.takeWhile (!stop ·) = [] := by
    cases b with
    | nil => rfl
    | cons q b =>
      have hq : stop q = true := (hplace q).symm.trans (hrest _ (by rw [← hb]; rfl))
      exact List.takeWhile_cons_of_neg (by simp [hq])
  rw [List.takeWhile_append_of_pos hfree, hstops, List.append_nil]

theorem forall_mem_intercalate {P : Piece → Prop} (hsep : P sep) :
    ∀ {parts : List (List Piece)}, (∀ part ∈ parts, ∀ p ∈ part, P p) →
      ∀ p ∈ [sep].intercalate parts, P p
  | [], _ => by simp
  | [part], h => by simpa using h
  | part :: next :: parts, h => by
    obtain ⟨hpart, hparts⟩ := List.forall_mem_cons.1 h
    rw [List.intercalate_cons_cons, List.append_assoc]
    exact List.forall_mem_append.2
      ⟨hpart, List.forall_mem_cons.2 ⟨hsep, forall_mem_intercalate hsep hparts⟩⟩

end

/-! ## Lists -/

namespace Piece

/-- Parts with commas between them. -/
def joined (parts : List (List Piece)) : List Piece := [sign ","].intercalate parts

/-- Pieces in brackets. -/
def bracketed (ps : List Piece) : List Piece := sign "(" :: (ps ++ [sign ")"])

theorem joined_ne_nil {parts : List (List Piece)} (hne : parts ≠ []) (h : [] ∉ parts) :
    joined parts ≠ [] := by
  obtain ⟨part, parts, rfl⟩ := List.exists_cons_of_ne_nil hne
  have hpart : part ≠ [] := fun hnil => h (hnil ▸ List.mem_cons_self)
  cases parts with
  | nil => simpa [joined] using hpart
  | cons next parts => simp [joined]

end Piece

section
variable {α β : Type} (s : Source) {read : List Piece → Except Fault β} {part : α → List Piece}
  {meant : α → β} {l : List α}

/-- What stands between commas is read part by part. -/
theorem reads_joined (hpart : ∀ a, Reads read (part a) (meant a))
    (hfree : ∀ a, ∀ p ∈ part a, p.isSign "," = false) (hne : l ≠ []) :
    Reads (fun qs => (groups qs).mapM read) (joined (l.map part)) (l.map meant) :=
  reads_parts (·.isSign ",") (fun _ => rfl) rfl hpart hfree hne

/-- What stands in brackets is told apart from what follows, and read part by part. -/
theorem bracketed_joined (hpart : ∀ a, Reads read (part a) (meant a))
    (hfree : ∀ a, ∀ p ∈ part a, p.isSign "," = false ∧ p.isSign ")" = false)
    (hsome : ∀ a, part a ≠ []) (hne : l ≠ []) (rest : List Piece) {qs : List Piece}
    (h : qs.map atStart = bracketed (joined (l.map part)) ++ rest) :
    ∃ gs qs', s.bracketed qs = .ok (gs, qs') ∧ gs.mapM read = .ok (l.map meant) ∧
      qs'.map atStart = rest := by
  obtain ⟨o, qs, rfl, ho, h⟩ := List.map_eq_cons_iff.1 h
  have h : qs.map atStart = joined (l.map part) ++ sign ")" :: rest :=
    h.trans (List.append_assoc ..)
  have hinside : ∀ p ∈ joined (l.map part), p.isSign ")" = false :=
    forall_mem_intercalate (P := (·.isSign ")" = false)) rfl
      (List.forall_mem_map.2 fun a _ p hp => (hfree a p hp).2)
  obtain ⟨inside, after, htake, hdrop, hin, hafter⟩ :=
    split_at (·.isSign ")") (fun _ => rfl) h hinside (by rintro _ ⟨⟩; rfl)
  obtain ⟨c, qs', rfl, -, hrest⟩ := List.map_eq_cons_iff.1 hafter
  refine ⟨groups inside, qs', ?_, reads_joined hpart (fun a p hp => (hfree a p hp).1) hne _ hin,
    hrest⟩
  have hopen : o.isSign "(" = true := congrArg (·.isSign "(") ho
  have hnonempty : inside.isEmpty = false := by
    have hjoined : joined (l.map part) ≠ [] :=
      joined_ne_nil (by simpa using hne) (by simpa using fun a _ => hsome a)
    rw [← hin] at hjoined
    simpa using hjoined
  simp only [Source.bracketed, htake, hdrop, hopen, hnonempty]
  rfl

end

/-! ## Stops -/

/-- The words at which statements are taken apart. -/
def stops : List String := ["and", "from", "where", "order", "limit", "offset"]

/-- None of the pieces is a word at which statements are taken apart. -/
def Whole (ps : List Piece) : Prop := ∀ p ∈ ps, ∀ w ∈ stops, p.isWord w = false

theorem whole_cons {p : Piece} {ps : List Piece} :
    Whole (p :: ps) ↔ (∀ w ∈ stops, p.isWord w = false) ∧ Whole ps := List.forall_mem_cons

theorem whole_singleton {p : Piece} : Whole [p] ↔ ∀ w ∈ stops, p.isWord w = false :=
  List.forall_mem_singleton

theorem whole_append {ps qs : List Piece} : Whole (ps ++ qs) ↔ Whole ps ∧ Whole qs :=
  List.forall_mem_append

theorem whole_joined {parts : List (List Piece)} (h : ∀ part ∈ parts, Whole part) :
    Whole (joined parts) :=
  forall_mem_intercalate (P := fun p => ∀ w ∈ stops, p.isWord w = false) (fun _ _ => rfl) h

theorem whole_bracketed {ps : List Piece} (h : Whole ps) : Whole (bracketed ps) :=
  whole_cons.2 ⟨fun _ _ => rfl, whole_append.2 ⟨h, whole_singleton.2 fun _ _ => rfl⟩⟩

/-! ## Names and values -/

theorem reads_name (s : Source) (n : String) : Reads s.name [named n] n :=
  reads_cons fun _ => reads_nil rfl

theorem reads_operand (s : Source) (v : Cell) : Reads s.operand [mark v] v :=
  reads_cons fun _ => reads_nil rfl

/-- **The values in brackets** are those of the question marks. -/
theorem reads_members (s : Source) (values : List Cell) (hne : values ≠ []) :
    Reads s.members (bracketed (joined (values.map fun v => [mark v]))) values := by
  intro qs h
  obtain ⟨gs, rest, hgs, hread, hrest⟩ := bracketed_joined s (reads_operand s)
    (fun v => List.forall_mem_singleton.2 ⟨rfl, rfl⟩) (by simp) hne [] (by simpa using h)
  obtain rfl := List.map_eq_nil_iff.1 hrest
  exact bind_eq_ok.2 ⟨(gs, []), hgs, by simpa using hread⟩

end TableService.Store
