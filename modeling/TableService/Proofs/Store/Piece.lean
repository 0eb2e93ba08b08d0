/-
  Texts as pieces.

  * `Piece.atStart` is a piece but for its place in the text, which matters only for words that may be
    names.
  * `Writes`: characters are such pieces, with values for their question marks, wherever they end; its
    rules put texts together from words, names in quotes, numbers, signs and marks.
  * `Writes.source`: what is written as pieces is one statement of these, with as many values as it has
    question marks.
  * `Follows`: the characters may moreover follow anything, as the clauses of a statement do.
-/
import TableService.Proofs.Store.Token
import TableService.Store.Statement

namespace TableService.Store

open Token

namespace Piece

/-- The piece as it would be at the start of a text. -/
def atStart (p : Piece) : Piece := ⟨{ p.token with offset := 0 }, p.value⟩

/-- A piece at the start of a text, without a value. -/
def plain (kind : TokenKind) (text : String) : Piece := ⟨⟨kind, text, 0⟩, none⟩

/-- A word. -/
def word (w : String) : Piece := plain .word w

/-- A sign. -/
def sign (s : String) : Piece := plain .sign s

/-- A name in quotes. -/
def named (name : String) : Piece := plain (.name name) (Dialect.sqlite.quoteText name)

/-- A number without a sign. -/
def number (n : Nat) : Piece := plain .number (String.ofList (digitsText n))

/-- A question mark with its value. -/
def mark (v : Cell) : Piece := ⟨⟨.sign, "?", 0⟩, some v⟩

/-! ## Values -/

/-- The number of question marks. -/
def marks (ts : List Token) : Nat := ts.countP (·.isSign "?")

theorem marks_cons_mark {t : Token} (ht : t.isSign "?" = true) (ts : List Token) :
    marks (t :: ts) = marks ts + 1 := by
  simp [marks, ht]

theorem marks_cons_other {t : Token} (ht : ¬t.isSign "?" = true) (ts : List Token) :
    marks (t :: ts) = marks ts := by
  simp [marks, ht]

theorem fill_append {ts us : List Token} {values more : List Cell}
    (h : marks ts = values.length) :
    fill (ts ++ us) (values ++ more) = fill ts values ++ fill us more := by
  induction ts generalizing values with
  | nil =>
    obtain rfl := List.length_eq_zero_iff.1 h.symm
    rfl
  | cons t ts ih =>
    by_cases ht : t.isSign "?" = true
    · rw [marks_cons_mark ht] at h
      obtain ⟨v, values, rfl⟩ := List.exists_cons_of_length_eq_add_one h.symm
      have hrest : marks ts = values.length := Nat.succ.inj h
      simp [fill, ht, ih hrest]
    · rw [marks_cons_other ht] at h
      simp [fill, ht, ih h]

theorem token_fill (ts : List Token) (values : List Cell) : (fill ts values).map token = ts := by
  induction ts generalizing values with
  | nil => rfl
  | cons t ts ih =>
    by_cases ht : t.isSign "?" = true
    · simp [fill, ht, ih]
    · simp [fill, ht, ih]

/-- Exactly the question marks have values. -/
theorem countP_fill (ts : List Token) (values : List Cell) :
    (fill ts values).countP (·.value.isSome) = marks ts := by
  induction ts generalizing values with
  | nil => rfl
  | cons t ts ih =>
    by_cases ht : t.isSign "?" = true
    · simp [fill, marks_cons_mark, ht, ih]
    · simp [fill, marks_cons_other, ht, ih]

end Piece

/-! ## Texts -/

/-- The characters are these pieces with these values for the question marks, wherever they end. -/
structure Writes (cs : List Char) (values : List Cell) (ps : List Piece) : Prop where
  scan : ∀ offset rest, Ends rest → ∃ ts after,
    Token.scan offset 0 (cs ++ rest) = ts ++ Token.scan after 0 rest ∧
      Piece.marks ts = values.length ∧ (Piece.fill ts values).map Piece.atStart = ps
  /-- They end no statement. -/
  single : ∀ p ∈ ps, p.isSign ";" = false
  noNul : '\x00' ∉ cs

namespace Writes
variable {cs more : List Char} {values moreValues : List Cell} {ps qs : List Piece}

theorem nil : Writes [] [] [] :=
  ⟨fun offset _ _ => ⟨[], offset, rfl, rfl, rfl⟩, nofun, List.not_mem_nil⟩

theorem append (h : Writes cs values ps) (h' : Writes more moreValues qs) (he : Ends more) :
    Writes (cs ++ more) (values ++ moreValues) (ps ++ qs) where
  scan offset rest hr := by
    obtain ⟨ts, middle, hts, hmarks, hps⟩ := h.scan offset (more ++ rest) (he.append hr)
    obtain ⟨us, after, hus, hmore, hqs⟩ := h'.scan middle rest hr
    refine ⟨ts ++ us, after, ?_, ?_, ?_⟩
    · rw [List.append_assoc, hts, hus, List.append_assoc]
    · rw [Piece.marks, List.countP_append, List.length_append, ← hmarks, ← hmore]
      rfl
    · rw [Piece.fill_append hmarks, List.map_append, hps, hqs]
  single := List.forall_mem_append.2 ⟨h.single, h'.single⟩
  noNul := by simpa using ⟨h.noNul, h'.noNul⟩

theorem blank (h : Writes cs values ps) : Writes (' ' :: cs) values ps where
  scan offset rest hr := h.scan (offset + 1) rest hr
  single := h.single
  noNul := by simpa using h.noNul

/-- What is one token, other than a question mark and the end of a statement. -/
theorem token {kind : TokenKind} (h : Spells kind cs)
    (hkind : kind = .sign → String.ofList cs ≠ "?" ∧ String.ofList cs ≠ ";") (hn : '\x00' ∉ cs) :
    Writes cs [] [.plain kind (String.ofList cs)] := by
  have hsign (s : String) (hs : kind = .sign → String.ofList cs ≠ s) (offset : Nat) :
      (⟨kind, String.ofList cs, offset⟩ : Token).isSign s = false := by
    simpa [isSign] using hs
  refine ⟨fun offset rest hr => ?_, ?_, hn⟩
  · obtain ⟨after, hscan⟩ := h offset rest hr
    have hmark := hsign "?" (fun hk => (hkind hk).1) offset
    refine ⟨[⟨kind, String.ofList cs, offset⟩], after, hscan, ?_, ?_⟩
    · simp [Piece.marks, hmark]
    · rw [Piece.fill, if_neg (by simp [hmark])]
      rfl
  · exact List.forall_mem_singleton.2 (hsign ";" (fun hk => (hkind hk).2) 0)

theorem word {w : String} (h : isWordText w.toList = true) : Writes w.toList [] [.word w] := by
  have hw := token (spells_word h) (by rintro ⟨⟩) (noNul_word h)
  rwa [String.ofList_toList] at hw

theorem quoted (i : Identifier) : Writes (Dialect.sqlite.quote i).toList [] [.named i.name] := by
  have hi := token (spells_quoted i.name) (by rintro ⟨⟩) (noNul_quote i)
  rwa [String.ofList_toList] at hi

theorem number (n : Nat) : Writes (String.ofList (digitsText n)).toList [] [.number n] := by
  have hn : isNumberText (digitsText n) = true := by
    have hdigits : ∀ c ∈ digitsText n, c.isDigit = true := fun _ => isDigit_of_mem_digitsText
    simpa [isNumberText, digitsText, Nat.toDigits_ne_nil] using hdigits
  rw [String.toList_ofList]
  exact token (spells_number hn) (by rintro ⟨⟩) (noNul_number hn)

theorem mark (v : Cell) : Writes "?".toList [v] [.mark v] where
  scan offset rest hr := ⟨[⟨.sign, "?", offset⟩], offset + 1, rfl, rfl, rfl⟩
  single := List.forall_mem_singleton.2 rfl
  noNul := by decide

/-- A character that is a sign by itself before these ones. -/
theorem cons {c : Char}
    (hc : String.singleton c ≠ "?" ∧ String.singleton c ≠ ";" ∧ c ≠ '\x00')
    (hscan : ∀ offset rest, ∃ next, Token.scan offset 0 (c :: (cs ++ rest)) =
      ⟨.sign, String.singleton c, offset⟩ :: Token.scan next 0 (cs ++ rest))
    (h : Writes cs values ps) : Writes (c :: cs) values (.sign (String.singleton c) :: ps) where
  scan offset rest hr := by
    obtain ⟨next, hnext⟩ := hscan offset rest
    obtain ⟨ts, after, hts, hmarks, hps⟩ := h.scan next rest hr
    have hmark : ¬(⟨.sign, String.singleton c, offset⟩ : Token).isSign "?" = true := by
      simpa [isSign] using hc.1
    refine ⟨⟨.sign, String.singleton c, offset⟩ :: ts, after, ?_, ?_, ?_⟩
    · rw [List.cons_append, hnext, hts, List.cons_append]
    · rw [Piece.marks_cons_other hmark, hmarks]
    · rw [Piece.fill, if_neg hmark, List.map_cons, hps]
      rfl
  single := by
    refine List.forall_mem_cons.2 ⟨?_, h.single⟩
    simpa [Piece.isSign, Piece.sign, Piece.plain, isSign] using hc.2.1
  noNul := by
    rw [List.mem_cons, not_or]
    exact ⟨hc.2.2.symm, h.noNul⟩

/-- A bracket or a comma may stand before anything. -/
theorem sign {c : Char} (hc : c = ',' ∨ c = '(' ∨ c = ')') (h : Writes cs values ps) :
    Writes (c :: cs) values (.sign (String.singleton c) :: ps) :=
  cons (by rcases hc with rfl | rfl | rfl <;> decide) (fun offset _ => scan_sign hc offset _) h

theorem keyword {w : String} (hw : isWordText w.toList = true) (h : Writes cs values ps) :
    Writes (w.toList ++ ' ' :: cs) values (.word w :: ps) :=
  (word hw).append h.blank (ends_cons _ (.inl rfl))

/-- Texts with a separator and a blank between them. -/
theorem intercalate {α : Type} {s : String} {sep : Piece} (hs : Writes s.toList [] [sep])
    (he : Ends s.toList) {text : α → String} {given : α → List Cell} {read : α → List Piece}
    (h : ∀ a, Writes (text a).toList (given a) (read a)) (l : List α) :
    Writes (String.intercalate (s ++ " ") (l.map text)).toList (l.flatMap given)
      ([sep].intercalate (l.map read)) := by
  rw [String.toList_intercalate, String.toList_append]
  match l with
  | [] => exact nil
  | [a] => simpa using h a
  | a :: b :: l =>
    have hrest := intercalate hs he h (b :: l)
    rw [String.toList_intercalate, String.toList_append] at hrest
    have hall := (h a).append (hs.append hrest.blank (ends_cons _ (.inl rfl)))
      (he.append (ends_cons _ (.inl rfl)))
    simpa using hall

theorem commaSpaced {α : Type} {text : α → String} {given : α → List Cell} {read : α → List Piece}
    (h : ∀ a, Writes (text a).toList (given a) (read a)) (l : List α) :
    Writes (TableService.commaSpaced (l.map text)).toList (l.flatMap given)
      ([Piece.sign ","].intercalate (l.map read)) :=
  have hcomma : Writes ",".toList [] [.sign ","] := sign (.inl rfl) nil
  hcomma.intercalate (ends_cons _ (.inr (.inl rfl))) h l

/-- **A text that is written as pieces** is one statement, and has as many question marks as there are
values. -/
theorem source {sql : String} {params : List Json} (h : Writes sql.toList (params.map .ofJson) ps) :
    (Source.of sql params).pieces.map Piece.atStart = ps ∧ (Source.of sql params).goesOn = false ∧
      (Source.of sql params).checkCount params.length = .ok () := by
  obtain ⟨ts, after, hts, hmarks, hps⟩ := h.scan 0 [] ends_nil
  have htokens : tokens sql = ts := by
    have hall : ∀ c ∈ sql.toList, decide (c ≠ '\x00') = true := fun c hc =>
      decide_eq_true fun hnul => h.noNul (hnul ▸ hc)
    rw [tokens, List.takeWhile_eq_self_iff.2 hall, ← List.append_nil sql.toList, hts]
    exact List.append_nil ts
  have hsingle : ∀ t ∈ ts, (!t.isSign ";") = true := by
    intro t ht
    rw [← Piece.token_fill ts (params.map .ofJson)] at ht
    obtain ⟨p, hp, rfl⟩ := List.mem_map.1 ht
    have hend : p.atStart.isSign ";" = false := h.single _ (hps ▸ List.mem_map_of_mem hp)
    exact congrArg (! ·) hend
  have hfirst : ts.takeWhile (!·.isSign ";") = ts := List.takeWhile_eq_self_iff.2 hsingle
  have hcount : (Piece.fill ts (params.map .ofJson)).countP (·.value.isSome) = params.length := by
    rw [Piece.countP_fill, hmarks, List.length_map]
  simp only [Source.of, Source.checkCount, htokens, hfirst, List.drop_length, hcount]
  exact ⟨hps, rfl, by simp [refuseIf]⟩

end Writes

/-- The characters are these pieces with these values, and may follow anything. -/
structure Follows (cs : List Char) (values : List Cell) (ps : List Piece) : Prop where
  writes : Writes cs values ps
  ends : Ends cs

namespace Follows
variable {cs more : List Char} {values moreValues : List Cell} {ps qs : List Piece}

theorem nil : Follows [] [] [] := ⟨.nil, ends_nil⟩

theorem append (h : Follows cs values ps) (h' : Follows more moreValues qs) :
    Follows (cs ++ more) (values ++ moreValues) (ps ++ qs) :=
  ⟨h.writes.append h'.writes h'.ends, h.ends.append h'.ends⟩

theorem clause {w : String} (hw : isWordText w.toList = true) (h : Writes cs values ps) :
    Follows (' ' :: (w.toList ++ ' ' :: cs)) values (.word w :: ps) :=
  ⟨(Writes.keyword hw h).blank, ends_cons _ (.inl rfl)⟩

end Follows

end TableService.Store
