/-
  The clauses of statements as the embedded database reads them.

  * `Test.pieces`, `OrderTerm.pieces`, `limitPieces` and `offsetPieces` are what the texts of clauses
    are made of, as `Test.writes`, `OrderTerm.writes` and the lemmas on `Follows` say.
  * `reads_test`: the pieces of a test are read as its condition, which asks of a table what the test
    does (`probe_condition`); `reads_where`: so are those of all tests.
  * `order_eq` and `reads_range`: what is read of an order, and of a limit and an offset.
-/
import TableService.Proofs.Query.Statement
import TableService.Proofs.Store.Reading
import TableService.Store.Connection

namespace TableService

open Store Store.Token Store.Piece

/-! ## Tests -/

/-- The piece of a comparison. -/
def Comparison.piece : Comparison → Piece
  | .like => word "LIKE"
  | c => sign c.sql

/-- A question mark with a value of a parameter. -/
def Json.piece (v : Json) : Piece := mark (.ofJson v)

/-- A name in quotes that is mentioned. -/
def Identifier.mention (i : Identifier) : Mention := ⟨i.name, Dialect.sqlite.quoteText i.name, none⟩

namespace Test

/-- The pieces of a test. -/
def pieces : Test → List Piece
  | .compare column c operand => [named column.name, c.piece, operand.piece]
  | .member column negated first others =>
    named column.name :: ((if negated then [word "NOT", word "IN"] else [word "IN"]) ++
      bracketed (joined ((first :: others).map fun v => [v.piece])))
  | .constant holds => [number (if holds then 1 else 0)]

/-- The condition that a test is. -/
def condition : Test → Store.Condition
  | .compare column c operand => .compare column.mention c (.ofJson operand)
  | .member column negated first others =>
    .member column.mention negated ((first :: others).map .ofJson)
  | .constant holds => .constant holds

end Test

theorem Comparison.spells {c : Comparison} (h : c ≠ .like) : Spells .sign c.sql.toList := by
  cases c
  case like => exact absurd rfl h
  all_goals
    refine spells_of_first fun rest hr => ?_
    rcases rest with _ | ⟨d, rest⟩
    · rfl
    · rcases hr d rfl with rfl | rfl | rfl | rfl <;> rfl

theorem Comparison.writes (c : Comparison) : Writes c.sql.toList [] [c.piece] := by
  by_cases h : c = .like
  · subst h
    exact .word rfl
  · have hc := Writes.token (Comparison.spells h) (fun _ => by cases c <;> decide)
      (by cases c <;> decide)
    rw [String.ofList_toList] at hc
    cases c <;> first | exact hc | exact absurd rfl h

theorem writes_marks {α : Type} (value : α → Json) (used : Nat) (l : List α) :
    Writes (commaSpaced (Test.marks .sqlite used l.length)).toList (l.map fun a => .ofJson (value a))
      (joined (l.map fun a => [(value a).piece])) := by
  have hmarks : Test.marks .sqlite used l.length = l.map fun _ => "?" := by
    simp [Test.marks, Dialect.placeholder, Dialect.isNumbered]
  have h := Writes.commaSpaced (fun a => Writes.mark (.ofJson (value a))) l
  rwa [← List.map_eq_flatMap, ← hmarks] at h

theorem Store.Writes.bracketed {cs : List Char} {values : List Cell} {ps : List Piece}
    (h : Writes cs values ps) : Writes ('(' :: (cs ++ [')'])) values (Piece.bracketed ps) := by
  have hclose := h.append (.sign (.inr (.inr rfl)) .nil) (ends_cons _ (by decide))
  rw [List.append_nil] at hclose
  exact .sign (.inr (.inl rfl)) hclose

/-- **The text of a test is made of its pieces.** -/
theorem Test.writes (t : Test) (used : Nat) :
    Writes (t.sql .sqlite used).toList (t.operands.map .ofJson) t.pieces := by
  cases t with
  | compare column c operand =>
    have hmark : Writes (Dialect.sqlite.placeholder (used + 1)).toList [.ofJson operand]
      [operand.piece] := .mark _
    simp only [sql, String.toList_append, List.append_assoc]
    exact (Writes.quoted column).append (c.writes.append hmark.blank (ends_cons _ (.inl rfl))).blank
      (ends_cons _ (.inl rfl))
  | member column negated first others =>
    have hlist := (writes_marks id used (first :: others)).bracketed
    simp only [sql, String.toList_append, List.append_assoc]
    refine (Writes.quoted column).append (.blank ?_) (ends_cons _ (.inl rfl))
    have hin := Writes.keyword (w := "IN") rfl hlist
    cases negated
    · exact hin
    · exact .keyword (w := "NOT") rfl hin
  | constant holds =>
    cases holds
    · exact Writes.number 0
    · exact Writes.number 1

namespace Store

section
variable (s : Source)

theorem reads_condition {i : Identifier} {p : Piece} {ps : List Piece} {c : Condition}
    (h : Reads (s.question i.mention) (p :: ps) c) :
    Reads s.condition (named i.name :: p :: ps) c := by
  refine reads_cons fun offset qs hqs => ?_
  obtain ⟨q, qs, rfl, -⟩ := List.map_eq_cons_iff.1 hqs
  exact h _ hqs

theorem comparison_piece (c : Comparison) : Source.comparison? c.piece = some c := by
  have hlike : (word "LIKE").isWord "like" = true := rfl
  cases c
  case like => exact if_pos hlike
  all_goals rfl

/-- **A test is read as its condition.** -/
theorem reads_test (t : Test) : Reads s.condition t.pieces t.condition := by
  cases t with
  | compare column c operand =>
    refine reads_condition s (reads_cons fun offset => ?_)
    intro qs hqs
    have hoperand : s.operand qs = .ok (.ofJson operand) := reads_operand s _ qs hqs
    simp only [Source.question, Source.comparison_after, comparison_piece, hoperand]
    rfl
  | member column negated first others =>
    have hvalues : Reads s.members (bracketed (joined ((first :: others).map fun v => [v.piece])))
        ((first :: others).map .ofJson) := by
      have h := reads_members s ((first :: others).map Cell.ofJson) (by simp)
      rwa [List.map_map] at h
    have hin : (word "IN").isWord "in" = true := rfl
    cases negated with
    | false =>
      refine reads_condition s (reads_cons fun offset qs hqs => ?_)
      have hno : Source.comparison? (word "IN") = none := rfl
      simp only [Source.question, Source.comparison_after, isWord_after, hno, hin, if_true,
        hvalues qs hqs]
      rfl
    | true =>
      refine reads_condition s (reads_cons fun offset => reads_cons fun offset' qs hqs => ?_)
      have hno : Source.comparison? (word "NOT") = none := rfl
      have hnot : (word "NOT").isWord "in" = false ∧ (word "NOT").isWord "not" = true := ⟨rfl, rfl⟩
      simp only [Source.question, Source.comparison_after, isWord_after, hno, hnot, hin, if_true,
        hvalues qs hqs]
      rfl
  | constant holds =>
    refine reads_cons fun offset => reads_nil ?_
    cases holds <;> rfl

/-- A name in quotes stands for the column of this name, or for a text. -/
theorem subject_mention (t : Table) (i : Identifier) :
    i.mention.subject t = .ok (t.subject i.name) := by
  simp only [Mention.subject, Identifier.mention]
  cases t.subject i.name <;> rfl

/-- **The condition of a test asks of a table what the test does.** -/
theorem probe_condition (t : Table) (test : Test) :
    test.condition.probe t = .ok (Probe.ofTest t test) := by
  cases test with
  | compare column c operand => exact bind_eq_ok.2 ⟨_, subject_mention t column, rfl⟩
  | member column negated first others =>
    exact bind_eq_ok.2 ⟨_, subject_mention t column, rfl⟩
  | constant holds => rfl

theorem shown_mention (t : Table) (i : Identifier) : i.mention.shown t = .ok (t.shown i.name) := by
  refine bind_eq_ok.2 ⟨_, subject_mention t i, ?_⟩
  unfold Table.subject Table.shown
  cases t.place? i.name <;> rfl

end

end Store

/-! ## Clauses -/

/-- The pieces of the tests of a statement. -/
def Test.wherePieces (tests : List Test) : List Piece :=
  if tests = [] then [] else word "WHERE" :: [word "AND"].intercalate (tests.map pieces)

/-- The pieces of a column to order by. -/
def OrderTerm.pieces (t : OrderTerm) : List Piece :=
  named t.column.name :: (t.direction.map fun d => word d.sql).toList

/-- A column to order by as it is read. -/
def OrderTerm.asked (t : OrderTerm) : Mention × Bool :=
  (t.column.mention, t.direction == some .descending)

/-- The pieces of an order. -/
def OrderTerm.orderPieces (order : List OrderTerm) : List Piece :=
  if order = [] then [] else word "ORDER" :: word "BY" :: joined (order.map pieces)

/-- The pieces of a limit; an offset alone needs one that does not bind. -/
def limitPieces : Option UInt64 → Option UInt64 → List Piece
  | some n, _ => [word "LIMIT", number n.toNat]
  | none, some _ => [word "LIMIT", sign "-", number 1]
  | none, none => []

/-- The pieces of an offset. -/
def offsetPieces : Option UInt64 → List Piece
  | some n => [word "OFFSET", number n.toNat]
  | none => []

theorem Test.follows (tests : List Test) (used : Nat) :
    Follows (whereSql .sqlite used tests).toList ((params tests).map .ofJson)
      (wherePieces tests) := by
  unfold whereSql wherePieces
  by_cases h : tests = []
  · subst h
    exact .nil
  · have hsqls : ∀ used, sqls .sqlite used tests = tests.map (sql .sqlite 0) := by
      clear h
      induction tests with
      | nil => exact fun _ => rfl
      | cons t tests ih =>
        intro used
        have ht : t.sql .sqlite used = t.sql .sqlite 0 := by
          cases t <;> simp [sql, marks, Dialect.placeholder, Dialect.isNumbered]
        rw [sqls, ih, ht, List.map_cons]
    have hand : Writes " AND".toList [] [word "AND"] := (Writes.word (w := "AND") rfl).blank
    have hall := hand.intercalate (ends_cons _ (.inl rfl)) (fun t => Test.writes t 0) tests
    rw [if_neg (mt clause_eq_empty.1 h), if_neg h, String.toList_append, clause, hsqls, params,
      List.map_flatMap]
    exact .clause (w := "WHERE") rfl hall

theorem OrderTerm.writes (t : OrderTerm) : Writes (t.sql .sqlite).toList [] t.pieces := by
  unfold OrderTerm.sql pieces
  cases t.direction with
  | none => exact .quoted t.column
  | some direction =>
    have hword : Writes direction.sql.toList [] [word direction.sql] := by
      cases direction <;> exact .word rfl
    simp only [String.toList_append, List.append_assoc]
    exact (Writes.quoted t.column).append hword.blank (ends_cons _ (.inl rfl))

theorem OrderTerm.follows (order : List OrderTerm) :
    Follows (orderSql .sqlite order).toList [] (orderPieces order) := by
  unfold orderSql orderPieces
  by_cases h : order = []
  · subst h
    exact .nil
  · have hterms := Writes.commaSpaced OrderTerm.writes order
    rw [List.flatMap_eq_nil_iff.2 fun _ _ => rfl] at hterms
    rw [if_neg (by simpa using h), if_neg h, String.toList_append]
    exact .clause (w := "ORDER") rfl (.keyword (w := "BY") rfl hterms)

theorem follows_limit_sqlite (limit offset : Option UInt64) :
    Follows (limitSql .sqlite limit offset).toList [] (limitPieces limit offset) := by
  cases limit with
  | some n =>
    rw [limitSql, String.toList_append]
    exact .clause (w := "LIMIT") rfl (.number n.toNat)
  | none =>
    cases offset with
    | none => exact .nil
    | some m =>
      have hone : Writes "1".toList [] [number 1] := Writes.number 1
      have hminus : Writes ('-' :: "1".toList) [] [sign "-", number 1] :=
        hone.cons (by decide) fun offset _ => ⟨offset + 1, rfl⟩
      have htext : (limitSql .sqlite none (some m)).toList =
          ' ' :: ("LIMIT".toList ++ ' ' :: '-' :: "1".toList) := by
        simp [limitSql, Dialect.unboundedLimit]
      rw [htext]
      exact .clause rfl hminus

theorem follows_offset_sqlite (offset : Option UInt64) :
    Follows (offsetSql offset).toList [] (offsetPieces offset) := by
  cases offset with
  | none => exact .nil
  | some n =>
    rw [offsetSql, String.toList_append]
    exact .clause (w := "OFFSET") rfl (.number n.toNat)

/-! ## Reading them -/

theorem Test.head_where {tests : List Test} : ∀ p ∈ (wherePieces tests).head?, p = word "WHERE" := by
  unfold wherePieces
  split_ifs <;> rintro _ ⟨⟩
  rfl

theorem OrderTerm.head_order {order : List OrderTerm} :
    ∀ p ∈ (orderPieces order).head?, p = word "ORDER" := by
  unfold orderPieces
  split_ifs <;> rintro _ ⟨⟩
  rfl

theorem head_limit {limit offset : Option UInt64} :
    ∀ p ∈ (limitPieces limit offset ++ offsetPieces offset).head?, p = word "LIMIT" := by
  cases limit <;> cases offset <;> rintro _ ⟨⟩ <;> rfl

namespace Store

theorem whole_test (t : Test) : Whole t.pieces := by
  cases t with
  | compare column c operand =>
    have hc : ∀ w ∈ stops, c.piece.isWord w = false := by cases c <;> decide
    exact whole_cons.2 ⟨fun _ _ => rfl, whole_cons.2 ⟨hc, whole_singleton.2 fun _ _ => rfl⟩⟩
  | member column negated first others =>
    have hwords : Whole (if negated then [word "NOT", word "IN"] else [word "IN"]) := by
      unfold Whole
      cases negated <;> decide
    have hvalues : Whole (joined ((first :: others).map fun v => [v.piece])) :=
      whole_joined (List.forall_mem_map.2 fun v _ => whole_singleton.2 fun _ _ => rfl)
    exact whole_cons.2 ⟨fun _ _ => rfl, whole_append.2 ⟨hwords, whole_bracketed hvalues⟩⟩
  | constant holds => exact whole_singleton.2 fun _ _ => rfl

theorem whole_term (t : OrderTerm) : Whole t.pieces := by
  refine whole_cons.2 ⟨fun _ _ => rfl, ?_⟩
  unfold Whole
  cases t.direction with
  | none => exact nofun
  | some direction => cases direction <;> decide

variable (s : Source)

/-- **The tests of a statement are read as its conditions.** -/
theorem reads_where (tests : List Test) :
    Reads s.conditions (Test.wherePieces tests) (tests.map Test.condition) := by
  unfold Test.wherePieces
  split_ifs with h
  · subst h
    exact reads_nil rfl
  · refine reads_cons fun offset qs hqs => ?_
    have hand : (word "AND").isWord "and" = true := rfl
    have hwhere : (word "WHERE").isWord "where" = true := rfl
    have hall := reads_parts (·.isWord "and") (fun _ => rfl) hand (reads_test s)
      (fun t p hp => whole_test t p hp "and" (by decide)) h qs hqs
    simpa only [Source.conditions, isWord_after, hwhere, if_true] using hall

theorem reads_term (t : OrderTerm) : Reads s.orderTerm t.pieces t.asked := by
  have hdesc : (word "DESC").isWord "desc" = true := rfl
  have hasc : (word "ASC").isWord "desc" = false ∧ (word "ASC").isWord "asc" = true := ⟨rfl, rfl⟩
  unfold OrderTerm.pieces OrderTerm.asked
  cases t.direction with
  | none => exact reads_cons fun offset => reads_nil rfl
  | some direction =>
    refine reads_cons fun offset => reads_cons fun offset' => reads_nil (bind_eq_ok.2 ⟨_, rfl, ?_⟩)
    cases direction
    · simp only [Direction.sql, isWord_after, hasc]
      rfl
    · simp only [Direction.sql, isWord_after, hdesc]
      rfl

theorem term_asked (t : Table) (term : OrderTerm) :
    (do return (← term.asked.1.subject t, term.asked.2)) =
      (.ok (t.subject term.column.name, term.direction == some .descending) :
        Except Fault (Subject × Bool)) :=
  bind_eq_ok.2 ⟨_, subject_mention t term.column, rfl⟩

/-- **The columns to order by are told apart from the limit**, and read. -/
theorem order_eq (order : List OrderTerm) {rest qs : List Piece}
    (h : qs.map atStart = OrderTerm.orderPieces order ++ rest)
    (hrest : ∀ p ∈ rest.head?, p = word "LIMIT") :
    ∃ qs', s.order qs = .ok (order.map OrderTerm.asked, qs') ∧ qs'.map atStart = rest := by
  have hlimit : (word "LIMIT").isWord "limit" = true ∧ (word "LIMIT").isWord "order" = false := ⟨rfl, rfl⟩
  unfold OrderTerm.orderPieces at h
  split_ifs at h with hnone
  · subst hnone
    rw [List.nil_append] at h
    subst h
    refine ⟨qs, ?_, rfl⟩
    match qs, hrest with
    | [], _ => rfl
    | [_], _ => rfl
    | p :: q :: qs, hrest =>
      have hp : p.isWord "order" = false :=
        (congrArg (·.isWord "order") (hrest p.atStart rfl)).trans hlimit.2
      simp only [Source.order, hp]
      rfl
  · obtain ⟨o, qs, rfl, ho, h⟩ := List.map_eq_cons_iff.1 h
    obtain ⟨b, qs, rfl, hb, h⟩ := List.map_eq_cons_iff.1 h
    have hfree : ∀ p ∈ joined (order.map OrderTerm.pieces), p.isWord "limit" = false := fun p hp =>
      whole_joined (List.forall_mem_map.2 fun t _ => whole_term t) p hp "limit" (by decide)
    obtain ⟨terms, qs', htake, hdrop, hterms, hqs'⟩ :=
      split_at (·.isWord "limit") (fun _ => rfl) h hfree
        (fun p hp => hrest p hp ▸ hlimit.1)
    have horder : o.isWord "order" = true :=
      (congrArg (·.isWord "order") ho).trans rfl
    have hby : b.isWord "by" = true := (congrArg (·.isWord "by") hb).trans rfl
    have hcomma (t : OrderTerm) : ∀ p ∈ t.pieces, p.isSign "," = false := by
      refine List.forall_mem_cons.2 ⟨rfl, ?_⟩
      cases t.direction with
      | none => exact nofun
      | some direction => exact List.forall_mem_singleton.2 rfl
    have hread := reads_joined (reads_term s) hcomma hnone terms hterms
    refine ⟨qs', ?_, hqs'⟩
    simp only [Source.order, horder, hby, htake, hdrop, if_true]
    exact bind_eq_ok.2 ⟨_, hread, rfl⟩

theorem reads_count (n : Nat) : Reads s.count [number n] (some n) := by
  refine reads_cons fun offset => reads_nil ?_
  have hdigits : Source.digits? [(number n).after offset] = some n := by
    show wholeOf 10 (String.ofList (digitsText n)).toList = _
    rw [String.toList_ofList, wholeOf_digitsText]
  have hoperand : s.operand [(number n).after offset] =
      .ok (Draft.numberCell (String.ofList (digitsText n))) := rfl
  simp only [Source.count, hoperand, hdigits]
  rfl

theorem reads_unbounded : Reads s.count [sign "-", number 1] none := by
  refine reads_cons fun offset => reads_cons fun offset' => reads_nil ?_
  have hcell : Affinity.numeric.store (Draft.negated (Draft.numberCell (String.ofList
      (digitsText 1)))) = .integer (-1) := by decide
  have hoperand : s.operand [(sign "-").after offset, (number 1).after offset'] =
      .ok (Draft.negated (Draft.numberCell (String.ofList (digitsText 1)))) := rfl
  have hdigits : Source.digits? [(sign "-").after offset, (number 1).after offset'] = none := rfl
  simp only [Source.count, hoperand, hdigits]
  exact congrArg Except.ok (by rw [hcell]; rfl)

/-- **The limit and the offset are read as numbers.** -/
theorem reads_range (limit offset : Option UInt64) :
    Reads s.range (limitPieces limit offset ++ offsetPieces offset)
      (limit.map UInt64.toNat, offset.map UInt64.toNat) := by
  have hrange {body : List Piece} {n : Option Nat} (hbody : Reads s.count body n)
      (hwhole : Whole body) : Reads s.range (word "LIMIT" :: (body ++ offsetPieces offset))
        (n, offset.map UInt64.toNat) := by
    refine reads_cons fun place qs hqs => ?_
    have hlimit : (word "LIMIT").isWord "limit" = true := rfl
    have hstop : ∀ p ∈ (offsetPieces offset).head?, p.isWord "offset" = true := by
      cases offset <;> rintro _ ⟨⟩
      decide
    obtain ⟨a, b, htake, hdrop, ha, hb⟩ := split_at (·.isWord "offset") (fun _ => rfl) hqs
      (fun p hp => hwhole p hp "offset" (by decide)) hstop
    simp only [Source.range, isWord_after, hlimit, htake, hdrop, hbody a ha]
    cases offset with
    | none =>
      rw [List.map_eq_nil_iff.1 hb]
      rfl
    | some m =>
      obtain ⟨w, b, rfl, -, hb⟩ := List.map_eq_cons_iff.1 hb
      simp only [reads_count s m.toNat b hb]
      rfl
  have hnumber (n : Nat) : Whole [number n] := whole_singleton.2 fun _ _ => rfl
  match limit, offset with
  | some n, _ => exact hrange (reads_count s n.toNat) (hnumber _)
  | none, some _ => exact hrange (reads_unbounded s) (whole_cons.2 ⟨fun _ _ => rfl, hnumber 1⟩)
  | none, none => exact reads_nil rfl

end Store

end TableService
