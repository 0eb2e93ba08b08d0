/-
  What follows the predicate of a read.

  * A `Sql.Tail` is an order, a limit and an offset with their numbers; `readTail_tokens`: its
    tokens are read as that tail.
  * `wantedLimit` is the limit that a dialect writes, which for an offset alone may be an unbounded
    one.
  * `tail_reads_back`: the orders that are written are the orderly ones, and the text says the
    order, the limit and the offset, and nothing else.
-/
import TableService.Proofs.Query.Acceptance
import TableService.Proofs.Query.Statement

namespace TableService

namespace Sql

/-! ## Numbers of rows -/

/-- The tokens of an integer. -/
def integerTokens (i : Int) : List Token :=
  (if i < 0 then [.sign '-'] else []) ++ [.word (String.ofList (digitsText i.natAbs))]

/-- Reads an integer. -/
def readInteger? : List Token → Option Int
  | [.word w] => (wholeOf 10 w.toList).map fun n : Nat => (n : Int)
  | [.sign '-', .word w] => (wholeOf 10 w.toList).map fun n : Nat => -(n : Int)
  | _ => none

theorem readInteger_tokens (i : Int) : readInteger? (integerTokens i) = some i := by
  unfold integerTokens
  split_ifs with h
  · rw [List.singleton_append, readInteger?, String.toList_ofList, wholeOf_digitsText,
      Option.map_some, Int.ofNat_natAbs_of_nonpos (by omega), Int.neg_neg]
  · rw [List.nil_append, readInteger?, String.toList_ofList, wholeOf_digitsText, Option.map_some,
      Int.natAbs_of_nonneg (by omega)]

/-- Reads an integer that may be absent. -/
def readBound? : Option (List Token) → Option (Option Int)
  | none => some none
  | some ts => (readInteger? ts).map some

theorem readBound_tokens (i : Option Int) : readBound? (i.map integerTokens) = some i := by
  cases i with
  | none => rfl
  | some i => simp [readBound?, readInteger_tokens]

/-! ## Tails -/

/-- The order of a selection and the part of its rows that is wanted. -/
structure Tail where
  order : List (String × Option Direction)
  limit : Option Int
  offset : Option Int

namespace Tail

/-- The clauses of a tail. -/
def clauses (t : Tail) : List Clause :=
  clause? "ORDER" (orderTokens t.order) ++ (clause? "LIMIT" (t.limit.map integerTokens) ++
    clause? "OFFSET" (t.offset.map integerTokens))

/-- The tokens of a tail. -/
def tokens (t : Tail) : List Token := flatten t.clauses

end Tail

/-- Reads a tail. -/
def readTail? (ts : List Token) : Option Tail :=
  match clauses ts with
  | ([], cs) => do
    let (order, cs) := take? "ORDER" cs
    let (limit, cs) := take? "LIMIT" cs
    let (offset, cs) := take? "OFFSET" cs
    if cs ≠ [] then none
    return ⟨← readOrder? order, ← readBound? limit, ← readBound? offset⟩
  | _ => none

theorem plain_integer (i : Int) : Plain (integerTokens i) := by
  have hdigits : (Token.word (String.ofList (digitsText i.natAbs))).keyword? = none :=
    if_neg (digits_not_keyword i.natAbs)
  unfold integerTokens
  split_ifs <;> simp [hdigits]

/-- There are no keywords in a tail but those that begin its clauses. -/
theorem Tail.clauses_are_plain (t : Tail) : ∀ c ∈ t.clauses, c.1 ∈ keywords ∧ Plain c.2 := by
  have hbound : ∀ (i : Option Int) ts, i.map integerTokens = some ts → Plain ts := by
    intro i ts h
    obtain ⟨i, -, rfl⟩ := Option.map_eq_some_iff.1 h
    exact plain_integer i
  simp only [clauses, List.forall_mem_append, forall_mem_clause]
  exact ⟨fun ts h => ⟨by decide, plain_orderTokens h⟩, fun ts h => ⟨by decide, hbound _ ts h⟩,
    fun ts h => ⟨by decide, hbound _ ts h⟩⟩

/-- **The tokens of a tail are read as that tail.** -/
theorem readTail_tokens (t : Tail) : readTail? t.tokens = some t := by
  have hlimit : take? "LIMIT" (clause? "LIMIT" (t.limit.map integerTokens) ++
      clause? "OFFSET" (t.offset.map integerTokens)) =
      (t.limit.map integerTokens, clause? "OFFSET" (t.offset.map integerTokens)) :=
    take_clause (by cases t.offset <;> simp [clause?])
  have horder : take? "ORDER" t.clauses = (orderTokens t.order,
      clause? "LIMIT" (t.limit.map integerTokens) ++
        clause? "OFFSET" (t.offset.map integerTokens)) :=
    take_clause (by cases t.limit <;> cases t.offset <;> simp [clause?])
  rw [readTail?, Tail.tokens, clauses_flatten t.clauses_are_plain]
  simp [horder, hlimit, take_clause_nil, readOrder_orderTokens, readBound_tokens]

/-- **The keywords of a tail** are those of the parts that it has. -/
theorem Tail.word_mem_tokens (t : Tail) {w : String} (hw : w ∈ keywords) :
    .word w ∈ t.tokens ↔ w = "ORDER" ∧ t.order ≠ [] ∨ w = "LIMIT" ∧ t.limit ≠ none ∨
      w = "OFFSET" ∧ t.offset ≠ none := by
  have hclause : ∀ (v : String) (ts : Option (List Token)),
      w ∈ (clause? v ts).map Prod.fst ↔ w = v ∧ ts ≠ none := by
    intro v ts
    cases ts <;> simp [clause?]
  have horder : orderTokens t.order ≠ none ↔ t.order ≠ [] := by simp [orderTokens]
  rw [tokens, word_mem_flatten hw fun c hc => (t.clauses_are_plain c hc).2]
  simp only [clauses, List.map_append, List.mem_append, hclause, horder, ne_eq,
    Option.map_eq_none_iff]

end Sql

open Sql

variable {d : Dialect}

/-! ## Orders -/

namespace OrderTerm

/-- An entry of an order is a valid name, or a valid name and a direction, as words between
blanks. -/
def Orderly (entry : String) : Prop :=
  ∃ field, Identifier.Valid field ∧ (Text.words entry = [field] ∨
    ∃ word, Text.words entry = [field, word] ∧
      (Text.upper word = "ASC" ∨ Text.upper word = "DESC"))

theorem orderly_iff {entry : String} :
    Orderly entry ↔ WellFormed entry ∧ ∀ n ∈ (Text.words entry).head?, Identifier.Valid n := by
  constructor
  · rintro ⟨field, hvalid, hwords⟩
    refine ⟨⟨field, hwords⟩, fun n hn => ?_⟩
    obtain h | ⟨word, h, -⟩ := hwords <;> rw [h] at hn <;> cases hn <;> exact hvalid
  · rintro ⟨⟨field, hwords⟩, hvalid⟩
    refine ⟨field, hvalid field ?_, hwords⟩
    obtain h | ⟨word, h, -⟩ := hwords <;> rw [h] <;> rfl

theorem ofEntry_ok_iff_orderly {entry : String} : (∃ t, ofEntry entry = .ok t) ↔ Orderly entry :=
  ofEntry_ok_iff.trans orderly_iff.symm

/-- The terms of an order are on the columns and in the directions of its entries. -/
theorem ordersBy_ofEntries {entries : Option (List String)} {order : List OrderTerm}
    (h : ofEntries entries = .ok order) :
    List.Forall₂ OrdersBy (entries.getD []) (order.map fun t => (t.column.name, t.direction)) :=
  List.forall₂_map_right_iff.2 ((mapM_eq_ok.1 h).imp fun _ _ => ordersBy_ofEntry)

end OrderTerm

/-! ## Limits -/

/-- The limit that is written: the one that is given, and for an offset alone one that does not
bind, where the dialect needs one. -/
def wantedLimit (d : Dialect) : Option UInt64 → Option UInt64 → Option Int
  | some n, _ => some n.toNat
  | none, none => none
  | none, some _ =>
    match d with
    | .sqlite => some (-1)
    | .mysql => some 18446744073709551615
    | .postgres => none

theorem limitTokens_eq (limit offset : Option UInt64) :
    limitTokens d limit offset = (wantedLimit d limit offset).map integerTokens := by
  cases limit with
  | some n => rfl
  | none =>
    cases offset with
    | none => rfl
    | some m => cases d <;> rfl

theorem wantedLimit_ne_none {limit offset : Option UInt64} :
    wantedLimit d limit offset ≠ none ↔ limit ≠ none ∨ offset ≠ none ∧ d ≠ .postgres := by
  cases limit <;> cases offset <;> cases d <;> simp [wantedLimit]

/-! ## Texts -/

/-- The tail as it is read. -/
def tailOf (d : Dialect) (order : List OrderTerm) (limit offset : Option UInt64) : Tail where
  order := order.map fun t => (t.column.name, t.direction)
  limit := wantedLimit d limit offset
  offset := offset.map fun n => (n.toNat : Int)

/-- The text of a tail is read as its tokens. -/
theorem lexes_tail (order : List OrderTerm) (limit offset : Option UInt64) :
    Lexes d (tailSql d order limit offset).toList (tailOf d order limit offset).tokens := by
  have hoffset : ((offset.map fun n => (n.toNat : Int)).map integerTokens) =
      offset.map countTokens := by
    cases offset <;> rfl
  have hall := (follows_order (d := d) order).append
    ((follows_limit limit offset).append (follows_offset offset))
  rw [Tail.tokens, Tail.clauses, tailOf, ← limitTokens_eq, hoffset]
  unfold tailSql
  rw [String.toList_append, String.toList_append, List.append_assoc]
  exact hall.lexes

/-- **The tail of a read says what was asked for.**  It is written exactly if each entry of the
order is a valid name with or without a direction.  By the quoting rule of the dialect its text is
then read as the columns and the directions of the entries, in order, and the limit and the offset
with their values.  Nothing else is there: no order without entries, no limit and no offset that was
not asked for, but a limit that does not bind where there is an offset alone and the dialect needs
one. -/
theorem tail_reads_back (d : Dialect) (entries : Option (List String))
    (limit offset : Option UInt64) :
    ((∃ text, tail d entries limit offset = .ok text) ↔
      ∀ e ∈ entries.getD [], OrderTerm.Orderly e) ∧
    ∀ text, tail d entries limit offset = .ok text → ∃ t : Tail,
      tokens d text.toList = some t.tokens ∧ readTail? t.tokens = some t ∧
      List.Forall₂ OrdersBy (entries.getD []) t.order ∧
      t.limit = wantedLimit d limit offset ∧ t.offset = offset.map (fun n => (n.toNat : Int)) ∧
      ∀ w ∈ keywords, .word w ∈ t.tokens ↔
        w = "ORDER" ∧ entries.getD [] ≠ [] ∨
        w = "LIMIT" ∧ (limit ≠ none ∨ offset ≠ none ∧ d ≠ .postgres) ∨
        w = "OFFSET" ∧ offset ≠ none := by
  constructor
  · simp only [tail, map_ok_iff, OrderTerm.ofEntries, mapM_ok_iff,
      OrderTerm.ofEntry_ok_iff_orderly]
  · intro text h
    obtain ⟨order, horder, rfl⟩ := map_eq_ok.1 h
    have hentries : List.Forall₂ OrdersBy (entries.getD []) (tailOf d order limit offset).order :=
      OrderTerm.ordersBy_ofEntries horder
    refine ⟨tailOf d order limit offset, (lexes_tail order limit offset).tokens_eq,
      readTail_tokens _, hentries, rfl, rfl, fun w hw => ?_⟩
    have hempty : (tailOf d order limit offset).order ≠ [] ↔ entries.getD [] ≠ [] := by
      rw [Ne, ← List.length_eq_zero_iff, ← hentries.length_eq, List.length_eq_zero_iff]
    have hoffset : (tailOf d order limit offset).offset ≠ none ↔ offset ≠ none := by
      simp [tailOf]
    rw [Tail.word_mem_tokens _ hw, hempty, hoffset]
    exact or_congr_right (or_congr_left (and_congr_right fun _ => wantedLimit_ne_none))

/-- An entry with quote characters and what would begin a comment, and an offset alone. -/
theorem odd_tail_reads_back :
    tail .mysql (some ["a`,--\tdEsc", " LIMIT "]) none (some 5) = .ok
      " ORDER BY `a``,--` DESC, `LIMIT` LIMIT 18446744073709551615 OFFSET 5" ∧
    ∃ t : Tail,
      tokens .mysql " ORDER BY `a``,--` DESC, `LIMIT` LIMIT 18446744073709551615 OFFSET 5".toList =
        some t.tokens ∧
      readTail? t.tokens = some t ∧ List.Forall₂ OrdersBy ["a`,--\tdEsc", " LIMIT "] t.order ∧
      t.limit = some 18446744073709551615 ∧ t.offset = some 5 := by
  have htext : tail .mysql (some ["a`,--\tdEsc", " LIMIT "]) none (some 5) = .ok
      " ORDER BY `a``,--` DESC, `LIMIT` LIMIT 18446744073709551615 OFFSET 5" := by
    decide +kernel
  obtain ⟨t, htokens, hread, horder, hlimit, hoffset, -⟩ :=
    (tail_reads_back .mysql (some ["a`,--\tdEsc", " LIMIT "]) none (some 5)).2 _ htext
  exact ⟨htext, t, htokens, hread, horder, hlimit, hoffset⟩

end TableService
