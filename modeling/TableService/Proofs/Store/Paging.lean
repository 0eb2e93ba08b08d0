/-
  A part of the rows of a result.

  * `engineCut` is what an engine with signed operands of 64 bits makes of a limit and an offset: a
    negative limit does not bind, and a number that does not fit is an error, unless no row is
    wanted.
  * `read_eq_engineCut`: a read gives what the engine makes of the numbers in its statement.
  * `read_paged`: a read with a limit and an offset gives the rows of the read without them, less
    the first ones and not more than so many, if both numbers fit; otherwise it fails.
-/
import TableService.Proofs.Query.Tail
import TableService.Proofs.Store.Change

namespace TableService

open Sql

/-! ## Options -/

/-- The read with another limit and offset. -/
def Select.paged (c : Select) (limit offset : Option UInt64) : Select :=
  { c with limit := limit, offset := offset }

namespace ReadOptions

/-- The options for all rows that pass the filter. -/
def unpaged (o : ReadOptions) : ReadOptions := { o with limit := none, offset := none }

/-- The part of a list that the options ask for. -/
def cut {α : Type} (o : ReadOptions) (l : List α) : List α :=
  let rest := l.drop (o.offset.elim 0 UInt64.toNat)
  o.limit.elim rest fun n => rest.take n.toNat

/-- The limit and the offset fit into a signed number of 64 bits, or no row is wanted. -/
def InRange (o : ReadOptions) : Prop :=
  o.limit = some 0 ∨
    (∀ n ∈ o.limit, n.toNat ≤ Store.maxRange) ∧ ∀ n ∈ o.offset, n.toNat ≤ Store.maxRange

end ReadOptions

/-- The limit and the offset of a read are checked only by the engine. -/
theorem Select.check_unpaged (table : String) (o : ReadOptions) :
    Select.check table o =
      (Select.check table o.unpaged).map fun c => c.paged o.limit o.offset := by
  unfold Select.check ReadOptions.unpaged
  cases (o.fields.getD []).mapM Identifier.ofName with
  | error => rfl
  | ok columns =>
    cases Filter.testsOf o.filter with
    | error => rfl
    | ok tests =>
      cases OrderTerm.ofEntries o.orderBy with
      | error => rfl
      | ok order => cases Identifier.ofName table <;> rfl

/-- A read whose checks succeed is the selection that they give. -/
theorem Database.read_checked {σ : Type} (db : Database σ) {table : String} {o : ReadOptions}
    {c : Select} (h : Select.check table o = .ok c) : db.read table o = db.select c := by
  unfold Database.read
  rw [h]
  rfl

namespace Store

/-! ## Pages -/

/-- What an engine with signed operands of 64 bits makes of a limit and an offset. -/
def engineCut {α : Type} (limit offset : Option Int) (l : List α) : Except Fault (List α) :=
  if limit = some 0 then .ok []
  else if limit.any ((maxRange : Int) < ·) || offset.any ((maxRange : Int) < ·) then
    .error .notInteger
  else
    let rest := l.drop (offset.getD 0).toNat
    .ok (match limit with
      | some n => if n < 0 then rest else rest.take n.toNat
      | none => rest)

/-- **A page is what the engine makes of the numbers that are written.** -/
theorem page_eq_engineCut {α : Type} (limit offset : Option UInt64) (l : List α) :
    page (limit.map UInt64.toNat) (offset.map UInt64.toNat) l =
      engineCut (wantedLimit .sqlite limit offset) (offset.map fun n => (n.toNat : Int)) l := by
  have hminus : ¬(maxRange : Int) < -1 := by omega
  cases limit with
  | some n =>
    have hbinds : ¬(n.toNat : Int) < 0 := by omega
    cases offset <;> simp [page, engineCut, wantedLimit, hbinds]
  | none => cases offset <;> simp [page, engineCut, wantedLimit, hminus]

theorem any_large_iff {n : Option UInt64} :
    (n.map UInt64.toNat).any (maxRange < ·) = true ↔ ¬∀ m ∈ n, m.toNat ≤ maxRange := by
  cases n <;> simp

/-- Numbers that fit cut a list. -/
theorem page_of_inRange {α : Type} {o : ReadOptions} (h : o.InRange) (l : List α) :
    page (o.limit.map UInt64.toNat) (o.offset.map UInt64.toNat) l = .ok (o.cut l) := by
  obtain h | ⟨hlimit, hoffset⟩ := h
  · simp [page, ReadOptions.cut, h]
  · have hfit : ¬((o.limit.map UInt64.toNat).any (maxRange < ·) ||
        (o.offset.map UInt64.toNat).any (maxRange < ·)) = true := by
      rw [Bool.or_eq_true, any_large_iff, any_large_iff]
      exact not_or.2 ⟨not_not.2 hlimit, not_not.2 hoffset⟩
    unfold page
    rw [if_neg hfit, ReadOptions.cut]
    cases o.limit with
    | none => cases o.offset <;> simp
    | some n =>
      by_cases hzero : n.toNat = 0
      · simp [hzero]
      · cases o.offset <;> simp [hzero]

/-- Numbers that do not fit are refused. -/
theorem page_of_not_inRange {α : Type} {o : ReadOptions} (h : ¬o.InRange) (l : List α) :
    page (o.limit.map UInt64.toNat) (o.offset.map UInt64.toNat) l = .error .notInteger := by
  obtain ⟨hzero, hlarge⟩ := not_or.1 h
  have hzero : o.limit.map UInt64.toNat ≠ some 0 := by
    rintro hmap
    obtain ⟨n, hn, hnat⟩ := Option.map_eq_some_iff.1 hmap
    exact hzero (hn.trans (congrArg some (UInt64.toNat_inj.1 hnat)))
  have hlarge : ((o.limit.map UInt64.toNat).any (maxRange < ·) ||
      (o.offset.map UInt64.toNat).any (maxRange < ·)) = true := by
    rw [Bool.or_eq_true, any_large_iff, any_large_iff]
    exact not_and_or.1 hlarge
  rw [page, if_neg hzero, if_pos hlarge]

/-- A read is a page of the read without a limit and an offset. -/
theorem select_paged (s : Contents) (c : Select) (limit offset : Option UInt64) :
    s.select (c.paged limit offset) = s.select (c.paged none none) >>=
      page (limit.map UInt64.toNat) (offset.map UInt64.toNat) := by
  unfold Contents.select Select.paged
  cases s.get c.table.name <;> rfl

/-- A read of a part is a page of the read of all rows. -/
theorem read_eq_page {table : String} {o : ReadOptions} {w : Logged Connection} {rows : List Row}
    (h : ((database.read table o.unpaged).outcome w).1 = .ok rows) :
    (database.read table o).outcome w =
      ((page (o.limit.map UInt64.toNat) (o.offset.map UInt64.toNat) rows).mapError
        Fault.toError, w) := by
  obtain ⟨state, log⟩ := w
  obtain ⟨c, s, hcheck, hs, hselect, -⟩ := read_eq_ok_iff.1 (Prod.ext h rfl)
  obtain rfl : state = .open s := hs
  have hall : c.paged none none = c := by
    obtain ⟨-, -, -, -, hlimit, hoffset⟩ := Select.check_ok hcheck
    obtain ⟨t, columns, tests, order, limit, offset⟩ := c
    cases hlimit
    cases hoffset
    rfl
  have hpaged : Select.check table o = .ok (c.paged o.limit o.offset) := by
    rw [Select.check_unpaged, hcheck]
    rfl
  rw [database.read_checked hpaged, select_open, select_paged, hall, hselect]
  rfl

/-- **A read gives what the engine makes of the numbers in its statement**, if the read of all rows
succeeds. -/
theorem read_eq_engineCut {table : String} {o : ReadOptions} {w : Logged Connection}
    {rows : List Row} (h : ((database.read table o.unpaged).outcome w).1 = .ok rows) :
    ∃ sql t, tail .sqlite o.orderBy o.limit o.offset = .ok sql ∧
      Sql.tokens .sqlite sql.toList = some t.tokens ∧ readTail? t.tokens = some t ∧
      (database.read table o).outcome w =
        ((engineCut t.limit t.offset rows).mapError Fault.toError, w) := by
  obtain ⟨c, -, hcheck, -⟩ := read_eq_ok_iff.1 (Prod.ext h rfl)
  obtain ⟨-, -, -, horder, -⟩ := Select.check_ok hcheck
  refine ⟨tailSql .sqlite c.order o.limit o.offset, tailOf .sqlite c.order o.limit o.offset,
    map_eq_ok.2 ⟨c.order, horder, rfl⟩, (lexes_tail c.order o.limit o.offset).tokens_eq,
    readTail_tokens _, ?_⟩
  rw [read_eq_page h, page_eq_engineCut]
  rfl

/-- **A read with a limit and an offset** gives the rows of the read without them, less the first
ones and not more than so many, if both fit into a signed number of 64 bits or no row is wanted.
All other numbers are refused by the engine.  Nothing is changed either way. -/
theorem read_paged {table : String} {o : ReadOptions} {w : Logged Connection} {rows : List Row}
    (h : ((database.read table o.unpaged).outcome w).1 = .ok rows) :
    (o.InRange → (database.read table o).outcome w = (.ok (o.cut rows), w)) ∧
    (¬o.InRange →
      (database.read table o).outcome w = (.error (.database "datatype mismatch"), w)) := by
  rw [read_eq_page h]
  constructor
  · intro hrange
    rw [page_of_inRange hrange]
    rfl
  · intro hrange
    rw [page_of_not_inRange hrange]
    rfl

/-- Three rows without values. -/
def waiting : Entries := ⟨[⟨1, []⟩, ⟨2, []⟩, ⟨3, []⟩], by decide⟩

/-- A store with a table of these rows. -/
def queue : Contents := ⟨[⟨"queue", [], [], [], waiting, 3⟩]⟩

/-- The row with this key in a result. -/
def numbered (id : Int64) : Row := .ofList [("id", .ofInt64 id)]

theorem read_queue : ((database.read "queue" ReadOptions.all.unpaged).outcome
    ⟨.open queue, []⟩).1 = .ok [numbered 1, numbered 2, numbered 3] := by
  have hcheck : Select.check "queue" ReadOptions.all.unpaged =
    .ok ⟨⟨"queue", by decide, by decide, by decide⟩, [], [], [], none, none⟩ := by rfl
  have hsorted : sorted [] waiting.list = waiting.list :=
    List.mergeSort_of_pairwise (by decide)
  rw [database.read_checked hcheck, select_open]
  show (Except.mapError Fault.toError (page none none
    ((sorted [] waiting.list).map fun e => numbered e.id))) = _
  rw [hsorted]
  rfl

/-- Two rows after the first one are two of the three. -/
theorem read_queue_paged :
    ((database.read "queue" ReadOptions.all.unpaged).outcome ⟨.open queue, []⟩).1 =
      .ok [numbered 1, numbered 2, numbered 3] ∧
    (database.read "queue" ((ReadOptions.all.withLimit 2).withOffset 1)).outcome
      ⟨.open queue, []⟩ = (.ok [numbered 2, numbered 3], ⟨.open queue, []⟩) := by
  have hrange : ((ReadOptions.all.withLimit 2).withOffset 1).InRange :=
    .inr ⟨by rintro _ ⟨⟩; decide, by rintro _ ⟨⟩; decide⟩
  have hcut : ((ReadOptions.all.withLimit 2).withOffset 1).cut
      [numbered 1, numbered 2, numbered 3] = [numbered 2, numbered 3] := by rfl
  have hread := (read_paged (o := (ReadOptions.all.withLimit 2).withOffset 1) read_queue).1 hrange
  rw [hcut] at hread
  exact ⟨read_queue, hread⟩

/-- The greatest limit that the options admit is refused, although the read of all rows gives fewer
than these. -/
theorem greatest_limit_refused :
    ((database.read "queue" ReadOptions.all.unpaged).outcome ⟨.open queue, []⟩).1 =
      .ok [numbered 1, numbered 2, numbered 3] ∧
    ((database.read "queue" (ReadOptions.all.withLimit 18446744073709551615)).outcome
      ⟨.open queue, []⟩).1 = .error (.database "datatype mismatch") ∧
    (ReadOptions.all.withLimit 18446744073709551615).cut [numbered 1, numbered 2, numbered 3] =
      [numbered 1, numbered 2, numbered 3] := by
  have hrange : ¬(ReadOptions.all.withLimit 18446744073709551615).InRange := by
    rintro (h | ⟨h, -⟩)
    · cases h
    · exact absurd (h _ rfl) (by decide)
  refine ⟨read_queue, ?_, by rfl⟩
  rw [read_eq_page (o := ReadOptions.all.withLimit 18446744073709551615) read_queue,
    page_of_not_inRange hrange]
  rfl

end Store

end TableService
