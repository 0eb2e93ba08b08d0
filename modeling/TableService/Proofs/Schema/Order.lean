/-
  What the creation of the tables of a document comes to, where creating a table never fails.

  * `compile_result`, `compile_calls`: the emitted tables are created in order, and the creation
    fails if any are blocked.
  * `creation_succeeds_iff`: it succeeds exactly if no table refers to itself, directly or not.
  * `cycles_block_creation`: else it names the tables from which a cycle can be reached, and has
    created all others.
-/
import TableService.Proofs.Catalogue
import TableService.Proofs.Schema.Cycles
import TableService.Proofs.Schema.Start
import TableService.Proofs.Text.ByteOrder

namespace TableService

theorem Database.AlwaysCreates.watched {σ : Type} {db : Database σ} (h : db.AlwaysCreates) :
    db.watched.AlwaysCreates := fun table definitions w => h table definitions w.unwatched

namespace Schema

open Text (utf8)

variable {σ : Type} {db : Database σ}

/-- Distinct texts are sorted strictly. -/
theorem pairwise_mergeSort_lt {texts : List String} (h : texts.Nodup) :
    texts.mergeSort.Pairwise (· < ·) := by
  have hle : texts.mergeSort.Pairwise (· ≤ ·) :=
    List.pairwise_mergeSort' (· ≤ ·) texts
  have hne : texts.mergeSort.Nodup := (List.mergeSort_perm texts _).nodup_iff.2 h
  exact (hle.and hne).imp fun h => Std.lt_of_le_of_ne h.1 h.2

/-! ## Runs of the creation -/

section
variable {ctx : Context} {doc : Document} {plans : List Plan} (hp : doc.plans ctx = .ok plans)
  (hdb : db.AlwaysCreates) {order blocked : List Plan} (hem : Emission [] plans order blocked)
include hp hdb hem

/-- A run of the creation is that of its end, once all emitted tables have been created. -/
theorem compile_outcome (r : Registry) (w : Logged σ) :
    (compile db ctx doc r).2.outcome w =
      (conclude (order.map Plan.name) blocked).outcome ((createEach db order).outcome w).2 := by
  rw [compile_eq hp, hem.createAll_eq, List.nil_append,
    Action.outcome_bind_ok (Prod.ext (outcome_createEach hdb order w) rfl)]

/-- **The calls of the creation** are those that create the emitted tables. -/
theorem compile_calls (r : Registry) (w : Logged σ) :
    (eventsOf (compile db.watched ctx doc r).2 w).map Event.call =
      order.map (·.call db.dialect) := by
  rw [eventsOf, compile_outcome hp hdb.watched hem, conclude_state]
  obtain ⟨es, he, -, hall⟩ := made_createEach db order w.watched
  rw [he]
  exact hall (outcome_createEach hdb.watched order w.watched)

end

/-! ## Creation without and with cycles -/

section
variable {ctx : Context} {doc : Document} {plans : List Plan}

/-- **The creation succeeds exactly if no table refers to itself**, directly or not.  Then it has
created every table of the document once, each by its own definitions and after all tables that it
refers to. -/
theorem creation_succeeds_iff (hdb : db.AlwaysCreates) (hp : doc.plans ctx = .ok plans)
    (r : Registry) (w : Logged σ) :
    ((∃ order, ((compile db ctx doc r).2.outcome w).1 = .ok order) ↔
      ∀ a, ¬ Relation.TransGen (doc.Refers ctx) a a) ∧
    ∀ order, ((compile db ctx doc r).2.outcome w).1 = .ok order →
      order.Nodup ∧ order.Perm doc.names ∧ doc.Ordered ctx order ∧
        ∃ ps : List Plan, ps.Perm plans ∧ order = ps.map Plan.name ∧
          (eventsOf (compile db.watched ctx doc r).2 w).map Event.call =
            ps.map (·.call db.dialect) := by
  obtain ⟨ps, blocked, hem⟩ := Emission.exists [] plans
  rw [compile_outcome hp hdb hem, ← blocked_eq_nil_iff hp hem]
  cases blocked with
  | nil =>
    rw [conclude_nil]
    refine ⟨⟨fun _ => rfl, fun _ => ⟨_, rfl⟩⟩, fun order ho => ?_⟩
    obtain rfl : ps.map Plan.name = order := Except.ok.inj ho
    exact ⟨by simpa using nodup_emission hp hem, by simpa using names_emission hp hem,
      ordered_emission hp hem, ps, by simpa using hem.perm, rfl, compile_calls hp hdb hem r w⟩
  | cons q blocked =>
    rw [conclude_cons]
    simp

/-- The tables of the shop lead to no cycle, and are created in order. -/
theorem shop_created : (Database.listing .sqlite []).AlwaysCreates ∧
    shop.plans shopContext = .ok [shopOrders, shopItems] ∧
    (∀ a, ¬ Relation.TransGen (shop.Refers shopContext) a a) ∧
    shop.Ordered shopContext ["items", "orders"] := by
  have hrun : ((compile (Database.listing .sqlite []) shopContext shop .empty).2.outcome
      ⟨["users"], []⟩).1 = .ok ["items", "orders"] := by
    rw [compile_eq shop_plans, shop_emission.createAll_eq]
    rfl
  obtain ⟨hiff, hok⟩ := creation_succeeds_iff (listing_alwaysCreates .sqlite) shop_plans .empty
    ⟨["users"], []⟩
  exact ⟨listing_alwaysCreates .sqlite, shop_plans, hiff.1 ⟨_, hrun⟩, (hok _ hrun).2.2.1⟩

/-- **A cycle blocks the tables from which it can be reached.**  The creation fails and names them,
each once, in the order of their bytes.  It has created every other table once, each by its own
definitions and after all tables that it refers to, and nothing after that. -/
theorem cycles_block_creation (hdb : db.AlwaysCreates) (hp : doc.plans ctx = .ok plans)
    (hc : ∃ a, Relation.TransGen (doc.Refers ctx) a a) (r : Registry) (w : Logged σ) :
    ∃ (blocked : List String) (ps : List Plan),
      ((compile db ctx doc r).2.outcome w).1 = .error (.circularDependency blocked) ∧
      (∀ t, t ∈ blocked ↔ t ∈ doc.names ∧ ReachesCycle (doc.Refers ctx) t) ∧
      blocked.Pairwise (fun s t => utf8 s < utf8 t) ∧
      (eventsOf (compile db.watched ctx doc r).2 w).map Event.call =
        ps.map (·.call db.dialect) ∧
      ps ⊆ plans ∧ (ps.map Plan.name).Nodup ∧
      (∀ t, t ∈ ps.map Plan.name ↔ t ∈ doc.names ∧ t ∉ blocked) ∧
      doc.Ordered ctx (ps.map Plan.name) := by
  obtain ⟨ps, blocked, hem⟩ := Emission.exists [] plans
  rw [compile_outcome hp hdb hem]
  cases blocked with
  | nil =>
    obtain ⟨a, ha⟩ := hc
    exact absurd ha ((blocked_eq_nil_iff hp hem).1 rfl a)
  | cons q blocked =>
    have hnd := nodup_emission hp hem
    refine ⟨_, ps, conclude_cons _ _ _ _, fun t => ?_, ?_, compile_calls hp hdb hem r w,
      fun p h => hem.perm.subset (List.mem_append_left _ h), hnd.of_append_left, fun t => ?_,
      ordered_emission hp hem⟩
    · rw [List.mem_mergeSort]
      exact mem_blocked_iff hp hem
    · exact (pairwise_mergeSort_lt hnd.of_append_right).imp Text.utf8_lt
    · rw [List.mem_mergeSort, ← (names_emission hp hem).mem_iff, List.mem_append]
      exact ⟨fun h => ⟨.inl h, List.disjoint_of_nodup_append hnd h⟩, fun h => h.1.resolve_right h.2⟩

end

/-- The author of a book. -/
def author : Relation := ⟨"author", "int", true, ⟨"authors", "id", false, none, none⟩⟩

/-- A book of an author, or that of a review. -/
def book : Relation := ⟨"book", "int", false, ⟨"books", "id", false, none, none⟩⟩

/-- Books by authors, each of whom has a best one, reviews of books, and rooms. -/
def library : Document := ⟨[⟨"reviews", [.relation book]⟩, ⟨"books", [.relation author]⟩,
  ⟨"authors", [.relation book]⟩, ⟨"rooms", []⟩]⟩

/-- The authors and the books of the library block each other and the reviews, not the rooms. -/
theorem library_blocked : ∃ plans blocked,
    library.plans ⟨[], none⟩ = .ok plans ∧
    (∃ a, Relation.TransGen (library.Refers ⟨[], none⟩) a a) ∧
    ((compile (Database.listing .mysql []) ⟨[], none⟩ library .empty).2.outcome ⟨[], []⟩).1 =
      .error (.circularDependency blocked) ∧ "authors" ∈ blocked ∧ "reviews" ∈ blocked := by
  have hok : (library.plans ⟨[], none⟩).isOk = true := by decide +kernel
  obtain ⟨plans, hp⟩ : ∃ plans, library.plans ⟨[], none⟩ = .ok plans := by
    cases h : library.plans ⟨[], none⟩ with
    | ok plans => exact ⟨plans, rfl⟩
    | error e => rw [h] at hok; cases hok
  have hab : library.Refers ⟨[], none⟩ "authors" "books" :=
    ⟨by decide, by decide, ⟨"authors", [.relation book]⟩, by decide, rfl, book, by decide, rfl⟩
  have hba : library.Refers ⟨[], none⟩ "books" "authors" :=
    ⟨by decide, by decide, ⟨"books", [.relation author]⟩, by decide, rfl, author, by decide, rfl⟩
  have hrb : library.Refers ⟨[], none⟩ "reviews" "books" :=
    ⟨by decide, by decide, ⟨"reviews", [.relation book]⟩, by decide, rfl, book, by decide, rfl⟩
  have hc : Relation.TransGen (library.Refers ⟨[], none⟩) "books" "books" := .tail (.single hba) hab
  obtain ⟨blocked, ps, hrun, hmem, -⟩ := cycles_block_creation (listing_alwaysCreates .mysql) hp
    ⟨"books", hc⟩ .empty ⟨[], []⟩
  exact ⟨plans, blocked, hp, ⟨"books", hc⟩, hrun,
    (hmem "authors").2 ⟨by decide, "books", .single hab, hc⟩,
    (hmem "reviews").2 ⟨by decide, "books", .single hrb, hc⟩⟩

end Schema

end TableService
