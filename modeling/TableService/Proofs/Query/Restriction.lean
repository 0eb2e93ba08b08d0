/-
  When a filter restricts the rows of a statement.

  * A condition may have no operators; it then asks for nothing.  `Filter.Asking` are the filters
    all of whose conditions ask for something.
  * `asking_build`, `asking_read`: a filter that is built asks for something unless a step puts a
    condition without operators into it; one that is read, unless the text has an empty object for
    a condition.
  * `filter_restricts_iff`: the clause of a filter is empty exactly if none of its conditions asks
    for anything, and then a selection, an update or a deletion has no WHERE.
  * `empty_object_addresses_all`: so a filter that has a condition may address all rows.
-/
import TableService.Proofs.Query.Statement

namespace TableService

open Sql

/-! ## Conditions -/

theorem Condition.demands_eq_nil {c : Condition} {field : String} :
    c.demands field = [] ↔ c = .operators [] := by
  cases c with
  | literal value => simp [demands]
  | operators entries => simp [demands]

namespace Filter
variable {filter : Filter}

/-- Every condition asks for something. -/
def Asking (filter : Filter) : Prop := ∀ e ∈ filter.entries, e.2 ≠ .operators []

theorem demands_eq_nil : filter.demands = [] ↔ ∀ e ∈ filter.entries, e.2 = .operators [] := by
  simp only [demands, List.flatMap_eq_nil_iff, Condition.demands_eq_nil]

/-- There is no test exactly if no condition asks for anything. -/
theorem tests_eq_nil {tests : List Test} (h : filter.tests = .ok tests) :
    tests = [] ↔ ∀ e ∈ filter.entries, e.2 = .operators [] := by
  have hlength := (meaning_tests h).length_eq
  rw [← demands_eq_nil, ← List.length_eq_zero_iff, ← List.length_eq_zero_iff, hlength,
    List.length_map]

/-- If all conditions ask for something, none is idle only where there are no conditions. -/
theorem Asking.idle_iff (h : filter.Asking) :
    (∀ e ∈ filter.entries, e.2 = .operators []) ↔ filter.isEmpty = true := by
  rw [Named.isEmpty, List.isEmpty_iff, List.eq_nil_iff_forall_not_mem]
  exact forall_congr' fun e => ⟨fun hidle he => h e he (hidle he), fun hn he => absurd he hn⟩

/-! ## Building -/

/-- A step in building a filter. -/
inductive Step where
  | eq (field : String) (value : Json)
  | add (field : String) (op : Operator) (operand : Json)
  | set (field : String) (condition : Condition)

/-- The filter after a step. -/
def step (filter : Filter) : Step → Filter
  | .eq field value => filter.eq field value
  | .add field op operand => filter.add field op operand
  | .set field condition => filter.set field condition

/-- The filter after steps, from none. -/
def build (steps : List Step) : Filter := steps.foldl step Named.empty

theorem Asking.change (h : filter.Asking) {field : String} {f : Option Condition → Condition}
    (hf : ∀ c, f c ≠ .operators []) : Asking (Named.change filter field f) := by
  intro e he
  rcases Named.mem_changeEntries he with he | ⟨c, hc⟩
  · exact h e he
  · rw [hc]
    exact hf c

/-- A step that puts no condition without operators keeps a filter asking. -/
theorem Asking.step (h : filter.Asking) {s : Step} (hs : ∀ field, s ≠ .set field (.operators [])) :
    Asking (filter.step s) := by
  cases s with
  | eq field value =>
    exact h.change fun _ => by simp
  | add field op operand =>
    refine h.change fun c => ?_
    rcases c with _ | _ | entries <;> simp
  | set field condition =>
    refine h.change fun _ hc => hs field ?_
    rw [hc]

/-- Steps that put no condition without operators keep a filter asking. -/
theorem Asking.steps : ∀ {steps : List Step} {filter : Filter}, filter.Asking →
    (∀ field, .set field (.operators []) ∉ steps) → Asking (steps.foldl Filter.step filter)
  | [], _, h, _ => h
  | s :: steps, filter, h, hsteps => by
    have hs : ∀ field, s ≠ .set field (.operators []) := by
      rintro field rfl
      exact hsteps field List.mem_cons_self
    rw [List.foldl_cons]
    exact (h.step hs).steps fun field hmem => hsteps field (List.mem_cons_of_mem _ hmem)

/-- **A filter that is built asks for something**, unless a step puts a condition without
operators. -/
theorem asking_build {steps : List Step} (h : ∀ field, .set field (.operators []) ∉ steps) :
    (build steps).Asking :=
  Asking.steps (fun _ he => absurd he List.not_mem_nil) h

end Filter

/-! ## Reading -/

/-- The members of an object, as far as it can be read. -/
def Source.members : Source → List (Scalar String × Source)
  | .object members _ => members
  | _ => []

/-- Only an empty object is a condition without operators. -/
theorem Condition.source_of_idle {depth : Nat} {v : Source}
    (h : Condition.shape depth v = .ok (.operators [])) : v = .object [] none := by
  cases v with
  | object members stop =>
    obtain ⟨entries, hentries, he⟩ := map_eq_ok.1 h
    cases he
    cases depth with
    | zero => cases hentries
    | succ depth =>
      obtain ⟨ms, hms, hentries⟩ := bind_eq_ok.1 hentries
      obtain ⟨_, hstop, hentries⟩ := bind_eq_ok.1 hentries
      cases hentries
      cases mapM_eq_ok.1 hms
      cases stop with
      | none => rfl
      | some f => cases hstop
  | null | bool b | broken f => cases h
  | number n | string s | array items stop =>
    obtain ⟨value, -, he⟩ := map_eq_ok.1 h
    cases he

theorem Filter.asking_shape {depth : Nat} {v : Source} {filter : Filter}
    (h : Filter.shape depth v = .ok filter) (hv : ∀ m ∈ v.members, m.2 ≠ .object [] none) :
    filter.Asking := by
  obtain ⟨conditions, hc, rfl⟩ := map_eq_ok.1 h
  have hasking : ∀ e ∈ conditions, e.2 ≠ .operators [] := by
    intro e he
    cases v with
    | object members stop =>
      cases depth with
      | zero => cases hc
      | succ depth =>
        obtain ⟨ms, hms, hc⟩ := bind_eq_ok.1 hc
        obtain ⟨_, -, hc⟩ := bind_eq_ok.1 hc
        cases hc
        obtain ⟨m, hm, hread⟩ := forall₂_mem_right (mapM_eq_ok.1 hms) e he
        obtain ⟨name, -, hread⟩ := bind_eq_ok.1 hread
        obtain ⟨condition, hcondition, hread⟩ := bind_eq_ok.1 hread
        cases hread
        rintro rfl
        exact hv m hm (Condition.source_of_idle hcondition)
    | number n =>
      obtain ⟨_, -, hc⟩ := bind_eq_ok.1 hc
      cases hc
    | string s =>
      obtain ⟨_, -, hc⟩ := bind_eq_ok.1 hc
      cases hc
    | null | bool b | broken f | array items stop => cases hc
  exact Named.forall_ofList (P := fun c : Condition => c ≠ .operators []) hasking

/-- **A filter that is read asks for something**, unless the text has an empty object for a
condition. -/
theorem Filter.asking_read {text : String} {filter : Filter}
    (h : Filter.shape.read text = .ok filter)
    (htext : ∀ m ∈ (Source.ofText text).source.members, m.2 ≠ .object [] none) :
    filter.Asking := by
  obtain ⟨f, hf, h⟩ := bind_eq_ok.1 h
  obtain ⟨-, -, h⟩ := bind_eq_ok.1 h
  cases h
  exact Filter.asking_shape hf htext

/-! ## Statements -/

theorem Request.tests_check {r : Request} {c : Command} {filter : Filter} (h : r.check = .ok c)
    (hr : r.filter? = some filter) : filter.tests = .ok c.tests := by
  cases r with
  | insert table row => cases hr
  | select table o =>
    obtain ⟨c, hc, rfl⟩ := map_eq_ok.1 h
    obtain ⟨-, -, htests, -⟩ := Select.check_ok hc
    rwa [show o.filter = some filter from hr] at htests
  | update table row filter' =>
    obtain ⟨c, hc, rfl⟩ := map_eq_ok.1 h
    obtain ⟨-, -, htests⟩ := Update.check_ok hc
    rwa [show filter' = some filter from hr] at htests
  | delete table filter' =>
    obtain ⟨c, hc, rfl⟩ := map_eq_ok.1 h
    obtain ⟨-, htests⟩ := Delete.check_ok hc
    rwa [show filter' = some filter from hr] at htests

theorem Command.conditions_marked {d : Dialect} (c : Command) :
    (c.marked d).conditions = Test.fragments d c.row.length c.tests := by
  cases c <;> rfl

/-- The statement of a request with a filter has a WHERE exactly if the filter has tests. -/
theorem Request.where_statement {d : Dialect} {r : Request} {s : Statement} {filter : Filter}
    (h : r.statement d = .ok s) (hr : r.filter? = some filter) :
    ∃ tests ts, filter.tests = .ok tests ∧ tokens d s.sql.toList = some ts ∧
      (.word "WHERE" ∈ ts ↔ tests ≠ []) := by
  obtain ⟨c, hc, rfl⟩ := map_eq_ok.1 h
  refine ⟨c.tests, (c.marked d).tokens d, tests_check hc hr, (lexes_statement c).tokens_eq, ?_⟩
  rw [where_mem_tokens (Request.check_ok hc).1, c.conditions_marked, Ne, Test.fragments_eq_nil]

/-- **A filter restricts a statement exactly if one of its conditions asks for something.**  Its
clause is empty exactly if none does, and a selection, an update or a deletion with the filter has
a WHERE exactly if one does.  If the filter was built without a condition that has no operators, or
read from a text without an empty object for a condition, then its clause is empty only if it has no
conditions at all. -/
theorem filter_restricts_iff {filter : Filter} {tests : List Test} (h : filter.tests = .ok tests)
    (d : Dialect) (k : Nat) :
    (Test.clause d k tests = "" ↔ ∀ e ∈ filter.entries, e.2 = .operators []) ∧
    (∀ r : Request, r.filter? = some filter → ∀ s, r.statement d = .ok s →
      ∃ ts, tokens d s.sql.toList = some ts ∧
        (.word "WHERE" ∈ ts ↔ ∃ e ∈ filter.entries, e.2 ≠ .operators [])) ∧
    (∀ steps, filter = Filter.build steps → (∀ field, .set field (.operators []) ∉ steps) →
      (Test.clause d k tests = "" ↔ filter.isEmpty = true)) ∧
    (∀ text, Filter.shape.read text = .ok filter →
      (∀ m ∈ (Source.ofText text).source.members, m.2 ≠ .object [] none) →
        (Test.clause d k tests = "" ↔ filter.isEmpty = true)) := by
  have hclause : Test.clause d k tests = "" ↔ ∀ e ∈ filter.entries, e.2 = .operators [] :=
    Test.clause_eq_empty.trans (Filter.tests_eq_nil h)
  refine ⟨hclause, fun r hr s hs => ?_, fun steps hbuild hsteps => ?_, fun text hread htext => ?_⟩
  · obtain ⟨tests', ts, htests', hts, hwhere⟩ := Request.where_statement hs hr
    cases h.symm.trans htests'
    refine ⟨ts, hts, hwhere.trans ?_⟩
    rw [Ne, Filter.tests_eq_nil h]
    simp only [not_forall, exists_prop]
  · rw [hclause]
    exact Filter.Asking.idle_iff (hbuild ▸ Filter.asking_build hsteps)
  · rw [hclause]
    exact Filter.Asking.idle_iff (Filter.asking_read hread htext)

/-- A filter with two conditions, as it is written. -/
def pricesText : String := "\x7b\"price\":\x7b\"$gte\":null\x7d,\"sold\":false\x7d"

/-- The same filter, as it is built. -/
def pricesSteps : List Filter.Step := [.add "price" (.compare .gte) .null, .eq "sold" (.bool false)]

/-- The prices are restricted, whether they are read or built. -/
theorem prices_restricted : ∃ tests s ts,
    Filter.shape.read pricesText = .ok (Filter.build pricesSteps) ∧
    (Filter.build pricesSteps).tests = .ok tests ∧
    (Request.delete "t" (some (Filter.build pricesSteps))).statement .postgres = .ok s ∧
    tokens .postgres s.sql.toList = some ts ∧ .word "WHERE" ∈ ts ∧
    Test.clause .postgres 0 tests ≠ "" ∧ Test.clause .mysql 2 tests ≠ "" := by
  have hread : Filter.shape.read pricesText = .ok ⟨[("price", .operators [("$gte", .null)]),
      ("sold", .literal (.bool false))], by decide⟩ := by with_unfolding_all rfl
  have hsource : (Source.ofText pricesText).source =
      .object [(⟨.ok "price", none⟩, .object [(⟨.ok "$gte", none⟩, .null)] none),
        (⟨.ok "sold", none⟩, .bool false)] none := by with_unfolding_all rfl
  have htests : (Filter.build pricesSteps).tests = .ok _ := rfl
  have hs : (Request.delete "t" (some (Filter.build pricesSteps))).statement .postgres = .ok _ :=
    rfl
  have hsold : ("sold", .literal (.bool false)) ∈ (Filter.build pricesSteps).entries :=
    .tail _ (.head _)
  have hempty : (Filter.build pricesSteps).isEmpty ≠ true := by decide
  obtain ⟨-, hstatement, -, htext⟩ := filter_restricts_iff htests .postgres 0
  obtain ⟨-, -, hbuilt, -⟩ := filter_restricts_iff htests .mysql 2
  obtain ⟨ts, hts, hwhere⟩ := hstatement _ rfl _ hs
  exact ⟨_, _, ts, hread, htests, hs, hts, hwhere.2 ⟨_, hsold, by simp⟩,
    mt (htext pricesText hread (by simp [hsource, Source.members])).1 hempty,
    mt (hbuilt pricesSteps rfl (by simp [pricesSteps])).1 hempty⟩

/-- A filter that has a condition may address all rows: that of an empty object asks for nothing. -/
theorem empty_object_addresses_all : ∃ filter tests,
    Filter.shape.read "\x7b\"a\":\x7b\x7d\x7d" = .ok filter ∧ filter.isEmpty = false ∧
    filter.tests = .ok tests ∧ Test.clause .sqlite 0 tests = "" ∧
    (Request.delete "t" (some filter)).statement .sqlite = .ok ⟨"DELETE FROM \"t\"", []⟩ := by
  have hread : Filter.shape.read "\x7b\"a\":\x7b\x7d\x7d" =
      .ok ⟨[("a", .operators [])], by decide⟩ := by with_unfolding_all rfl
  exact ⟨_, [], hread, rfl, rfl, rfl, rfl⟩

end TableService
