/-
  A clause says what its filter asks for.

  * `lexes_clause`: the text of tests is read as one fragment for each of them, joined by AND.
  * `marks_fragments`: their marks are those of the parameters after the ones used before, in order.
  * `clause_reads_back`: with the values of the parameters in place of the marks, the fragments are
    what the conditions of the filter demand, one for each literal and each operator.
-/
import TableService.Proofs.Query.Request
import TableService.Proofs.Sql.Condition

namespace TableService

open Sql

variable {d : Dialect}

namespace Test

/-- The test as it is read in a clause after `used` parameters. -/
def fragment (d : Dialect) (used : Nat) : Test → Fragment (Option Nat)
  | .compare column c _ => .compare column.name c (markNumber d (used + 1))
  | .member column negated _ others =>
    .member column.name negated (markNumber d (used + 1)) (marksAfter d (used + 1) others.length)
  | .constant holds => .constant holds

/-- The tests as they are read in a clause after `used` parameters. -/
def fragments (d : Dialect) (used : Nat) : List Test → List (Fragment (Option Nat))
  | [] => []
  | t :: ts => t.fragment d used :: fragments d (used + t.operands.length) ts

/-- The test with its values. -/
def meaning : Test → Fragment Json
  | .compare column c operand => .compare column.name c operand
  | .member column negated first others => .member column.name negated first others
  | .constant holds => .constant holds

/-! ## Texts -/

theorem lexes_comparison (c : Comparison) : Lexes d c.sql.toList (comparisonTokens c) := by
  cases c
  case like => exact (Spells.text rfl).lexes
  all_goals first
    | exact .sign rfl (.sign rfl .nil)
    | exact .sign rfl .nil

theorem lexes_marks (used count : Nat) :
    Lexes d (commaSpaced (marks d used count)).toList (markTokens (marksAfter d used count)) := by
  have hmarks : marks d used count = (List.range' (used + 1) count).map d.placeholder := by
    rw [marks, List.range'_eq_map_range, List.map_map]
    exact List.map_congr_left fun i _ => by rw [Function.comp_apply, Nat.add_right_comm]
  rw [markTokens, marksAfter, hmarks, List.map_map]
  refine .commaSpaced ?_
  rw [List.forall₂_map_left_iff, List.forall₂_map_right_iff, List.forall₂_same]
  exact fun n _ => (Spells.placeholder n).lexes

theorem lexes_member (negated : Bool) {cs : List Char} {ts : List Token} (h : Lexes d cs ts) :
    Lexes d ((if negated then Operator.outside else .within).sql.toList ++ (" (".toList ++ cs))
      (memberTokens negated ++ ts) := by
  have hin : Lexes d ("IN".toList ++ (" (".toList ++ cs)) (.word "IN" :: .sign '(' :: ts) :=
    (Spells.text rfl).lexes.append (.space (.sign rfl h)) (.space _)
  cases negated with
  | false => exact hin
  | true =>
    have hnot : Lexes d "NOT".toList [.word "NOT"] := (Spells.text rfl).lexes
    exact hnot.append hin.space (.space _)

theorem lexes_constant (holds : Bool) :
    Lexes d (d.constant holds).toList [.word (d.constant holds)] := by
  refine (Spells.text ?_).lexes
  cases d <;> cases holds <;> rfl

/-- **A test is read as its fragment.** -/
theorem lexes_sql (t : Test) (used : Nat) :
    Lexes d (t.sql d used).toList ((t.fragment d used).tokens d) := by
  cases t with
  | compare column c operand =>
    simp only [sql, String.toList_append, List.append_assoc]
    exact (Spells.quoted column.name).lexes.append
      ((lexes_comparison c).append (Spells.placeholder _).lexes.space (.space _)).space (.space _)
  | member column negated first others =>
    have hmarks := (lexes_marks (d := d) used (others.length + 1)).append
      (.sign rfl .nil) (.bracket [])
    simp only [sql, String.toList_append, List.append_assoc]
    exact (Spells.quoted column.name).lexes.append (lexes_member negated hmarks).space (.space _)
  | constant holds => exact lexes_constant holds

/-- The text of tests is read as their fragments, joined by AND. -/
theorem lexes_clause (tests : List Test) (used : Nat) :
    Lexes d (clause d used tests).toList
      ([.word "AND"].intercalate ((fragments d used tests).map (·.tokens d))) := by
  have hall : List.Forall₂ (fun s f => Lexes d s.toList (f.tokens d)) (sqls d used tests)
      (fragments d used tests) := by
    induction tests generalizing used with
    | nil => exact .nil
    | cons t ts ih => exact .cons (lexes_sql t used) (ih _)
  have hand : Lexes d "AND".toList [.word "AND"] := (Spells.text rfl).lexes
  have hsep : Lexes d " AND".toList [.word "AND"] := hand.space
  exact hsep.intercalate (.space "AND".toList) (List.forall₂_map_right_iff.2 hall)

/-! ## Values -/

theorem params_cons (t : Test) (ts : List Test) : params (t :: ts) = t.operands ++ params ts :=
  List.flatMap_cons

theorem operands_fragment (t : Test) (used : Nat) :
    (t.fragment d used).operands = marksAfter d used t.operands.length := by
  cases t <;> rfl

/-- **The marks of a clause are those after the ones used before**, in order. -/
theorem marks_fragments (tests : List Test) (used : Nat) :
    (fragments d used tests).flatMap Fragment.operands =
      marksAfter d used (params tests).length := by
  induction tests generalizing used with
  | nil => rfl
  | cons t ts ih =>
    rw [fragments, List.flatMap_cons, operands_fragment, ih, marksAfter_append, params_cons,
      List.length_append]

theorem refill_fragment (t : Test) (used : Nat) :
    (t.fragment d used).refill? t.operands = some t.meaning := by
  cases t with
  | compare column c operand => rfl
  | member column negated first others =>
    simp [fragment, operands, Fragment.refill?, marksAfter, meaning]
  | constant holds => rfl

theorem fill_fragments (tests : List Test) (used : Nat) :
    fill? (fragments d used tests) (params tests) = some (tests.map meaning) := by
  induction tests generalizing used with
  | nil => rfl
  | cons t ts ih =>
    have hlength : (t.fragment d used).operands.length = t.operands.length := by
      rw [operands_fragment, length_marksAfter]
    rw [fragments, fill?, params_cons, hlength, List.take_left, List.drop_left, refill_fragment, ih]
    rfl

/-- With the values of the parameters, the fragments of a clause are what its tests mean. -/
theorem bind_fragments (tests : List Test) (used : Nat) :
    bind? used (params tests) (fragments d used tests) = some (tests.map meaning) := by
  have hvalues := values_marksAfter d used [] (params tests)
  rw [List.nil_append, List.length_nil, Nat.add_zero] at hvalues
  rw [bind?, marks_fragments, hvalues]
  exact fill_fragments tests used

/-- Tests that follow others go on with the parameters after theirs. -/
theorem sqls_append (tests more : List Test) (used : Nat) :
    sqls d used (tests ++ more) =
      sqls d used tests ++ sqls d (used + (params tests).length) more := by
  induction tests generalizing used with
  | nil => rfl
  | cons t ts ih =>
    rw [List.cons_append, sqls, ih, sqls, params_cons, List.length_append, Nat.add_assoc,
      List.cons_append]

end Test

/-! ## Demands -/

/-- What a filter asks of a field: equality to a value, or an operator by its key. -/
structure Demand where
  field : String
  key : Option String
  operand : Json

/-- The demands of the condition on a field, in order. -/
def Condition.demands (field : String) : Condition → List Demand
  | .literal value => [⟨field, none, value⟩]
  | .operators entries => entries.map fun e => ⟨field, some e.1, e.2⟩

/-- The demands of a filter, in the order of its fields. -/
def Filter.demands (filter : Filter) : List Demand :=
  filter.entries.flatMap fun e => e.2.demands e.1

/-- What an operator asks of a field.  A list operator without a list of values is constant. -/
def Operator.fragment (field : String) : Operator → Json → Fragment Json
  | .compare c, operand => .compare field c operand
  | .within, .array (v :: vs) => .member field false v vs
  | .outside, .array (v :: vs) => .member field true v vs
  | .within, _ => .constant false
  | .outside, _ => .constant true

/-- The condition that a demand is; none for an unknown key. -/
def Demand.fragment? (a : Demand) : Option (Fragment Json) :=
  match a.key with
  | none => some (.compare a.field .eq a.operand)
  | some key => (Operator.ofKey? key).map fun op => op.fragment a.field a.operand

theorem Test.meaning_ofOperator (column : Identifier) (op : Operator) (operand : Json) :
    (ofOperator column op operand).meaning = op.fragment column.name operand := by
  cases op with
  | compare c => rfl
  | within | outside =>
    cases operand with
    | array vs => cases vs <;> rfl
    | _ => rfl

theorem Test.meaning_ofCondition {e : String × Condition} {tests : List Test}
    (h : ofCondition e = .ok tests) :
    List.Forall₂ (fun a f => a.fragment? = some f) (e.2.demands e.1) (tests.map meaning) := by
  obtain ⟨column, hc, h⟩ := bind_eq_ok.1 h
  have hname := Identifier.name_of_ofName hc
  obtain ⟨field, c⟩ := e
  cases c with
  | literal value =>
    cases h
    exact .cons (by rw [meaning, hname]; rfl) .nil
  | operators entries =>
    rw [Condition.demands, List.forall₂_map_left_iff, List.forall₂_map_right_iff]
    refine (mapM_eq_ok.1 h).imp fun entry t ht => ?_
    unfold ofEntry at ht
    split at ht
    · rename_i op hop
      cases ht
      simp only [Demand.fragment?, hop, Option.map_some, meaning_ofOperator, hname]
    · cases ht

/-- The tests of a filter mean what it demands, one for each demand. -/
theorem Filter.meaning_tests {filter : Filter} {tests : List Test} (h : filter.tests = .ok tests) :
    List.Forall₂ (fun a f => a.fragment? = some f) filter.demands (tests.map Test.meaning) := by
  obtain ⟨groups, hg, rfl⟩ := map_eq_ok.1 h
  have hall := mapM_eq_ok.1 hg
  rw [demands]
  clear h hg
  generalize filter.entries = entries at hall
  induction hall with
  | nil => exact .nil
  | cons he _ ih =>
    rw [List.flatMap_cons, List.flatten_cons, List.map_append]
    exact List.rel_append (Test.meaning_ofCondition he) ih

/-- **A clause says what its filter asks for.**  Its text is read, by the quoting rule of the
dialect, as fragments joined by AND; their marks are those after the `k` used before, in order.
With the values of the parameters in their place, the fragments are what the filter demands, one for
each literal and each operator, in order.  What follows goes on with the next mark. -/
theorem clause_reads_back {filter : Filter} {tests : List Test} (h : filter.tests = .ok tests)
    (d : Dialect) (k : Nat) :
    ∃ marked bound, readCondition? d (Test.clause d k tests) = some marked ∧
      marked.flatMap Fragment.operands = marksAfter d k (Test.params tests).length ∧
      bind? k (Test.params tests) marked = some bound ∧
      List.Forall₂ (fun a f => a.fragment? = some f) filter.demands bound ∧
      ∀ more, Test.sqls d k (tests ++ more) =
        Test.sqls d k tests ++ Test.sqls d (k + (Test.params tests).length) more :=
  ⟨Test.fragments d k tests, tests.map Test.meaning,
    readCondition_of_lexes (Test.lexes_clause tests k), Test.marks_fragments tests k,
    Test.bind_fragments tests k, Filter.meaning_tests h, fun more => Test.sqls_append tests more k⟩

/-- A filter whose names look like parts of a clause. -/
def oddFilter : Filter :=
  ⟨[("a\" AND $1", .operators [("gte", .null), ("$in", .array [.bool true, .bool false])]),
    ("?", .literal (.string "x")), ("b", .operators [("nin", .array [])])], by decide⟩

/-- The clause of the odd filter after two parameters, and its marks as they are read. -/
theorem oddFilter_reads_back : ∃ tests marked bound, oddFilter.tests = .ok tests ∧
    Test.clause .postgres 2 tests =
      "\"a\"\" AND $1\" >= $3 AND \"a\"\" AND $1\" IN ($4, $5) AND \"?\" = $6 AND TRUE" ∧
    readCondition? .postgres (Test.clause .postgres 2 tests) = some marked ∧
    marked.flatMap Fragment.operands = [some 3, some 4, some 5, some 6] ∧
    bind? 2 (Test.params tests) marked = some bound ∧
    List.Forall₂ (fun a f => a.fragment? = some f) oddFilter.demands bound := by
  have htests : oddFilter.tests = .ok _ := rfl
  obtain ⟨marked, bound, hread, hmarks, hbound, hall, -⟩ := clause_reads_back htests .postgres 2
  exact ⟨_, marked, bound, htests, by decide +kernel, hread, hmarks, hbound, hall⟩

end TableService
