/-
  Names among tokens.

  * `namesIn` are the names among tokens, in order.
  * `namesIn_tokens`: the names in a sentence are its table and the columns that it mentions.
  * `namesIn_statement`: the text of a command names its table, and else only what the command
    mentions.
-/
import TableService.Proofs.Query.Statement
import TableService.Proofs.Service.Command

namespace TableService

namespace Sql

/-- The name that a token is. -/
def Token.name? : Token → Option String
  | .name n => some n
  | _ => none

/-- The names among tokens, in order. -/
def namesIn (ts : List Token) : List String := ts.filterMap Token.name?

@[simp] theorem namesIn_nil : namesIn [] = [] := rfl

@[simp] theorem namesIn_cons (t : Token) (ts : List Token) :
    namesIn (t :: ts) = t.name?.toList ++ namesIn ts := by
  cases t <;> rfl

@[simp] theorem namesIn_append (ts ts' : List Token) :
    namesIn (ts ++ ts') = namesIn ts ++ namesIn ts' :=
  List.filterMap_append

@[simp] theorem namesIn_commaTokens (items : List (List Token)) :
    namesIn (commaTokens items) = items.flatMap namesIn :=
  filterMap_intercalate rfl items

@[simp] theorem name_name (n : String) : (Token.name n).name? = some n := rfl

@[simp] theorem name_word (w : String) : (Token.word w).name? = none := rfl

@[simp] theorem name_sign (c : Char) : (Token.sign c).name? = none := rfl

@[simp] theorem name_mark (m : Option Nat) : (Token.mark m).name? = none := rfl

theorem namesIn_flatten (cs : List Clause) :
    namesIn (flatten cs) = cs.flatMap fun c => namesIn c.2 := by
  induction cs with
  | nil => rfl
  | cons c cs ih =>
    rw [flatten, List.flatMap_cons, ← flatten, namesIn_append, ih, List.flatMap_cons]
    rfl

theorem namesIn_clause (w : String) (ts : Option (List Token)) :
    ((clause? w ts).flatMap fun c => namesIn c.2) = ts.toList.flatMap namesIn := by
  cases ts <;> rfl

/-! ## Sentences -/

/-- The field of a condition, unless it is a truth value. -/
def Fragment.field? {α : Type} : Fragment α → Option String
  | .compare field _ _ | .member field _ _ _ => some field
  | .constant _ => none

/-- The table of a sentence and the columns that it mentions, as they stand there. -/
def Sentence.names {α : Type} : Sentence α → List String
  | .insert table columns _ => table :: columns
  | .select columns table conditions order _ _ =>
    columns ++ table :: (conditions.filterMap Fragment.field? ++ order.map Prod.fst)
  | .update table assignments conditions =>
    table :: (assignments.map Prod.fst ++ conditions.filterMap Fragment.field?)
  | .delete table conditions => table :: conditions.filterMap Fragment.field?

theorem namesIn_markTokens (ms : List (Option Nat)) : namesIn (markTokens ms) = [] := by
  rw [markTokens, namesIn, filterMap_intercalate rfl, List.flatMap_eq_nil_iff]
  simp [Token.name?]

theorem namesIn_fragment (d : Dialect) (f : Fragment (Option Nat)) :
    namesIn (f.tokens d) = f.field?.toList := by
  cases f with
  | compare field c m => cases c <;> rfl
  | member field negated m ms =>
    have hmember : namesIn (memberTokens negated) = [] := by cases negated <;> rfl
    simp [Fragment.tokens, hmember, namesIn_markTokens, Fragment.field?]
  | constant holds => cases d <;> cases holds <;> rfl

theorem namesIn_columnTokens (columns : List String) : namesIn (columnTokens columns) = columns := by
  unfold columnTokens
  split_ifs with h
  · rw [h]
    rfl
  · simp [List.flatMap_map]

theorem namesIn_conditionTokens (d : Dialect) (fs : List (Fragment (Option Nat))) :
    (conditionTokens d fs).toList.flatMap namesIn = fs.filterMap Fragment.field? := by
  unfold conditionTokens
  split_ifs with h
  · rw [h]
    rfl
  · rw [Option.toList_some, List.flatMap_singleton, namesIn, filterMap_intercalate rfl,
      List.flatMap_map, List.filterMap_eq_flatMap_toList]
    exact List.flatMap_congr fun f _ => namesIn_fragment d f

theorem namesIn_orderTokens (order : List (String × Option Direction)) :
    (orderTokens order).toList.flatMap namesIn = order.map Prod.fst := by
  have hterm : ∀ t, namesIn (termTokens t) = [t.1] := by rintro ⟨n, _ | _⟩ <;> rfl
  unfold orderTokens
  split_ifs with h
  · rw [h]
    rfl
  · rw [Option.toList_some, List.flatMap_singleton, namesIn_cons, namesIn_commaTokens,
      List.flatMap_map, List.map_eq_flatMap]
    exact List.flatMap_congr fun t _ => hterm t

theorem namesIn_assignments (assignments : List (String × Option Nat)) :
    (assignments.map assignmentTokens).flatMap namesIn = assignments.map Prod.fst := by
  rw [List.flatMap_map, List.map_eq_flatMap]
  rfl

/-- **The names in a sentence** are its table and the columns that it mentions, if the limit and
the offset have none. -/
theorem namesIn_tokens (d : Dialect) (s : Sentence (Option Nat))
    (h : ∀ columns table conditions order limit offset,
      s = .select columns table conditions order limit offset →
        ∀ ts ∈ limit.toList ++ offset.toList, namesIn ts = []) :
    namesIn (s.tokens d) = s.names := by
  rw [Sentence.tokens, namesIn_flatten]
  cases s with
  | insert table columns values =>
    simp [Sentence.clauses, Sentence.names, bracketed, List.flatMap_map]
  | select columns table conditions order limit offset =>
    have htail := h columns table conditions order limit offset rfl
    have hlimit : limit.toList.flatMap namesIn = [] := List.flatMap_eq_nil_iff.2 fun ts hts =>
      htail ts (List.mem_append_left _ hts)
    have hoffset : offset.toList.flatMap namesIn = [] := List.flatMap_eq_nil_iff.2 fun ts hts =>
      htail ts (List.mem_append_right _ hts)
    simp [Sentence.clauses, Sentence.names, namesIn_clause, namesIn_columnTokens,
      namesIn_conditionTokens, namesIn_orderTokens, hlimit, hoffset]
  | update table assignments conditions =>
    simp [Sentence.clauses, Sentence.names, namesIn_clause, namesIn_conditionTokens,
      namesIn_assignments]
  | delete table conditions =>
    simp [Sentence.clauses, Sentence.names, namesIn_clause, namesIn_conditionTokens]

end Sql

open Sql

variable {d : Dialect}

theorem Test.fields_fragments (tests : List Test) (used : Nat) :
    (fragments d used tests).filterMap Fragment.field? =
      (tests.filterMap column?).map Identifier.name := by
  induction tests generalizing used with
  | nil => rfl
  | cons t tests ih =>
    rw [fragments, List.filterMap_cons, List.filterMap_cons, ih]
    cases t <;> rfl

theorem namesIn_limit {limit offset : Option UInt64} {ts : List Token}
    (h : limitTokens d limit offset = some ts) : namesIn ts = [] := by
  unfold limitTokens at h
  split at h
  · cases h
    rfl
  · split at h <;> cases h <;> rfl
  · cases h

namespace Command

theorem names_marked (c : Command) :
    ∀ n ∈ (c.marked d).names, n = c.table.name ∨ ∃ i ∈ c.mentioned, i.name = n := by
  intro n hn
  cases c with
  | insert c =>
    rcases List.mem_cons.1 hn with rfl | hn
    · exact .inl rfl
    · obtain ⟨a, ha, rfl⟩ := List.mem_map.1 hn
      exact .inr ⟨a.1, by simpa [mentioned, row, shown, tests] using ⟨a.2, ha⟩, rfl⟩
  | select c =>
    simp only [marked, sentence, Sentence.names, row, tests, List.length_nil,
      Test.fields_fragments, List.map_map, List.mem_append, List.mem_cons, List.mem_map] at hn
    simp only [mentioned, shown, row, tests, List.map_nil, List.nil_append, List.mem_append,
      List.mem_map]
    rcases hn with ⟨i, hi, rfl⟩ | rfl | ⟨i, hi, rfl⟩ | ⟨t, ht, rfl⟩
    · exact .inr ⟨i, .inl (.inl hi), rfl⟩
    · exact .inl rfl
    · exact .inr ⟨i, .inr hi, rfl⟩
    · exact .inr ⟨t.column, .inl (.inr ⟨t, ht, rfl⟩), rfl⟩
  | update c =>
    have hlength : (columns (.update c)).length = (marksAfter d 0 c.row.length).length := by
      rw [columns, row, List.length_map, length_marksAfter]
    simp only [marked, sentence, Sentence.names, row, tests, List.map_fst_zip hlength.le,
      Test.fields_fragments, List.mem_append, List.mem_cons, List.mem_map] at hn
    simp only [mentioned, shown, row, tests, List.append_nil, List.mem_append, List.mem_map]
    rcases hn with rfl | hn | ⟨i, hi, rfl⟩
    · exact .inl rfl
    · obtain ⟨a, ha, rfl⟩ := List.mem_map.1 hn
      exact .inr ⟨a.1, .inl ⟨a, ha, rfl⟩, rfl⟩
    · exact .inr ⟨i, .inr hi, rfl⟩
  | delete c =>
    simp only [marked, sentence, Sentence.names, row, tests, List.length_nil,
      Test.fields_fragments, List.mem_cons, List.mem_map] at hn
    simp only [mentioned, shown, row, tests, List.map_nil, List.nil_append]
    rcases hn with rfl | ⟨i, hi, rfl⟩
    · exact .inl rfl
    · exact .inr ⟨i, hi, rfl⟩

/-- **The text of a command names its table, and else only what the command mentions.** -/
theorem namesIn_statement (d : Dialect) (c : Command) :
    ∃ ts, tokens d (c.statement d).sql.toList = some ts ∧
      ∀ n ∈ namesIn ts, n = c.table.name ∨ ∃ i ∈ c.mentioned, i.name = n := by
  refine ⟨(c.marked d).tokens d, (lexes_statement c).tokens_eq, ?_⟩
  rw [namesIn_tokens]
  · exact names_marked c
  · intro columns table conditions order limit offset hs ts hts
    cases c with
    | select c =>
      cases hs
      rcases List.mem_append.1 hts with hts | hts
      · exact namesIn_limit (Option.mem_toList.1 hts)
      · obtain ⟨n, -, rfl⟩ := Option.map_eq_some_iff.1 (Option.mem_toList.1 hts)
        rfl
    | insert c => cases hs
    | update c => cases hs
    | delete c => cases hs

end Command

end TableService
