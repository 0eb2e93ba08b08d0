/-
  A statement says what its request asks for.

  * `Command.sentence` is a command as a sentence with given operands: marks as it is read
    (`Command.marked`), values as it is meant (`Command.bound`).
  * `lexes_statement`: the text of a statement is read as the sentence of its command.
  * `statement_reads_back`: with the values of the parameters in place of the marks, a statement says
    what the request asks for.
-/
import TableService.Proofs.Query.Clause
import TableService.Proofs.Sql.Sentence

namespace TableService

open Sql

variable {d : Dialect}

/-! ## Sentences -/

/-- The digits of a number of rows as tokens. -/
def countTokens (n : UInt64) : List Token := [.word (String.ofList (digitsText n.toNat))]

/-- The limit as it is read; an offset alone may need an unbounded one. -/
def limitTokens (d : Dialect) : Option UInt64 → Option UInt64 → Option (List Token)
  | some n, _ => some (countTokens n)
  | none, some _ =>
    match d with
    | .sqlite => some [.sign '-', .word "1"]
    | .mysql => some [.word "18446744073709551615"]
    | .postgres => none
  | none, none => none

namespace Command
variable {α : Type}

/-- The names of the columns that have values. -/
def columns (c : Command) : List String := c.row.map (·.1.name)

/-- The command as a sentence, with values for its columns and with conditions. -/
def sentence (d : Dialect) (values : List α) (conditions : List (Fragment α)) :
    Command → Sentence α
  | .insert c => .insert c.table.name (columns (.insert c)) values
  | .select c => .select (c.columns.map (·.name)) c.table.name conditions
      (c.order.map fun t => (t.column.name, t.direction)) (limitTokens d c.limit c.offset)
      (c.offset.map countTokens)
  | .update c => .update c.table.name ((columns (.update c)).zip values) conditions
  | .delete c => .delete c.table.name conditions

/-- The command as it is read. -/
def marked (d : Dialect) (c : Command) : Sentence (Option Nat) :=
  c.sentence d (marksAfter d 0 c.row.length) (Test.fragments d c.row.length c.tests)

/-- The command with its values. -/
def bound (d : Dialect) (c : Command) : Sentence Json :=
  c.sentence d (c.row.map Prod.snd) (c.tests.map Test.meaning)

end Command

/-! ## Texts -/

theorem Test.fragments_eq_nil {tests : List Test} {used : Nat} :
    fragments d used tests = [] ↔ tests = [] := by
  cases tests <;> simp [fragments]

theorem Test.clause_eq_empty {tests : List Test} {used : Nat} :
    clause d used tests = "" ↔ tests = [] := by
  constructor
  · intro h
    have hread := (lexes_clause (d := d) tests used).tokens_eq
    rw [h] at hread
    by_contra hne
    have hfragments : fragments d used tests ≠ [] := mt fragments_eq_nil.1 hne
    exact conjunction_ne_nil d hfragments (by simpa [tokens] using hread.symm)
  · rintro rfl
    rfl

theorem Test.follows_where (tests : List Test) (used : Nat) :
    Follows d (whereSql d used tests).toList
      (clause? "WHERE" (conditionTokens d (fragments d used tests))) := by
  unfold whereSql conditionTokens
  by_cases h : tests = []
  · subst h
    exact .nil
  · rw [if_neg (mt clause_eq_empty.1 h), if_neg (mt fragments_eq_nil.1 h), String.toList_append]
    have hkey : " WHERE ".toList = ' ' :: ("WHERE".toList ++ [' ']) := rfl
    rw [hkey, List.cons_append, List.append_assoc]
    exact .clause rfl (lexes_clause tests used)

theorem lexes_quote (i : Identifier) : Lexes d (d.quote i).toList [.name i.name] :=
  (Spells.quoted i.name).lexes

theorem lexes_count (n : UInt64) :
    Lexes d (String.ofList (digitsText n.toNat)).toList (countTokens n) := by
  refine (Spells.text ?_).lexes
  have hdigits : ∀ c ∈ digitsText n.toNat, isWordChar c = true := fun c hc => by
    simp [isWordChar, Char.isAlphanum, isDigit_of_mem_digitsText hc]
  simpa [isWord, digitsText, Nat.toDigits_ne_nil] using hdigits

theorem lexes_term (t : OrderTerm) :
    Lexes d (t.sql d).toList (termTokens (t.column.name, t.direction)) := by
  unfold OrderTerm.sql
  split
  · rename_i h
    rw [h]
    exact lexes_quote t.column
  · rename_i x h
    have hx : Lexes d x.sql.toList [.word x.sql] := by
      cases x <;> exact (Spells.text rfl).lexes
    rw [h, String.toList_append, String.toList_append, List.append_assoc]
    exact (lexes_quote t.column).append hx.space (.space _)

theorem follows_order (order : List OrderTerm) :
    Follows d (orderSql d order).toList
      (clause? "ORDER" (orderTokens (order.map fun t => (t.column.name, t.direction)))) := by
  cases order with
  | nil => exact .nil
  | cons t ts =>
    have hterms : Lexes d (commaSpaced ((t :: ts).map (·.sql d))).toList
        (commaTokens (((t :: ts).map fun t => (t.column.name, t.direction)).map termTokens)) := by
      refine .commaSpaced ?_
      rw [List.map_map, List.forall₂_map_left_iff, List.forall₂_map_right_iff, List.forall₂_same]
      exact fun t _ => lexes_term t
    have hkey : " ORDER BY ".toList = ' ' :: ("ORDER".toList ++ ' ' :: ("BY".toList ++ [' '])) :=
      rfl
    have hby : isWord "BY".toList = true := rfl
    unfold orderSql orderTokens
    rw [if_neg (by simp), if_neg (by simp), String.toList_append, hkey, List.cons_append,
      List.append_assoc, List.cons_append, List.append_assoc]
    exact .clause rfl (hterms.keyword hby)

theorem follows_limit (limit offset : Option UInt64) :
    Follows d (limitSql d limit offset).toList (clause? "LIMIT" (limitTokens d limit offset)) := by
  have hkey : " LIMIT ".toList = ' ' :: ("LIMIT".toList ++ [' ']) := rfl
  have hword : isWord "LIMIT".toList = true := rfl
  cases limit with
  | some n =>
    unfold limitSql
    rw [String.toList_append, hkey, List.cons_append, List.append_assoc]
    exact .clause hword (lexes_count n)
  | none =>
    cases offset with
    | none => exact .nil
    | some m =>
      cases d with
      | sqlite =>
        have hone : Lexes .sqlite "1".toList [.word "1"] := (Spells.text rfl).lexes
        have hminus : Lexes .sqlite ('-' :: "1".toList) [.sign '-', .word "1"] := .sign rfl hone
        have htext : (limitSql .sqlite none (some m)).toList =
            ' ' :: ("LIMIT".toList ++ ' ' :: '-' :: "1".toList) := by
          simp [limitSql, Dialect.unboundedLimit]
        rw [htext]
        exact .clause hword hminus
      | mysql =>
        have hmost : Lexes .mysql "18446744073709551615".toList [.word "18446744073709551615"] :=
          (Spells.text rfl).lexes
        have htext : (limitSql .mysql none (some m)).toList =
            ' ' :: ("LIMIT".toList ++ ' ' :: "18446744073709551615".toList) := by
          simp [limitSql, Dialect.unboundedLimit]
        rw [htext]
        exact .clause hword hmost
      | postgres => exact .nil

theorem follows_offset (offset : Option UInt64) :
    Follows d (offsetSql offset).toList (clause? "OFFSET" (offset.map countTokens)) := by
  have hkey : " OFFSET ".toList = ' ' :: ("OFFSET".toList ++ [' ']) := rfl
  have hword : isWord "OFFSET".toList = true := rfl
  cases offset with
  | none => exact .nil
  | some n =>
    unfold offsetSql
    rw [String.toList_append, hkey, List.cons_append, List.append_assoc]
    exact .clause hword (lexes_count n)

theorem lexes_names {α : Type} (column : α → Identifier) (l : List α) :
    Lexes d (commaSpaced (l.map fun a => d.quote (column a))).toList
      (commaTokens ((l.map fun a => (column a).name).map fun n => [.name n])) := by
  refine .commaSpaced ?_
  rw [List.map_map, List.forall₂_map_left_iff, List.forall₂_map_right_iff, List.forall₂_same]
  exact fun a _ => lexes_quote (column a)

theorem lexes_columns (c : Select) :
    Lexes d (c.columnsSql d).toList (columnTokens (c.columns.map (·.name))) := by
  unfold Select.columnsSql columnTokens
  by_cases h : c.columns = []
  · have hstar : Lexes d "*".toList [.sign '*'] := .sign rfl .nil
    rw [h]
    exact hstar
  · rw [if_neg (by simpa using h), if_neg (by simpa using h)]
    exact lexes_names id c.columns

theorem lexes_assignments (row : Assignments) (used : Nat) :
    Lexes d (commaSpaced (Update.assignmentsSql d used row)).toList
      (commaTokens (((row.map (·.1.name)).zip (marksAfter d used row.length)).map
        assignmentTokens)) := by
  refine .commaSpaced (List.forall₂_map_right_iff.2 ?_)
  induction row generalizing used with
  | nil => exact .nil
  | cons a row ih =>
    obtain ⟨column, value⟩ := a
    refine .cons ?_ (ih (used + 1))
    simp only [String.toList_append, List.append_assoc]
    exact (lexes_quote column).append
      (.space (.sign rfl (Spells.placeholder (used + 1)).lexes.space)) (.space _)

theorem lexes_bracketed {cs : List Char} {ts : List Token} (h : Lexes d cs ts) :
    Lexes d ('(' :: (cs ++ [')'])) (bracketed ts) :=
  .sign rfl (h.append (.sign rfl .nil) (.bracket []))

theorem follows_from (table : Identifier) :
    Follows d (' ' :: ("FROM".toList ++ ' ' :: (d.quote table).toList))
      [("FROM", [.name table.name])] := by
  have hword : isWord "FROM".toList = true := rfl
  exact .clause hword (lexes_quote table)

theorem Insert.toList_sql (c : Insert) :
    (c.statement d).sql.toList = "INSERT".toList ++ ' ' :: ("INTO".toList ++ ' ' ::
      ((d.quote c.table).toList ++
        (' ' :: '(' :: ((commaSpaced (c.row.map fun a => d.quote a.1)).toList ++ [')']) ++
        ' ' :: ("VALUES".toList ++ ' ' ::
          '(' :: ((commaSpaced (Test.marks d 0 c.row.length)).toList ++ [')']))))) := by
  unfold statement
  simp

theorem lexes_insert (c : Insert) :
    Lexes d (c.statement d).sql.toList ((Command.marked d (.insert c)).tokens d) := by
  have hwords : isWord "INSERT".toList = true ∧ isWord "INTO".toList = true ∧
    isWord "VALUES".toList = true := ⟨rfl, rfl, rfl⟩
  have hcolumns := (lexes_bracketed (lexes_names (d := d) Prod.fst c.row)).space
  have hmarks := lexes_bracketed (Test.lexes_marks (d := d) 0 c.row.length)
  rw [c.toList_sql]
  exact Lexes.keyword hwords.1 (Lexes.keyword hwords.2.1 ((lexes_quote c.table).append
    (hcolumns.append (Follows.clause hwords.2.2 hmarks).lexes (.space _)) (.space _)))

theorem Select.toList_sql (c : Select) :
    (c.statement d).sql.toList = "SELECT".toList ++ ' ' :: ((c.columnsSql d).toList ++
      (' ' :: ("FROM".toList ++ ' ' :: (d.quote c.table).toList) ++
        ((Test.whereSql d 0 c.tests).toList ++ ((orderSql d c.order).toList ++
          ((limitSql d c.limit c.offset).toList ++ (offsetSql c.offset).toList))))) := by
  unfold statement tailSql
  simp

theorem lexes_select (c : Select) :
    Lexes d (c.statement d).sql.toList ((Command.marked d (.select c)).tokens d) := by
  have hword : isWord "SELECT".toList = true := rfl
  have hrest := (follows_from (d := d) c.table).append ((Test.follows_where c.tests 0).append
    ((follows_order c.order).append
      ((follows_limit c.limit c.offset).append (follows_offset c.offset))))
  rw [c.toList_sql]
  exact Lexes.keyword hword ((lexes_columns c).append hrest.lexes hrest.ends)

theorem Update.toList_sql (c : Update) :
    (c.statement d).sql.toList = "UPDATE".toList ++ ' ' :: ((d.quote c.table).toList ++
      (' ' :: ("SET".toList ++ ' ' :: (commaSpaced (assignmentsSql d 0 c.row)).toList) ++
        (Test.whereSql d c.row.length c.tests).toList)) := by
  unfold statement
  simp

theorem lexes_update (c : Update) :
    Lexes d (c.statement d).sql.toList ((Command.marked d (.update c)).tokens d) := by
  have hwords : isWord "UPDATE".toList = true ∧ isWord "SET".toList = true := ⟨rfl, rfl⟩
  have hrest := (Follows.clause hwords.2 (lexes_assignments (d := d) c.row 0)).append
    (Test.follows_where c.tests c.row.length)
  rw [c.toList_sql]
  exact Lexes.keyword hwords.1 ((lexes_quote c.table).append hrest.lexes hrest.ends)

theorem Delete.toList_sql (c : Delete) :
    (c.statement d).sql.toList = "DELETE".toList ++
      (' ' :: ("FROM".toList ++ ' ' :: (d.quote c.table).toList) ++
        (Test.whereSql d 0 c.tests).toList) := by
  unfold statement
  simp

theorem lexes_delete (c : Delete) :
    Lexes d (c.statement d).sql.toList ((Command.marked d (.delete c)).tokens d) := by
  have hword : isWord "DELETE".toList = true := rfl
  have hrest := (follows_from (d := d) c.table).append (Test.follows_where c.tests 0)
  rw [c.toList_sql]
  exact (Spells.text hword).lexes.append hrest.lexes hrest.ends

/-- **The statement of a command is read as its sentence.** -/
theorem lexes_statement (c : Command) :
    Lexes d (c.statement d).sql.toList ((c.marked d).tokens d) := by
  cases c with
  | insert c => exact lexes_insert c
  | select c => exact lexes_select c
  | update c => exact lexes_update c
  | delete c => exact lexes_delete c

/-! ## Proper sentences -/

theorem digits_not_keyword (n : Nat) : String.ofList (digitsText n) ∉ keywords := by
  have hkeywords : ∀ w ∈ keywords, w.toList.all Char.isDigit = false := by decide
  intro h
  have hall := hkeywords _ h
  rw [String.toList_ofList, List.all_eq_true.2 fun c => isDigit_of_mem_digitsText] at hall
  cases hall

theorem plain_count (n : UInt64) : Plain (countTokens n) :=
  plain_cons.2 ⟨if_neg (digits_not_keyword n.toNat), plain_nil⟩

theorem plain_limit {limit offset : Option UInt64} {ts : List Token}
    (h : limitTokens d limit offset = some ts) : Plain ts ∧ marksIn ts = [] := by
  unfold limitTokens at h
  split at h
  · cases h
    exact ⟨plain_count _, rfl⟩
  · split at h <;> cases h <;> exact ⟨rfl, rfl⟩
  · cases h

namespace Command

theorem proper_insert {c : Insert} (h : c.row ≠ []) : (marked d (.insert c)).Proper := by
  refine ⟨?_, ?_⟩
  · simpa [columns, row] using h
  · rw [Ne, ← List.length_eq_zero_iff, length_marksAfter]
    exact mt List.length_eq_zero_iff.1 h

theorem proper_select (c : Select) : (marked d (.select c)).Proper := by
  intro ts hts
  rcases List.mem_append.1 hts with hts | hts
  · exact plain_limit (Option.mem_toList.1 hts)
  · obtain ⟨n, -, rfl⟩ := Option.map_eq_some_iff.1 (Option.mem_toList.1 hts)
    exact ⟨plain_count n, rfl⟩

theorem proper_update {c : Update} (h : c.row ≠ []) : (marked d (.update c)).Proper := by
  show List.zip _ _ ≠ []
  rw [Ne, ← List.length_eq_zero_iff, List.length_zip, length_marksAfter, columns, List.length_map]
  simpa [row] using h

end Command

/-! ## Values -/

namespace Command

/-- **The marks of a command are those of its parameters**, in order. -/
theorem operands_marked (c : Command) :
    (c.marked d).operands = marksAfter d 0 (c.statement d).params.length := by
  rw [params_statement, List.length_append, List.length_map]
  cases c with
  | insert c => rfl
  | select c =>
    rw [row, List.length_nil, Nat.zero_add]
    exact Test.marks_fragments c.tests 0
  | update c =>
    rw [← marksAfter_append, Nat.zero_add, tests, ← Test.marks_fragments]
    refine congrArg (· ++ _) (List.map_snd_zip ?_)
    rw [length_marksAfter, columns, List.length_map]
  | delete c =>
    rw [row, List.length_nil, Nat.zero_add]
    exact Test.marks_fragments c.tests 0

/-- With the values of its parameters a command is what it means. -/
theorem bind_marked (c : Command) :
    (c.marked d).bind? (c.statement d).params = some (c.bound d) := by
  have hvalues := values_marksAfter d 0 [] (c.statement d).params
  rw [List.nil_append, List.length_nil, Nat.add_zero] at hvalues
  rw [Sentence.bind?, operands_marked, hvalues, params_statement]
  show (c.marked d).refill? _ = _
  cases c with
  | insert c =>
    have hlength : (c.row.map Prod.snd).length = (marksAfter d 0 c.row.length).length := by
      rw [List.length_map, length_marksAfter]
    rw [show Test.params (tests (.insert c)) = [] from rfl, List.append_nil]
    exact if_pos hlength
  | select c => exact congrArg (Option.map _) (Test.fill_fragments c.tests 0)
  | update c =>
    have hmarks : (marksAfter d 0 c.row.length).length = (columns (.update c)).length := by
      rw [length_marksAfter, columns, List.length_map, row]
    have hvalues : (c.row.map Prod.snd).length = (columns (.update c)).length := by
      rw [columns, List.length_map, List.length_map, row]
    exact (refill_update hmarks hvalues).trans
      (congrArg (Option.map _) (Test.fill_fragments c.tests c.row.length))
  | delete c => exact congrArg (Option.map _) (Test.fill_fragments c.tests 0)

end Command

/-! ## What is asked -/

/-- The conditions are what the filter demands; there are none without a filter. -/
def MeetsFilter (filter : Option Filter) (conditions : List (Fragment Json)) : Prop :=
  List.Forall₂ (fun a f => a.fragment? = some f) (filter.elim [] Filter.demands) conditions

/-- The entry names this column to order by, and this direction if there is one. -/
def OrdersBy (entry : String) (t : String × Option Direction) : Prop :=
  match t.2 with
  | none => Text.words entry = [t.1]
  | some x => ∃ word, Text.words entry = [t.1, word] ∧ Text.upper word = x.sql

/-- The sentence says what the request asks for. -/
def Request.Asks (d : Dialect) : Request → Sentence Json → Prop
  | .insert table row, .insert table' columns values =>
    table' = table ∧ columns = row.names ∧ values = row.entries.map Prod.snd
  | .select table o, .select columns table' conditions order limit offset =>
    table' = table ∧ columns = o.fields.getD [] ∧ MeetsFilter o.filter conditions ∧
      List.Forall₂ OrdersBy (o.orderBy.getD []) order ∧ limit = limitTokens d o.limit o.offset ∧
      offset = o.offset.map countTokens
  | .update table row filter, .update table' assignments conditions =>
    table' = table ∧ assignments = row.entries ∧ MeetsFilter filter conditions
  | .delete table filter, .delete table' conditions =>
    table' = table ∧ MeetsFilter filter conditions
  | _, _ => False

theorem Filter.meets_testsOf {filter : Option Filter} {tests : List Test}
    (h : testsOf filter = .ok tests) : MeetsFilter filter (tests.map Test.meaning) := by
  cases filter with
  | none => cases h; exact .nil
  | some f => exact meaning_tests h

theorem Direction.sql_of_ofWord {word : String} {x : Direction} (h : ofWord? word = some x) :
    word = x.sql := by
  unfold ofWord? at h
  split_ifs at h with ha hd
  · cases h; exact ha
  · cases h; exact hd

theorem OrderTerm.ordersBy_ofEntry {entry : String} {t : OrderTerm} (h : ofEntry entry = .ok t) :
    OrdersBy entry (t.column.name, t.direction) := by
  unfold ofEntry at h
  split at h
  · rename_i field hwords
    obtain ⟨column, hc, h⟩ := bind_eq_ok.1 h
    cases h
    rw [OrdersBy, Identifier.name_of_ofName hc]
    exact hwords
  · rename_i field word hwords
    obtain ⟨column, hc, h⟩ := bind_eq_ok.1 h
    dsimp only at h
    split at h
    · rename_i x hx
      cases h
      rw [OrdersBy, Identifier.name_of_ofName hc]
      exact ⟨word, hwords, Direction.sql_of_ofWord hx⟩
    · cases h
  · cases h

/-- A command that was checked is well formed, and means what was asked for. -/
theorem Request.check_ok {r : Request} {c : Command} (h : r.check = .ok c) :
    (c.marked d).Proper ∧ r.Asks d (c.bound d) := by
  cases r with
  | insert table row =>
    obtain ⟨c, hc, rfl⟩ := map_eq_ok.1 h
    obtain ⟨htable, ha⟩ := Insert.check_ok hc
    exact ⟨Command.proper_insert (Assignments.check_ok ha).1, htable,
      Assignments.columns_check ha, Assignments.values_check ha⟩
  | select table o =>
    obtain ⟨c, hc, rfl⟩ := map_eq_ok.1 h
    obtain ⟨htable, hcolumns, htests, horder, hlimit, hoffset⟩ := Select.check_ok hc
    have horders : List.Forall₂ OrdersBy (o.orderBy.getD [])
        (c.order.map fun t => (t.column.name, t.direction)) :=
      List.forall₂_map_right_iff.2 ((mapM_eq_ok.1 horder).imp fun _ _ => OrderTerm.ordersBy_ofEntry)
    exact ⟨Command.proper_select c, htable, hcolumns, Filter.meets_testsOf htests, horders,
      by rw [hlimit, hoffset], by rw [hoffset]⟩
  | update table row filter =>
    obtain ⟨c, hc, rfl⟩ := map_eq_ok.1 h
    obtain ⟨htable, ha, htests⟩ := Update.check_ok hc
    obtain ⟨hne, hentries⟩ := Assignments.check_ok ha
    have hassignments : (c.row.map (·.1.name)).zip (c.row.map Prod.snd) = row.entries := by
      rw [List.zip_map', hentries]
    exact ⟨Command.proper_update hne, htable, hassignments, Filter.meets_testsOf htests⟩
  | delete table filter =>
    obtain ⟨c, hc, rfl⟩ := map_eq_ok.1 h
    obtain ⟨htable, htests⟩ := Delete.check_ok hc
    exact ⟨trivial, htable, Filter.meets_testsOf htests⟩

/-- **A statement says what its request asks for.**  By the quoting rule of the dialect its text is
read as tokens, among which the marks are those of the parameters, in order.  The tokens are read as
a sentence, and with the values of the parameters in place of the marks this says what was asked
for. -/
theorem statement_reads_back {r : Request} {s : Statement} (h : r.statement d = .ok s) :
    ∃ ts sentence bound, tokens d s.sql.toList = some ts ∧
      marksIn ts = marksAfter d 0 s.params.length ∧ readSentence? d ts = some sentence ∧
      sentence.bind? s.params = some bound ∧ r.Asks d bound := by
  obtain ⟨c, hc, rfl⟩ := map_eq_ok.1 h
  obtain ⟨hproper, hasks⟩ := Request.check_ok hc
  refine ⟨(c.marked d).tokens d, c.marked d, c.bound d, (lexes_statement c).tokens_eq, ?_,
    readSentence_tokens hproper, c.bind_marked, hasks⟩
  rw [marksIn_tokens hproper, c.operands_marked]

/-- A row whose names look like parts of a statement. -/
def oddRow : Row := .ofList [("b\" = $9, \"c", .bool true), ("a WHERE", .null)]

/-- An update whose names look like parts of a statement. -/
def oddUpdate : Request := .update "t" oddRow (some oddFilter)

/-- The statement of the odd update, and its marks as they are read. -/
theorem oddUpdate_reads_back : ∃ s ts sentence bound, oddUpdate.statement .postgres = .ok s ∧
    s.sql = "UPDATE \"t\" SET \"a WHERE\" = $1, \"b\"\" = $9, \"\"c\" = $2 WHERE " ++
      "\"a\"\" AND $1\" >= $3 AND \"a\"\" AND $1\" IN ($4, $5) AND \"?\" = $6 AND TRUE" ∧
    tokens .postgres s.sql.toList = some ts ∧
    marksIn ts = [some 1, some 2, some 3, some 4, some 5, some 6] ∧
    readSentence? .postgres ts = some sentence ∧ sentence.bind? s.params = some bound ∧
    oddUpdate.Asks .postgres bound := by
  have hs : oddUpdate.statement .postgres = .ok _ := rfl
  obtain ⟨ts, sentence, bound, hts, hmarks, hread, hbind, hasks⟩ := statement_reads_back hs
  exact ⟨_, ts, sentence, bound, hs, by decide +kernel, hts, hmarks, hread, hbind, hasks⟩

end TableService
