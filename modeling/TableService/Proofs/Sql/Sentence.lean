/-
  Statements on rows as they are read.

  * A `Sentence` is an insertion, a selection, an update or a deletion, with operands of some kind:
    the marks of parameters as it is read, values once these are bound.
  * `readSentence_tokens`: the tokens of a sentence are read as that sentence.
  * `where_mem_tokens`: there is a WHERE among the tokens exactly if the sentence has conditions.
  * `marksIn_tokens`: the marks among the tokens are the operands, in order.
  * `Sentence.bind?` puts the values of parameters in the place of the marks.
-/
import TableService.Proofs.Sql.Condition
import TableService.Proofs.Sql.Keyword
import TableService.Query.Order

namespace TableService.Sql

/-- A statement on the rows of a table. -/
inductive Sentence (α : Type) where
  | insert (table : String) (columns : List String) (values : List α)
  /-- Without columns all are wanted.  The limit and the offset are tokens. -/
  | select (columns : List String) (table : String) (conditions : List (Fragment α))
      (order : List (String × Option Direction)) (limit offset : Option (List Token))
  | update (table : String) (assignments : List (String × α)) (conditions : List (Fragment α))
  | delete (table : String) (conditions : List (Fragment α))

/-! ## Lists -/

/-- The tokens of an assignment. -/
def assignmentTokens (a : String × Option Nat) : List Token := [.name a.1, .sign '=', .mark a.2]

/-- The tokens of a column to order by. -/
def termTokens (t : String × Option Direction) : List Token :=
  .name t.1 :: (t.2.map fun x => Token.word x.sql).toList

/-- Reads a name. -/
def readName? : List Token → Option String
  | [.name n] => some n
  | _ => none

/-- Reads a mark. -/
def readMark? : List Token → Option (Option Nat)
  | [.mark m] => some m
  | _ => none

/-- Reads an assignment. -/
def readAssignment? : List Token → Option (String × Option Nat)
  | [.name n, .sign '=', .mark m] => some (n, m)
  | _ => none

/-- Reads a column to order by. -/
def readTerm? : List Token → Option (String × Option Direction)
  | [.name n] => some (n, none)
  | [.name n, .word w] => (Direction.ofWord? w).map fun x => (n, some x)
  | _ => none

theorem readTerm_termTokens (t : String × Option Direction) :
    readTerm? (termTokens t) = some t := by
  obtain ⟨n, _ | _ | _⟩ := t <;> rfl

/-- Tokens in brackets. -/
def bracketed (ts : List Token) : List Token := .sign '(' :: ts ++ [.sign ')']

/-- Reads what stands in brackets. -/
def readBracketed? : List Token → Option (List Token)
  | .sign '(' :: ts => if ts.getLast? = some (.sign ')') then some ts.dropLast else none
  | _ => none

theorem readBracketed_bracketed (ts : List Token) :
    readBracketed? (bracketed ts) = some ts := by
  simp [bracketed, readBracketed?]

/-! ## Reading -/

/-- The columns of a selection. -/
def columnTokens (columns : List String) : List Token :=
  if columns = [] then [.sign '*'] else commaTokens (columns.map fun n => [.name n])

/-- Reads the columns of a selection. -/
def readColumns? (ts : List Token) : Option (List String) :=
  if ts = [.sign '*'] then some [] else readParts? (.sign ',') readName? ts

/-- The tokens of conditions; none without any. -/
def conditionTokens (d : Dialect) (fs : List (Fragment (Option Nat))) : Option (List Token) :=
  if fs = [] then none else some ([.word "AND"].intercalate (fs.map (·.tokens d)))

/-- Reads conditions. -/
def readConditions? (d : Dialect) : Option (List Token) → Option (List (Fragment (Option Nat)))
  | none => some []
  | some ts => readParts? (.word "AND") (readFragment? d) ts

/-- The tokens of an order; none without any. -/
def orderTokens (order : List (String × Option Direction)) : Option (List Token) :=
  if order = [] then none else some (.word "BY" :: commaTokens (order.map termTokens))

/-- Reads an order. -/
def readOrder? : Option (List Token) → Option (List (String × Option Direction))
  | none => some []
  | some (.word "BY" :: ts) => readParts? (.sign ',') readTerm? ts
  | some _ => none

/-- The clauses of a sentence. -/
def Sentence.clauses (d : Dialect) : Sentence (Option Nat) → List Clause
  | .insert table columns values =>
    [("INSERT", .word "INTO" :: .name table ::
        bracketed (commaTokens (columns.map fun n => [.name n]))),
      ("VALUES", bracketed (commaTokens (values.map fun m => [.mark m])))]
  | .select columns table conditions order limit offset =>
    ("SELECT", columnTokens columns) :: ("FROM", [.name table]) ::
      (clause? "WHERE" (conditionTokens d conditions) ++ (clause? "ORDER" (orderTokens order) ++
        (clause? "LIMIT" limit ++ clause? "OFFSET" offset)))
  | .update table assignments conditions =>
    ("UPDATE", [.name table]) :: ("SET", commaTokens (assignments.map assignmentTokens)) ::
      clause? "WHERE" (conditionTokens d conditions)
  | .delete table conditions =>
    ("DELETE", []) :: ("FROM", [.name table]) :: clause? "WHERE" (conditionTokens d conditions)

/-- The tokens of a sentence. -/
def Sentence.tokens (d : Dialect) (s : Sentence (Option Nat)) : List Token := flatten (s.clauses d)

/-- Reads the clauses of a sentence. -/
def readClauses? (d : Dialect) : List Clause → Option (Sentence (Option Nat))
  | [("INSERT", .word "INTO" :: .name table :: columns), ("VALUES", values)] => do
    let columns ← readParts? (.sign ',') readName? (← readBracketed? columns)
    return .insert table columns (← readParts? (.sign ',') readMark? (← readBracketed? values))
  | ("SELECT", columns) :: ("FROM", [.name table]) :: cs => do
    let (conditions, cs) := take? "WHERE" cs
    let (order, cs) := take? "ORDER" cs
    let (limit, cs) := take? "LIMIT" cs
    let (offset, cs) := take? "OFFSET" cs
    if cs ≠ [] then none
    return .select (← readColumns? columns) table (← readConditions? d conditions)
      (← readOrder? order) limit offset
  | ("UPDATE", [.name table]) :: ("SET", assignments) :: cs => do
    let (conditions, cs) := take? "WHERE" cs
    if cs ≠ [] then none
    let assignments ← readParts? (.sign ',') readAssignment? assignments
    return .update table assignments (← readConditions? d conditions)
  | ("DELETE", []) :: ("FROM", [.name table]) :: cs => do
    let (conditions, cs) := take? "WHERE" cs
    if cs ≠ [] then none
    return .delete table (← readConditions? d conditions)
  | _ => none

/-- Reads a sentence. -/
def readSentence? (d : Dialect) (ts : List Token) : Option (Sentence (Option Nat)) :=
  match clauses ts with
  | ([], cs) => readClauses? d cs
  | _ => none

/-- The lists of a sentence that must not be empty are not, and its limit and its offset hold neither
keywords nor marks. -/
def Sentence.Proper : Sentence (Option Nat) → Prop
  | .insert _ columns values => columns ≠ [] ∧ values ≠ []
  | .select _ _ _ _ limit offset =>
    ∀ ts ∈ limit.toList ++ offset.toList, Plain ts ∧ marksIn ts = []
  | .update _ assignments _ => assignments ≠ []
  | .delete _ _ => True

theorem readNames_commaTokens {columns : List String} (h : columns ≠ []) :
    readParts? (.sign ',') readName? (commaTokens (columns.map fun n => [.name n])) =
      some columns := by
  have hname : ∀ n, readName? [.name n] = some n := fun _ => rfl
  exact readParts_intercalate hname (by simp) h

theorem readMarks_commaTokens {marks : List (Option Nat)} (h : marks ≠ []) :
    readParts? (.sign ',') readMark? (commaTokens (marks.map fun m => [.mark m])) = some marks := by
  have hmark : ∀ m, readMark? [.mark m] = some m := fun _ => rfl
  exact readParts_intercalate hmark (by simp) h

theorem readAssignments_commaTokens {assignments : List (String × Option Nat)}
    (h : assignments ≠ []) :
    readParts? (.sign ',') readAssignment? (commaTokens (assignments.map assignmentTokens)) =
      some assignments := by
  have hassignment : ∀ a, readAssignment? (assignmentTokens a) = some a := fun _ => rfl
  exact readParts_intercalate hassignment (by simp [assignmentTokens]) h

theorem readColumns_columnTokens (columns : List String) :
    readColumns? (columnTokens columns) = some columns := by
  by_cases h : columns = []
  · subst h
    rfl
  · have hstar : commaTokens (columns.map fun n => [.name n]) ≠ [.sign '*'] := by
      obtain ⟨n, ns, rfl⟩ := List.exists_cons_of_ne_nil h
      cases ns <;> simp [commaTokens]
    rw [readColumns?, columnTokens, if_neg h, if_neg hstar, readNames_commaTokens h]

theorem readConditions_conditionTokens (d : Dialect) (fs : List (Fragment (Option Nat))) :
    readConditions? d (conditionTokens d fs) = some fs := by
  by_cases h : fs = []
  · subst h
    rfl
  · rw [conditionTokens, if_neg h]
    exact readParts_intercalate (readFragment_tokens d) (and_not_mem d) h

theorem readOrder_orderTokens (order : List (String × Option Direction)) :
    readOrder? (orderTokens order) = some order := by
  by_cases h : order = []
  · subst h
    rfl
  · have hcomma : ∀ t, .sign ',' ∉ termTokens t := by
      rintro ⟨n, _ | _⟩ <;> simp [termTokens]
    rw [orderTokens, if_neg h]
    exact readParts_intercalate readTerm_termTokens hcomma h

theorem readClauses_clauses {d : Dialect} {s : Sentence (Option Nat)} (h : s.Proper) :
    readClauses? d (s.clauses d) = some s := by
  cases s with
  | insert table columns values =>
    simp [Sentence.clauses, readClauses?, readBracketed_bracketed, readNames_commaTokens h.1,
      readMarks_commaTokens h.2]
  | select columns table conditions order limit offset =>
    have hlimit : take? "LIMIT" (clause? "LIMIT" limit ++ clause? "OFFSET" offset) =
        (limit, clause? "OFFSET" offset) := take_clause (by cases offset <;> simp [clause?])
    simp only [Sentence.clauses, readClauses?]
    rw [take_clause, take_clause, hlimit, take_clause_nil]
    · simp [readColumns_columnTokens, readConditions_conditionTokens, readOrder_orderTokens]
    · cases limit <;> cases offset <;> simp [clause?]
    · cases orderTokens order <;> cases limit <;> cases offset <;> simp [clause?]
  | update table assignments conditions =>
    have h : assignments ≠ [] := h
    simp [Sentence.clauses, readClauses?, take_clause_nil, readAssignments_commaTokens h,
      readConditions_conditionTokens]
  | delete table conditions =>
    simp [Sentence.clauses, readClauses?, take_clause_nil, readConditions_conditionTokens]

/-! ## Keywords -/

theorem plain_fragment (d : Dialect) (f : Fragment (Option Nat)) : Plain (f.tokens d) := by
  cases f with
  | compare field c m => cases c <;> rfl
  | member field negated m ms =>
    have hms : Plain (markTokens (m :: ms)) := plain_commaTokens.2 (by simp)
    have hmember : Plain (memberTokens negated) := by cases negated <;> rfl
    simp [Fragment.tokens, hms, hmember]
  | constant holds => cases d <;> cases holds <;> rfl

theorem plain_assignment (a : String × Option Nat) : Plain (assignmentTokens a) := rfl

theorem plain_term (t : String × Option Direction) : Plain (termTokens t) := by
  obtain ⟨n, _ | _ | _⟩ := t <;> rfl

theorem plain_columnTokens (columns : List String) : Plain (columnTokens columns) := by
  unfold columnTokens
  split_ifs <;> simp

theorem plain_conditionTokens {d : Dialect} {fs : List (Fragment (Option Nat))} {ts : List Token}
    (h : conditionTokens d fs = some ts) : Plain ts := by
  unfold conditionTokens at h
  split_ifs at h
  cases h
  exact (plain_intercalate rfl).2 (List.forall_mem_map.2 fun f _ => plain_fragment d f)

theorem plain_orderTokens {order : List (String × Option Direction)} {ts : List Token}
    (h : orderTokens order = some ts) : Plain ts := by
  unfold orderTokens at h
  split_ifs at h
  cases h
  exact plain_cons.2 ⟨rfl, plain_commaTokens.2 (List.forall_mem_map.2 fun t _ => plain_term t)⟩

/-- In a proper sentence there are no keywords but those that begin its clauses. -/
theorem clauses_are_plain {d : Dialect} {s : Sentence (Option Nat)} (h : s.Proper) :
    ∀ c ∈ s.clauses d, c.1 ∈ keywords ∧ Plain c.2 := by
  have hkey : "WHERE" ∈ keywords := by decide
  have hwhere : ∀ fs, ∀ c ∈ clause? "WHERE" (conditionTokens d fs), c.1 ∈ keywords ∧ Plain c.2 :=
    fun fs => forall_mem_clause.2 fun ts hts => ⟨hkey, plain_conditionTokens hts⟩
  cases s with
  | insert table columns values =>
    simp only [Sentence.clauses, List.forall_mem_cons]
    refine ⟨⟨by decide, ?_⟩, ⟨by decide, ?_⟩, nofun⟩
    · exact plain_cons.2 ⟨rfl, by simp [bracketed]⟩
    · simp [bracketed]
  | select columns table conditions order limit offset =>
    simp only [Sentence.clauses, List.forall_mem_cons, List.forall_mem_append, forall_mem_clause]
    refine ⟨⟨by decide, plain_columnTokens columns⟩, ⟨by decide, rfl⟩,
      fun ts hts => ⟨by decide, plain_conditionTokens hts⟩,
      fun ts hts => ⟨by decide, plain_orderTokens hts⟩,
      fun ts hts => ⟨by decide, (h ts ?_).1⟩, fun ts hts => ⟨by decide, (h ts ?_).1⟩⟩
    · simp [hts]
    · simp [hts]
  | update table assignments conditions =>
    simp only [Sentence.clauses, List.forall_mem_cons]
    refine ⟨⟨by decide, rfl⟩, ⟨by decide, plain_commaTokens.2 ?_⟩, hwhere conditions⟩
    exact List.forall_mem_map.2 fun a _ => plain_assignment a
  | delete table conditions =>
    simp only [Sentence.clauses, List.forall_mem_cons]
    exact ⟨⟨by decide, rfl⟩, ⟨by decide, rfl⟩, hwhere conditions⟩

/-- **The tokens of a proper sentence are read as that sentence.** -/
theorem readSentence_tokens {d : Dialect} {s : Sentence (Option Nat)} (h : s.Proper) :
    readSentence? d (s.tokens d) = some s := by
  rw [readSentence?, Sentence.tokens, clauses_flatten (clauses_are_plain h)]
  exact readClauses_clauses h

/-- The conditions on the rows. -/
def Sentence.conditions {α : Type} : Sentence α → List (Fragment α)
  | .insert .. => []
  | .select _ _ conditions _ _ _ | .update _ _ conditions | .delete _ conditions => conditions

theorem clause_conditionTokens {d : Dialect} {fs : List (Fragment (Option Nat))} :
    "WHERE" ∈ (clause? "WHERE" (conditionTokens d fs)).map Prod.fst ↔ fs ≠ [] := by
  by_cases h : fs = []
  · simp [conditionTokens, clause?, h]
  · simp [conditionTokens, clause?, h]

/-- **A proper sentence has a WHERE exactly if it has conditions.** -/
theorem where_mem_tokens {d : Dialect} {s : Sentence (Option Nat)} (h : s.Proper) :
    .word "WHERE" ∈ s.tokens d ↔ s.conditions ≠ [] := by
  have hplain : ∀ c ∈ s.clauses d, Plain c.2 := fun c hc => (clauses_are_plain h c hc).2
  have hother : ∀ (w : String) (ts : Option (List Token)), w ≠ "WHERE" →
      "WHERE" ∉ (clause? w ts).map Prod.fst := by
    intro w ts hw
    cases ts <;> simp [clause?, hw.symm]
  rw [Sentence.tokens, word_mem_flatten (by decide) hplain]
  cases s with
  | insert table columns values => simp [Sentence.clauses, Sentence.conditions]
  | select columns table conditions order limit offset =>
    have horder := hother "ORDER" (orderTokens order) (by decide)
    have hlimit := hother "LIMIT" limit (by decide)
    have hoffset := hother "OFFSET" offset (by decide)
    simp only [Sentence.clauses, List.map_cons, List.map_append, List.mem_cons, List.mem_append,
      clause_conditionTokens, horder, hlimit, hoffset, or_false, Sentence.conditions]
    simp
  | update table assignments conditions =>
    simp only [Sentence.clauses, List.map_cons, List.mem_cons, clause_conditionTokens,
      Sentence.conditions]
    simp
  | delete table conditions =>
    simp only [Sentence.clauses, List.map_cons, List.mem_cons, clause_conditionTokens,
      Sentence.conditions]
    simp

/-! ## Marks -/

/-- The operands, in order. -/
def Sentence.operands {α : Type} : Sentence α → List α
  | .insert _ _ values => values
  | .select _ _ conditions _ _ _ => conditions.flatMap Fragment.operands
  | .update _ assignments conditions =>
    assignments.map Prod.snd ++ conditions.flatMap Fragment.operands
  | .delete _ conditions => conditions.flatMap Fragment.operands

theorem marksIn_markTokens (ms : List (Option Nat)) : marksIn (markTokens ms) = ms := by
  rw [markTokens, marksIn_intercalate rfl, List.flatMap_map]
  exact List.flatMap_singleton' ms

theorem marksIn_fragment (d : Dialect) (f : Fragment (Option Nat)) :
    marksIn (f.tokens d) = f.operands := by
  cases f with
  | compare field c m => cases c <;> rfl
  | member field negated m ms =>
    have hmember : marksIn (memberTokens negated) = [] := by cases negated <;> rfl
    simp [Fragment.tokens, hmember, marksIn_markTokens, Fragment.operands]
  | constant holds => cases d <;> cases holds <;> rfl

theorem marksIn_columnTokens (columns : List String) : marksIn (columnTokens columns) = [] := by
  unfold columnTokens
  split_ifs <;> simp [List.flatMap_map]

theorem marksIn_conditionTokens (d : Dialect) (fs : List (Fragment (Option Nat))) :
    (conditionTokens d fs).toList.flatMap marksIn = fs.flatMap Fragment.operands := by
  unfold conditionTokens
  split_ifs with h
  · subst h
    rfl
  · rw [Option.toList_some, List.flatMap_singleton, marksIn_intercalate rfl, List.flatMap_map]
    exact List.flatMap_congr fun f _ => marksIn_fragment d f

theorem marksIn_orderTokens (order : List (String × Option Direction)) :
    (orderTokens order).toList.flatMap marksIn = [] := by
  have hterm : ∀ t, marksIn (termTokens t) = [] := by rintro ⟨n, _ | _⟩ <;> rfl
  unfold orderTokens
  split_ifs <;> simp [List.flatMap_map, hterm]

theorem marksIn_assignments (assignments : List (String × Option Nat)) :
    (assignments.map assignmentTokens).flatMap marksIn = assignments.map Prod.snd := by
  rw [List.flatMap_map, List.map_eq_flatMap]
  rfl

/-- **The marks among the tokens of a proper sentence are its operands**, in order. -/
theorem marksIn_tokens {d : Dialect} {s : Sentence (Option Nat)} (h : s.Proper) :
    marksIn (s.tokens d) = s.operands := by
  rw [Sentence.tokens, marksIn_flatten]
  cases s with
  | insert table columns values =>
    simp [Sentence.clauses, Sentence.operands, bracketed, List.flatMap_map]
  | select columns table conditions order limit offset =>
    have hlimit : limit.toList.flatMap marksIn = [] := List.flatMap_eq_nil_iff.2 fun ts hts =>
      (h ts (List.mem_append_left _ hts)).2
    have hoffset : offset.toList.flatMap marksIn = [] := List.flatMap_eq_nil_iff.2 fun ts hts =>
      (h ts (List.mem_append_right _ hts)).2
    simp [Sentence.clauses, Sentence.operands, marksIn_clause, marksIn_columnTokens,
      marksIn_conditionTokens, marksIn_orderTokens, hlimit, hoffset]
  | update table assignments conditions =>
    simp [Sentence.clauses, Sentence.operands, marksIn_clause, marksIn_assignments,
      marksIn_conditionTokens]
  | delete table conditions =>
    simp [Sentence.clauses, Sentence.operands, marksIn_clause, marksIn_conditionTokens]

/-! ## Binding -/

/-- The sentence with other operands, of the same number. -/
def Sentence.refill? {α β : Type} : Sentence α → List β → Option (Sentence β)
  | .insert table columns old, values =>
    if values.length = old.length then some (.insert table columns values) else none
  | .select columns table conditions order limit offset, values =>
    (fill? conditions values).map (.select columns table · order limit offset)
  | .update table assignments conditions, values =>
    let own := values.take assignments.length
    if own.length = assignments.length then
      (fill? conditions (values.drop assignments.length)).map
        (.update table ((assignments.map Prod.fst).zip own))
    else none
  | .delete table conditions, values => (fill? conditions values).map (.delete table)

/-- The values of an update come first, then those of its conditions. -/
theorem refill_update {α β : Type} {table : String} {names : List String} {old : List α}
    {conditions : List (Fragment α)} {own rest : List β} (hold : old.length = names.length)
    (hown : own.length = names.length) :
    (Sentence.update table (names.zip old) conditions).refill? (own ++ rest) =
      (fill? conditions rest).map (.update table (names.zip own)) := by
  have hlength : (names.zip old).length = own.length := by rw [List.length_zip, hold, hown, min_self]
  simp only [Sentence.refill?, hlength, List.take_left, List.drop_left, if_true,
    List.map_fst_zip hold.ge]

/-- Puts the values of parameters in the place of the marks. -/
def Sentence.bind? {α : Type} (params : List α) (s : Sentence (Option Nat)) :
    Option (Sentence α) := do
  s.refill? (← values? 0 params 0 s.operands)

end TableService.Sql
