/-
  The columns that the definitions of a plan declare.

  * `Bare`: a type is made of words and blanks, and of sizes in brackets.
  * `Passes`: characters go on with the definition of a column, whatever follows them, as a bare type
    does (`passes_bare`).
  * `Clause`: they do so after anything, as what is required of a column does, and what it refers to
    (`clause_reference`).
  * `declares_statement`: the statement that creates a plan with bare types declares its columns, in
    order; `create_columns`: so these are the columns of the table that it creates.
-/
import TableService.Proofs.Schema.Plans
import TableService.Proofs.Store.Columns
import TableService.Proofs.Store.Creation
import TableService.Proofs.Store.Token

namespace TableService.Store

open Token

/-- The characters are words and blanks, with sizes in brackets: numbers and commas.  They begin
inside such brackets if `nested`. -/
inductive Bare : Bool → List Char → Prop
  | nil : Bare false []
  | blank {nested : Bool} {cs : List Char} : Bare nested cs → Bare nested (' ' :: cs)
  | word {w cs : List Char} : isWordText w = true → Ends cs → Bare false cs → Bare false (w ++ cs)
  | enter {cs : List Char} : Bare true cs → Bare false ('(' :: cs)
  | number {ds cs : List Char} : isNumberText ds = true → Ends cs → Bare true cs →
    Bare true (ds ++ cs)
  | comma {cs : List Char} : Bare true cs → Bare true (',' :: cs)
  | leave {cs : List Char} : Bare false cs → Bare true (')' :: cs)

/-! ## Pieces -/

/-- The characters go on with the definition of a column, inside brackets before them and after them as
said, whatever follows. -/
def Passes (before after : Bool) (cs : List Char) : Prop :=
  ∀ (names : List String) (rest : List Char), Ends rest →
    (∀ offset, Declares after names (scan offset 0 rest)) →
      ∀ offset, Declares before names (scan offset 0 (cs ++ rest))

section
variable {before middle after : Bool} {cs more : List Char}

theorem passes_nil : Passes after after [] := fun _ _ _ h => h

theorem Passes.append (h : Passes before middle cs) (h' : Passes middle after more)
    (he : Ends more) : Passes before after (cs ++ more) := by
  intro names rest hr hrest offset
  rw [List.append_assoc]
  exact h names _ (he.append hr) (h' names rest hr hrest) offset

theorem Passes.blank (h : Passes before after cs) : Passes before after (' ' :: cs) := by
  intro names rest hr hrest offset
  rw [List.cons_append, scan_blank]
  exact h names rest hr hrest _

/-- What is one token, and not a sign, does not count. -/
theorem Passes.token {kind : TokenKind} (hkind : kind ≠ .sign) (h : Spells kind cs) :
    Passes after after cs := by
  intro names rest hr hrest offset
  obtain ⟨next, hscan⟩ := h offset rest hr
  rw [hscan]
  have hseparates : (⟨kind, String.ofList cs, offset⟩ : Token).separates = false := by
    simp [separates, isSign, hkind]
  exact .other hseparates (hrest next)

theorem Passes.enter (h : Passes true after cs) : Passes false after ('(' :: cs) := by
  intro names rest hr hrest offset
  obtain ⟨next, hscan⟩ := scan_sign (.inr (.inl rfl)) offset (cs ++ rest)
  rw [List.cons_append, hscan]
  exact .enter rfl (h names rest hr hrest next)

theorem Passes.leave (h : Passes false after cs) : Passes true after (')' :: cs) := by
  intro names rest hr hrest offset
  obtain ⟨next, hscan⟩ := scan_sign (.inr (.inr rfl)) offset (cs ++ rest)
  rw [List.cons_append, hscan]
  exact .leave rfl (h names rest hr hrest next)

theorem Passes.comma (h : Passes true after cs) : Passes true after (',' :: cs) := by
  intro names rest hr hrest offset
  obtain ⟨next, hscan⟩ := scan_sign (.inl rfl) offset (cs ++ rest)
  rw [List.cons_append, hscan]
  exact .comma rfl (h names rest hr hrest next)

theorem passes_word {w : List Char} (h : isWordText w = true) : Passes after after w :=
  .token (by simp) (spells_word h)

theorem passes_quoted (name : Identifier) :
    Passes after after (Dialect.sqlite.quote name).toList :=
  .token (by simp) (spells_quoted name.name)

/-- **A bare type goes on with the definition of its column.** -/
theorem passes_bare (h : Bare before cs) : Passes before false cs := by
  induction h with
  | nil => exact passes_nil
  | blank _ ih => exact ih.blank
  | word hw he _ ih => exact (passes_word hw).append ih he
  | enter _ ih => exact ih.enter
  | number hd he _ ih => exact (Passes.token (by simp) (spells_number hd)).append ih he
  | comma _ ih => exact ih.comma
  | leave _ ih => exact ih.leave

end

theorem noNul_bare {nested : Bool} {cs : List Char} (h : Bare nested cs) : '\x00' ∉ cs := by
  induction h with
  | nil => exact List.not_mem_nil
  | blank _ ih | enter _ ih | comma _ ih | leave _ ih =>
    rw [List.mem_cons, not_or]
    exact ⟨by decide, ih⟩
  | word hw _ _ ih =>
    rw [List.mem_append, not_or]
    exact ⟨noNul_word hw, ih⟩
  | number hd _ _ ih =>
    rw [List.mem_append, not_or]
    exact ⟨noNul_number hd, ih⟩

/-! ## Clauses -/

/-- The characters may stand after anything in the definition of a column, and go on with it. -/
structure Clause (cs : List Char) : Prop where
  passes : Passes false false cs
  ends : Ends cs
  noNul : '\x00' ∉ cs

theorem clause_nil : Clause [] := ⟨passes_nil, ends_nil, List.not_mem_nil⟩

theorem clause_blank {cs : List Char} (h : Passes false false cs) (hn : '\x00' ∉ cs) :
    Clause (' ' :: cs) :=
  ⟨h.blank, ends_cons cs (.inl rfl), by simpa using hn⟩

theorem Clause.append {cs more : List Char} (h : Clause cs) (h' : Clause more) :
    Clause (cs ++ more) :=
  ⟨h.passes.append h'.passes h'.ends, h.ends.append h'.ends,
    by simpa using ⟨h.noNul, h'.noNul⟩⟩

/-- Words, each after a blank. -/
def spaced (ws : List String) : List Char := ws.flatMap fun w => ' ' :: w.toList

theorem clause_spaced {ws : List String} (h : ∀ w ∈ ws, isWordText w.toList = true) :
    Clause (spaced ws) := by
  induction ws with
  | nil => exact clause_nil
  | cons w ws ih =>
    obtain ⟨hw, hws⟩ := List.forall_mem_cons.1 h
    rw [spaced, List.flatMap_cons]
    exact (clause_blank (passes_word hw) (noNul_word hw)).append (ih hws)

/-- What a column requires of its values. -/
def demand (b : Bool) (s : String) : String := if b then s else ""

theorem clause_demand (b : Bool) {s : String} (h : Clause s.toList) :
    Clause (demand b s).toList := by
  cases b
  · exact clause_nil
  · exact h

/-- What a foreign key does at an event. -/
def reaction (event : String) : Option KeyAction → String
  | some a => " ON " ++ event ++ " " ++ a.sql
  | none => ""

theorem action_words (a : KeyAction) : ∃ ws : List String,
    (∀ w ∈ ws, isWordText w.toList = true) ∧ ' ' :: a.sql.toList = spaced ws := by
  cases a
  · exact ⟨["CASCADE"], by decide, rfl⟩
  · exact ⟨["SET", "NULL"], by decide, rfl⟩
  · exact ⟨["RESTRICT"], by decide, rfl⟩
  · exact ⟨["NO", "ACTION"], by decide, rfl⟩
  · exact ⟨["SET", "DEFAULT"], by decide, rfl⟩

theorem clause_reaction {event : String} (h : isWordText event.toList = true)
    (a : Option KeyAction) : Clause (reaction event a).toList := by
  cases a with
  | none => exact clause_nil
  | some a =>
    obtain ⟨ws, hws, ha⟩ := action_words a
    have hon : isWordText "ON".toList = true := by decide
    have hall : ∀ w ∈ "ON" :: event :: ws, isWordText w.toList = true :=
      List.forall_mem_cons.2 ⟨hon, List.forall_mem_cons.2 ⟨h, hws⟩⟩
    have htext : (reaction event (some a)).toList = spaced ("ON" :: event :: ws) := by
      rw [spaced, List.flatMap_cons, List.flatMap_cons, ← spaced, ← ha]
      simp [reaction]
    rw [htext]
    exact clause_spaced hall

theorem reference_eq (r : Schema.Reference) : r.sql .sqlite =
    "REFERENCES " ++ Dialect.sqlite.quote r.table ++ "(" ++ Dialect.sqlite.quote r.column ++ ")" ++
      reaction "DELETE" r.onDelete ++ reaction "UPDATE" r.onUpdate := rfl

/-- **A reference goes on with the definition of its column.** -/
theorem clause_reference (r : Schema.Reference) : Clause (' ' :: (r.sql .sqlite).toList) := by
  have hactions :
      Clause ((reaction "DELETE" r.onDelete).toList ++ (reaction "UPDATE" r.onUpdate).toList) :=
    (clause_reaction (by decide) _).append (clause_reaction (by decide) _)
  have hcolumn : Passes true false ((Dialect.sqlite.quote r.column).toList ++ ')' ::
      ((reaction "DELETE" r.onDelete).toList ++ (reaction "UPDATE" r.onUpdate).toList)) :=
    (passes_quoted r.column).append hactions.passes.leave (ends_cons _ (by decide))
  have htable : Passes false false ((Dialect.sqlite.quote r.table).toList ++ '(' ::
      ((Dialect.sqlite.quote r.column).toList ++ ')' ::
        ((reaction "DELETE" r.onDelete).toList ++ (reaction "UPDATE" r.onUpdate).toList))) :=
    (passes_quoted r.table).append hcolumn.enter (ends_cons _ (by decide))
  have hword : isWordText "REFERENCES".toList = true := by decide
  have htext := (passes_word hword).append htable.blank (ends_cons _ (.inl rfl))
  have hnoNul : '\x00' ∉ "REFERENCES".toList ++ ' ' :: ((Dialect.sqlite.quote r.table).toList ++
      '(' :: ((Dialect.sqlite.quote r.column).toList ++ ')' ::
        ((reaction "DELETE" r.onDelete).toList ++ (reaction "UPDATE" r.onUpdate).toList))) := by
    have hactions := hactions.noNul
    simp only [List.mem_append, List.mem_cons, not_or] at hactions ⊢
    exact ⟨noNul_word hword, by decide, noNul_quote _, by decide, noNul_quote _, by decide,
      hactions⟩
  rw [reference_eq]
  simpa using clause_blank htext hnoNul

/-! ## Columns -/

/-- What follows the name in the definition of a column. -/
def afterName (c : Schema.PhysicalColumn) : String :=
  " " ++ (c.description .sqlite).columnType ++ demand c.required " NOT NULL" ++
    demand c.unique " UNIQUE" ++ match c.reference with
    | some r => " " ++ r.sql .sqlite
    | none => ""

theorem definition_eq (c : Schema.PhysicalColumn) :
    c.definition .sqlite = Dialect.sqlite.quote c.name ++ afterName c := by
  unfold Schema.PhysicalColumn.definition Schema.PhysicalColumn.plainDefinition afterName demand
  cases c.reference <;> simp [Dialect.inlineForeignKeys, String.append_assoc]

/-- The column has a bare type. -/
def HasBareType (c : Schema.PhysicalColumn) : Prop :=
  Bare false (c.description .sqlite).columnType.toList

theorem clause_afterName {c : Schema.PhysicalColumn} (h : HasBareType c) :
    Clause (afterName c).toList := by
  have htype : Clause (" " ++ (c.description .sqlite).columnType).toList := by
    simpa using clause_blank (passes_bare h) (noNul_bare h)
  have hnull : Clause (demand c.required " NOT NULL").toList :=
    clause_demand _ (show Clause (spaced ["NOT", "NULL"]) from clause_spaced (by decide))
  have hunique : Clause (demand c.unique " UNIQUE").toList :=
    clause_demand _ (show Clause (spaced ["UNIQUE"]) from clause_spaced (by decide))
  have hreference : Clause (match c.reference with
      | some r => " " ++ r.sql .sqlite
      | none => "").toList := by
    cases c.reference with
    | none => exact clause_nil
    | some r => simpa using clause_reference r
  unfold afterName
  simp only [String.toList_append] at htype ⊢
  exact ((htype.append hnull).append hunique).append hreference

/-- **The definition of a column declares it**, with whatever follows. -/
theorem declares_column {c : Schema.PhysicalColumn} (h : HasBareType c) {names : List String}
    {rest : List Char} (hr : Ends rest)
    (hrest : ∀ offset, Declares false names (scan offset 0 rest)) (offset : Nat) :
    Declares false (c.name.name :: names)
      (scan offset 0 (',' :: ' ' :: (c.definition .sqlite).toList ++ rest)) := by
  have hafter := clause_afterName h
  obtain ⟨next, hcomma⟩ := scan_sign (.inl rfl) offset
    (' ' :: (c.definition .sqlite).toList ++ rest)
  obtain ⟨last, hname⟩ := spells_quoted c.name.name (next + 1) ((afterName c).toList ++ rest)
    (hafter.ends.append hr)
  have htext : (c.definition .sqlite).toList ++ rest =
      (Dialect.sqlite.quoteText c.name.name).toList ++ ((afterName c).toList ++ rest) := by
    rw [definition_eq, String.toList_append, List.append_assoc]
    rfl
  rw [List.cons_append, hcomma, List.cons_append, scan_blank, htext, hname]
  exact .column rfl rfl (hafter.passes names rest hr hrest last)

/-- The definitions of columns, each after a comma, and the bracket that ends the table. -/
def columnsText (columns : List Schema.PhysicalColumn) : List Char :=
  (columns.flatMap fun c => ',' :: ' ' :: (c.definition .sqlite).toList) ++ [')']

theorem ends_columnsText (columns : List Schema.PhysicalColumn) : Ends (columnsText columns) := by
  cases columns with
  | nil => exact ends_cons _ (by decide)
  | cons => exact ends_cons _ (by decide)

theorem declares_columns {columns : List Schema.PhysicalColumn}
    (h : ∀ c ∈ columns, HasBareType c) (offset : Nat) :
    Declares false (Schema.names columns) (scan offset 0 (columnsText columns)) := by
  induction columns generalizing offset with
  | nil =>
    obtain ⟨next, hend⟩ := scan_sign (c := ')') (.inr (.inr rfl)) offset []
    rw [columnsText, List.flatMap_nil, List.nil_append, hend]
    exact .close rfl
  | cons c columns ih =>
    obtain ⟨hc, hcolumns⟩ := List.forall_mem_cons.1 h
    rw [columnsText, List.flatMap_cons, List.append_assoc, ← columnsText]
    exact declares_column hc (ends_columnsText columns) (ih hcolumns) offset

/-! ## Statements -/

/-- The characters are this many tokens, whatever follows. -/
def Counts (n : Nat) (cs : List Char) : Prop :=
  ∀ offset rest, Ends rest → ∃ after, (scan offset 0 (cs ++ rest)).drop n = scan after 0 rest

theorem counts_spells {kind : TokenKind} {cs : List Char} (h : Spells kind cs) : Counts 1 cs := by
  intro offset rest hr
  obtain ⟨after, hscan⟩ := h offset rest hr
  exact ⟨after, by rw [hscan, List.drop_one, List.tail_cons]⟩

theorem Counts.append {n m : Nat} {cs more : List Char} (h : Counts n cs) (h' : Counts m more)
    (he : Ends more) : Counts (n + m) (cs ++ more) := by
  intro offset rest hr
  obtain ⟨middle, hcs⟩ := h offset (more ++ rest) (he.append hr)
  obtain ⟨after, hmore⟩ := h' middle rest hr
  exact ⟨after, by rw [List.append_assoc, ← List.drop_drop, hcs, hmore]⟩

theorem Counts.blank {n : Nat} {cs : List Char} (h : Counts n cs) : Counts n (' ' :: cs) :=
  fun offset rest hr => h (offset + 1) rest hr

theorem Counts.bracket {n : Nat} {cs : List Char} (h : Counts n cs) :
    Counts (n + 1) ('(' :: cs) := by
  intro offset rest hr
  obtain ⟨next, hscan⟩ := scan_sign (.inr (.inl rfl)) offset (cs ++ rest)
  obtain ⟨after, hcs⟩ := h next rest hr
  exact ⟨after, by rw [List.cons_append, hscan, List.drop_succ_cons, hcs]⟩

theorem counts_spaced {ws : List String} (h : ∀ w ∈ ws, isWordText w.toList = true) :
    Counts ws.length (spaced ws) := by
  induction ws with
  | nil => exact fun offset rest _ => ⟨offset, rfl⟩
  | cons w ws ih =>
    obtain ⟨hw, hws⟩ := List.forall_mem_cons.1 h
    rw [spaced, List.flatMap_cons, List.length_cons, Nat.add_comm]
    exact (counts_spells (spells_word hw)).blank.append (ih hws) (clause_spaced hws).ends

/-- A statement that creates a table, up to the end of its key column. -/
def head (table : Identifier) : List Char :=
  "CREATE".toList ++ (spaced ["TABLE", "IF", "NOT", "EXISTS"] ++
    ' ' :: ((Dialect.sqlite.quote table).toList ++ ' ' :: '(' ::
      ((Dialect.sqlite.quote .id).toList ++
        spaced ["INTEGER", "PRIMARY", "KEY", "AUTOINCREMENT"])))

theorem counts_head (table : Identifier) : Counts tokensBefore (head table) := by
  have hname (i : Identifier) : Counts 1 (Dialect.sqlite.quote i).toList :=
    counts_spells (spells_quoted i.name)
  have hkey : ∀ w ∈ ["INTEGER", "PRIMARY", "KEY", "AUTOINCREMENT"], isWordText w.toList = true := by
    decide
  have hcreate : isWordText "CREATE".toList = true := by decide
  have hunless : ∀ w ∈ ["TABLE", "IF", "NOT", "EXISTS"], isWordText w.toList = true := by decide
  have hcolumn : Counts (1 + 4) ((Dialect.sqlite.quote .id).toList ++
      spaced ["INTEGER", "PRIMARY", "KEY", "AUTOINCREMENT"]) :=
    (hname .id).append (counts_spaced hkey) (clause_spaced hkey).ends
  have htable := (hname table).append hcolumn.bracket.blank (ends_cons _ (.inl rfl))
  have hwords : Counts 4 (spaced ["TABLE", "IF", "NOT", "EXISTS"]) := counts_spaced hunless
  have htext := (counts_spells (spells_word hcreate)).append
    (hwords.append htable.blank (ends_cons _ (.inl rfl))) (ends_cons _ (.inl rfl))
  unfold head
  exact htext

theorem toList_commaSpaced (t : String) (ts : List String) : (commaSpaced (t :: ts)).toList =
    t.toList ++ ts.flatMap fun u => ',' :: ' ' :: u.toList := by
  rw [commaSpaced, String.toList_intercalate]
  induction ts generalizing t with
  | nil => simp
  | cons u ts ih =>
    rw [List.map_cons, List.map_cons, List.intercalate_cons_cons, ← List.map_cons, ih u]
    simp

theorem definitions_eq (p : Schema.Plan) :
    p.definitions .sqlite = p.columns.map (·.definition .sqlite) := by
  have hnone : p.columns.filterMap (·.constraint? .sqlite) = [] :=
    List.filterMap_eq_nil_iff.2 fun c _ => rfl
  rw [Schema.Plan.definitions, hnone, List.append_nil]

theorem statement_toList (table : Identifier) (p : Schema.Plan) :
    (createTableSql .sqlite table (p.definitions .sqlite)).toList =
      head table ++ columnsText p.columns := by
  have hbegin : "CREATE TABLE IF NOT EXISTS ".toList =
      "CREATE".toList ++ (spaced ["TABLE", "IF", "NOT", "EXISTS"] ++ [' ']) := by decide
  have hwords : " INTEGER PRIMARY KEY AUTOINCREMENT".toList =
      spaced ["INTEGER", "PRIMARY", "KEY", "AUTOINCREMENT"] := by decide
  have hkey : Dialect.sqlite.primaryKey.toList = (Dialect.sqlite.quote .id).toList ++
      spaced ["INTEGER", "PRIMARY", "KEY", "AUTOINCREMENT"] := by
    rw [Dialect.primaryKey, String.toList_append]
    exact congrArg _ hwords
  have hopen : " (".toList = [' ', '('] := rfl
  have hclose : ")".toList = [')'] := rfl
  unfold createTableSql head columnsText
  simp only [String.toList_append, toList_commaSpaced, hbegin, hkey, hopen, hclose, definitions_eq,
    List.flatMap_map, List.append_assoc, List.cons_append, List.nil_append]

theorem noNul_head (table : Identifier) : '\x00' ∉ head table := by
  have hunless : ∀ w ∈ ["TABLE", "IF", "NOT", "EXISTS"], isWordText w.toList = true := by decide
  have hkey : ∀ w ∈ ["INTEGER", "PRIMARY", "KEY", "AUTOINCREMENT"], isWordText w.toList = true := by
    decide
  unfold head
  simp only [List.mem_append, List.mem_cons, not_or]
  exact ⟨by decide, (clause_spaced hunless).noNul, by decide, noNul_quote _, by decide, by decide,
    noNul_quote _, (clause_spaced hkey).noNul⟩

theorem noNul_columnsText {columns : List Schema.PhysicalColumn}
    (h : ∀ c ∈ columns, HasBareType c) : '\x00' ∉ columnsText columns := by
  unfold columnsText
  simp only [List.mem_append, List.mem_cons, List.mem_flatMap, not_or, not_exists, not_and]
  refine ⟨fun c hc => ⟨by decide, by decide, ?_⟩, by decide, List.not_mem_nil⟩
  rw [definition_eq, String.toList_append, List.mem_append, not_or]
  exact ⟨noNul_quote _, (clause_afterName (h c hc)).noNul⟩

/-- **The statement that creates a plan with bare types declares its columns.** -/
theorem declares_statement (table : Identifier) {p : Schema.Plan}
    (h : ∀ c ∈ p.columns, HasBareType c) :
    Declares false (Schema.names p.columns) (definitionTokens table (p.definitions .sqlite)) := by
  have hall : ∀ c ∈ head table ++ columnsText p.columns, decide (c ≠ '\x00') = true := by
    intro c hc
    refine decide_eq_true ?_
    rintro rfl
    rcases List.mem_append.1 hc with hc | hc
    · exact noNul_head table hc
    · exact noNul_columnsText h hc
  rw [definitionTokens, tokens, statement_toList table p, List.takeWhile_eq_self_iff.2 hall]
  obtain ⟨after, hscan⟩ := counts_head table 0 _ (ends_columnsText p.columns)
  rw [hscan]
  exact declares_columns h after

/-- **A plan with bare types that is created has its columns**, if there was no such table. -/
theorem create_columns {s s' : Contents} {table : Identifier} {p : Schema.Plan}
    (h : ∀ c ∈ p.columns, HasBareType c) (hnone : s.find? table.name = none)
    (hs : s.create table (p.definitions .sqlite) = .ok s') :
    ∃ t, s'.tables = s.tables ++ [t] ∧ t.name = table.name ∧
      t.names = keyName :: Schema.names p.columns := by
  obtain ⟨-, d, hd, rfl⟩ := create_eq_ok.1 hs
  have hnew : (draft s table (p.definitions .sqlite)).isKnown = false := by
    rw [draft, hnone]
    rfl
  have hstart : Draft.Reached table.name []
      (draft s table (p.definitions .sqlite), .constraint .column .none) := ⟨hnew, rfl, rfl⟩
  obtain ⟨hreached, -⟩ := Draft.read_declares (declares_statement table h) hstart rfl
    (Draft.read_eq_ok.1 hd)
  refine ⟨d.table, ?_, hreached.name, ?_⟩
  · rw [hnone]
    rfl
  · have hnames : d.columnNames ++ [] = [] ++ Schema.names p.columns := hreached.names
    rw [List.append_nil, List.nil_append] at hnames
    exact congrArg (keyName :: ·) hnames

end TableService.Store
