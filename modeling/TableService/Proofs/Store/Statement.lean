/-
  Statements on rows as the embedded database runs them.

  * `Command.pieces` are the pieces of the statement of a command, as `Command.writes` says;
    `parse_statement`: they are read as what the command asks for.
  * `run_statement`: to run the statement of a request as a text is to carry out its command.
  * `create_textually`, `read_textually`, `change_textually` and `remove_textually`: so the database
    does with rows what the texts of its statements ask for.
-/
import TableService.Proofs.Calls
import TableService.Proofs.Store.Clause
import TableService.Proofs.Store.RowByKey

namespace TableService

open Store Store.Token Store.Piece

/-! ## Texts -/

/-- The pieces of the columns of a selection. -/
def columnPieces (columns : List Identifier) : List Piece :=
  if columns = [] then [sign "*"] else joined (columns.map fun i => [named i.name])

/-- The pieces of an assignment. -/
def assignmentPieces (a : Identifier × Json) : List Piece := [named a.1.name, sign "=", a.2.piece]

namespace Command

/-- The pieces of the statement of a command. -/
def pieces : Command → List Piece
  | .insert c => word "INSERT" :: word "INTO" :: named c.table.name ::
      (bracketed (joined (c.row.map fun a => [named a.1.name])) ++
        word "VALUES" :: bracketed (joined (c.row.map fun a => [a.2.piece])))
  | .select c => word "SELECT" :: (columnPieces c.columns ++ word "FROM" :: named c.table.name ::
      (Test.wherePieces c.tests ++ (OrderTerm.orderPieces c.order ++
        (limitPieces c.limit c.offset ++ offsetPieces c.offset))))
  | .update c => word "UPDATE" :: named c.table.name :: word "SET" ::
      (joined (c.row.map assignmentPieces) ++ Test.wherePieces c.tests)
  | .delete c => word "DELETE" :: word "FROM" :: named c.table.name :: Test.wherePieces c.tests

end Command

theorem writes_names {α : Type} (column : α → Identifier) (l : List α) :
    Writes (commaSpaced (l.map fun a => Dialect.sqlite.quote (column a))).toList []
      (joined (l.map fun a => [named (column a).name])) := by
  have h := Writes.commaSpaced (fun a => Writes.quoted (column a)) l
  rwa [List.flatMap_eq_nil_iff.2 fun _ _ => rfl] at h

theorem writes_columns (c : Select) :
    Writes (c.columnsSql .sqlite).toList [] (columnPieces c.columns) := by
  unfold Select.columnsSql columnPieces
  by_cases h : c.columns = []
  · rw [if_pos h, if_pos (by simpa using h)]
    exact Writes.nil.cons (by decide) fun offset _ => ⟨offset + 1, rfl⟩
  · rw [if_neg h, if_neg (by simpa using h)]
    exact writes_names id c.columns

theorem writes_assignments (row : Assignments) :
    Writes (commaSpaced (Update.assignmentsSql .sqlite 0 row)).toList
      (row.map fun a => .ofJson a.2) (joined (row.map assignmentPieces)) := by
  have hsql : ∀ used, Update.assignmentsSql .sqlite used row =
      row.map fun a => Dialect.sqlite.quote a.1 ++ " = " ++ "?" := by
    induction row with
    | nil => exact fun _ => rfl
    | cons a row ih => exact fun used => congrArg (List.cons _) (ih (used + 1))
  have hpart (a : Identifier × Json) :
      Writes (Dialect.sqlite.quote a.1 ++ " = " ++ "?").toList [.ofJson a.2] (assignmentPieces a) := by
    have hequals := (Writes.token (Comparison.spells (c := .eq) (by decide)) (fun _ => by decide)
      (by decide)).append (Writes.mark (.ofJson a.2)).blank (ends_cons _ (.inl rfl))
    simp only [String.toList_append, List.append_assoc]
    exact (Writes.quoted a.1).append hequals.blank (ends_cons _ (.inl rfl))
  have h := Writes.commaSpaced hpart row
  rwa [← List.map_eq_flatMap, ← hsql 0] at h

theorem follows_from_sqlite (table : Identifier) :
    Follows (' ' :: ("FROM".toList ++ ' ' :: (Dialect.sqlite.quote table).toList)) []
      [word "FROM", named table.name] :=
  .clause rfl (.quoted table)

theorem Insert.writes (c : Insert) : Writes (c.statement .sqlite).sql.toList
    ((c.statement .sqlite).params.map .ofJson) (Command.insert c).pieces := by
  have hparams : (c.statement .sqlite).params.map Cell.ofJson = c.row.map fun a => .ofJson a.2 :=
    List.map_map
  have hnames := (writes_names Prod.fst c.row).bracketed.blank
  have hmarks := Follows.clause (w := "VALUES") rfl (writes_marks Prod.snd 0 c.row).bracketed
  have htable := (Writes.quoted c.table).append
    (hnames.append hmarks.writes hmarks.ends) (ends_cons _ (.inl rfl))
  rw [c.toList_sql, hparams]
  exact .keyword rfl (.keyword rfl htable)

theorem Select.writes (c : Select) : Writes (c.statement .sqlite).sql.toList
    ((c.statement .sqlite).params.map .ofJson) (Command.select c).pieces := by
  have hpart := (OrderTerm.follows c.order).append
    ((follows_limit_sqlite c.limit c.offset).append (follows_offset_sqlite c.offset))
  have hrest := (follows_from_sqlite c.table).append ((Test.follows c.tests 0).append hpart)
  have hall := Writes.keyword (w := "SELECT") rfl
    ((writes_columns c).append hrest.writes hrest.ends)
  simp only [List.nil_append, List.append_nil] at hall
  rw [c.toList_sql]
  exact hall

theorem Update.writes (c : Update) : Writes (c.statement .sqlite).sql.toList
    ((c.statement .sqlite).params.map .ofJson) (Command.update c).pieces := by
  have hparams : (c.statement .sqlite).params.map Cell.ofJson =
      (c.row.map fun a => .ofJson a.2) ++ (Test.params c.tests).map .ofJson := by
    show (c.row.map Prod.snd ++ _).map Cell.ofJson = _
    rw [List.map_append, List.map_map]
    rfl
  have hrest := (Follows.clause (w := "SET") rfl (writes_assignments c.row)).append
    (Test.follows c.tests c.row.length)
  rw [c.toList_sql, hparams]
  exact .keyword rfl ((Writes.quoted c.table).append hrest.writes hrest.ends)

theorem Delete.writes (c : Delete) : Writes (c.statement .sqlite).sql.toList
    ((c.statement .sqlite).params.map .ofJson) (Command.delete c).pieces := by
  have hrest := (follows_from_sqlite c.table).append (Test.follows c.tests 0)
  rw [c.toList_sql]
  exact (Writes.word rfl).append hrest.writes hrest.ends

/-- **The text of a statement is made of the pieces of its command.** -/
theorem Command.writes (c : Command) : Writes (c.statement .sqlite).sql.toList
    ((c.statement .sqlite).params.map .ofJson) c.pieces := by
  cases c with
  | insert c => exact c.writes
  | select c => exact c.writes
  | update c => exact c.writes
  | delete c => exact c.writes

/-! ## Reading them -/

namespace Command

/-- What the statement of a command asks for. -/
def asked : Command → Store.Request
  | .insert c => .insert c.table.name (cellsOf c.row)
  | .select c => .select c.table.name (c.columns.map Identifier.mention)
      (c.tests.map Test.condition) (c.order.map OrderTerm.asked) (c.limit.map UInt64.toNat)
      (c.offset.map UInt64.toNat)
  | .update c => .update c.table.name (cellsOf c.row) (c.tests.map Test.condition)
  | .delete c => .delete c.table.name (c.tests.map Test.condition)

end Command

namespace Store
variable (s : Source)

theorem reads_insertion {c : Insert} (h : c.row ≠ []) :
    Reads s.insertion ((Command.insert c).pieces.drop 1) (Command.insert c).asked := by
  refine reads_cons fun offset => reads_cons fun offset' qs hqs => ?_
  obtain ⟨columns, qs, hcolumns, hnames, hqs⟩ :=
    bracketed_joined s (fun a : Identifier × Json => reads_name s a.1.name)
      (fun _ => List.forall_mem_singleton.2 ⟨rfl, rfl⟩) (by simp) h _ hqs
  obtain ⟨v, qs, rfl, hv, hqs⟩ := List.map_eq_cons_iff.1 hqs
  obtain ⟨values, rest, hvalues, hcells, hrest⟩ :=
    bracketed_joined s (fun a : Identifier × Json => reads_operand s (.ofJson a.2))
      (fun _ => List.forall_mem_singleton.2 ⟨rfl, rfl⟩) (by simp) h []
      (hqs.trans (List.append_nil _).symm)
  obtain rfl := List.map_eq_nil_iff.1 hrest
  have hinto : (word "INTO").isWord "into" = true := rfl
  have hword : v.isWord "values" = true := (congrArg (·.isWord "values") hv).trans rfl
  have hlength : (c.row.map fun a => Cell.ofJson a.2).length =
      (c.row.map fun a => a.1.name).length := by rw [List.length_map, List.length_map]
  simp only [Source.insertion, isWord_after, hinto, Bool.not_true, Bool.false_eq_true, if_false]
  refine bind_eq_ok.2 ⟨_, reads_name s c.table.name _ rfl, bind_eq_ok.2 ⟨_, hcolumns,
    bind_eq_ok.2 ⟨_, hnames, ?_⟩⟩⟩
  simp only [hword, Bool.not_true, Bool.false_eq_true, if_false]
  refine bind_eq_ok.2 ⟨_, hvalues, ?_⟩
  simp only [List.isEmpty_nil, Bool.not_true, Bool.false_eq_true, if_false]
  refine bind_eq_ok.2 ⟨_, hcells, ?_⟩
  rw [if_neg (not_not.2 hlength), List.zip_map']
  rfl

theorem reads_assignment (a : Identifier × Json) :
    Reads s.assignment (assignmentPieces a) (a.1.name, .ofJson a.2) :=
  reads_cons fun _ => reads_cons fun _ => reads_cons fun _ => reads_nil rfl

theorem reads_revision {c : Update} (h : c.row ≠ []) :
    Reads s.revision ((Command.update c).pieces.drop 1) (Command.update c).asked := by
  refine reads_cons fun offset => reads_cons fun offset' qs hqs => ?_
  have hset : (word "SET").isWord "set" = true := rfl
  have hwhere : (word "WHERE").isWord "where" = true := rfl
  have hwhole : Whole (joined (c.row.map assignmentPieces)) :=
    whole_joined (List.forall_mem_map.2 fun a _ => whole_cons.2 ⟨fun _ _ => rfl,
      whole_cons.2 ⟨fun _ _ => rfl, whole_singleton.2 fun _ _ => rfl⟩⟩)
  obtain ⟨assignments, rest, htake, hdrop, ha, hrest⟩ :=
    split_at (·.isWord "where") (fun _ => rfl) hqs
      (fun p hp => hwhole p hp "where" (by decide)) (fun p hp => Test.head_where p hp ▸ hwhere)
  have hcomma (a : Identifier × Json) : ∀ p ∈ assignmentPieces a, p.isSign "," = false :=
    List.forall_mem_cons.2 ⟨rfl, List.forall_mem_cons.2 ⟨rfl, List.forall_mem_singleton.2 rfl⟩⟩
  have hassignments := reads_joined (reads_assignment s) hcomma h assignments ha
  simp only [Source.revision, isWord_after, hset, Bool.not_true, Bool.false_eq_true, if_false,
    htake, hdrop]
  exact bind_eq_ok.2 ⟨_, reads_name s c.table.name _ rfl, bind_eq_ok.2 ⟨_, hassignments,
    bind_eq_ok.2 ⟨_, reads_where s c.tests rest hrest, rfl⟩⟩⟩

theorem reads_columns (columns : List Identifier) :
    Reads s.columns (columnPieces columns) (columns.map Identifier.mention) := by
  unfold columnPieces
  split_ifs with h
  · subst h
    exact reads_cons fun _ => reads_nil rfl
  · intro qs hqs
    have hstar : qs.map (·.isSign "*") ≠ [true] := by
      obtain ⟨i, columns, rfl⟩ := List.exists_cons_of_ne_nil h
      have hfirst : (qs.map atStart).head? = some (named i.name) := by
        rw [hqs]
        cases columns <;> rfl
      intro hstar
      cases qs with
      | nil => cases hstar
      | cons q qs =>
        have hq : q.isSign "*" = false := congrArg (·.isSign "*") (Option.some.inj hfirst)
        exact absurd (hq.symm.trans (List.cons.inj hstar).1) (by decide)
    rw [Source.columns, if_neg hstar]
    exact reads_joined (fun _ => reads_cons fun _ => reads_nil rfl)
      (fun _ => List.forall_mem_singleton.2 rfl) h qs hqs

theorem reads_query (table : String) (columns : List Mention) (c : Select) :
    Reads (s.query table columns) (Test.wherePieces c.tests ++ (OrderTerm.orderPieces c.order ++
      (limitPieces c.limit c.offset ++ offsetPieces c.offset)))
      (.select table columns (c.tests.map Test.condition) (c.order.map OrderTerm.asked)
        (c.limit.map UInt64.toNat) (c.offset.map UInt64.toNat)) := by
  intro qs hqs
  have hwhere : ∀ p ∈ Test.wherePieces c.tests, (p.isWord "order" || p.isWord "limit") = false := by
    have hwords : ∀ w ∈ ["WHERE", "AND"],
        ((word w).isWord "order" || (word w).isWord "limit") = false := by decide
    unfold Test.wherePieces
    split_ifs
    · exact nofun
    · refine List.forall_mem_cons.2 ⟨hwords _ (by decide), forall_mem_intercalate
        (P := fun p => (p.isWord "order" || p.isWord "limit") = false) (hwords _ (by decide))
        (List.forall_mem_map.2 fun t _ p hp => ?_)⟩
      have hp := whole_test t p hp
      rw [hp "order" (by decide), hp "limit" (by decide)]
      rfl
  have htail : ∀ p ∈ (OrderTerm.orderPieces c.order ++
      (limitPieces c.limit c.offset ++ offsetPieces c.offset)).head?,
      (p.isWord "order" || p.isWord "limit") = true := by
    have hwords : ∀ w ∈ ["ORDER", "LIMIT"],
        ((word w).isWord "order" || (word w).isWord "limit") = true := by decide
    intro p hp
    rw [List.head?_append] at hp
    rcases Option.or_eq_some_iff.1 hp with hp | ⟨-, hp⟩
    · exact OrderTerm.head_order p hp ▸ hwords _ (by decide)
    · exact head_limit p hp ▸ hwords _ (by decide)
  obtain ⟨conditions, rest, htake, hdrop, hconditions, hrest⟩ :=
    split_at (fun p => p.isWord "order" || p.isWord "limit") (fun _ => rfl) hqs hwhere htail
  obtain ⟨last, horder, hlast⟩ := order_eq s c.order hrest head_limit
  simp only [Source.query, htake, hdrop]
  exact bind_eq_ok.2 ⟨_, reads_where s c.tests conditions hconditions, bind_eq_ok.2 ⟨_, horder,
    bind_eq_ok.2 ⟨_, reads_range s c.limit c.offset last hlast, rfl⟩⟩⟩

theorem reads_select (c : Select) :
    Reads s.select ((Command.select c).pieces.drop 1) (Command.select c).asked := by
  intro qs hqs
  have hfrom : (word "FROM").isWord "from" = true := rfl
  have hwhole : Whole (columnPieces c.columns) := by
    unfold columnPieces
    split_ifs
    · exact whole_singleton.2 fun _ _ => rfl
    · exact whole_joined (List.forall_mem_map.2 fun a _ => whole_singleton.2 fun _ _ => rfl)
  obtain ⟨items, rest, htake, hdrop, hitems, hrest⟩ :=
    split_at (·.isWord "from") (fun _ => rfl) hqs
      (fun p hp => hwhole p hp "from" (by decide)) (by rintro _ ⟨⟩; exact hfrom)
  obtain ⟨f, rest, rfl, -, hrest⟩ := List.map_eq_cons_iff.1 hrest
  obtain ⟨table, rest, rfl, htable, hrest⟩ := List.map_eq_cons_iff.1 hrest
  have hsome : items.isEmpty = false := by
    have hne : columnPieces c.columns ≠ [] := by
      unfold columnPieces
      split_ifs with h
      · exact List.cons_ne_nil _ _
      · exact joined_ne_nil (by simpa using h) (by simp)
    rw [← hitems] at hne
    simpa using hne
  have hname : s.name [table] = .ok c.table.name :=
    reads_name s c.table.name [table] (congrArg (fun p => [p]) htable)
  simp only [Source.select, htake, hdrop, hsome, Bool.false_eq_true, if_false]
  exact bind_eq_ok.2 ⟨_, reads_columns s c.columns items hitems, bind_eq_ok.2 ⟨_, hname,
    reads_query s _ _ c rest hrest⟩⟩

theorem reads_removal (c : Delete) :
    Reads s.removal ((Command.delete c).pieces.drop 1) (Command.delete c).asked := by
  refine reads_cons fun offset => reads_cons fun offset' qs hqs => ?_
  have hfrom : (word "FROM").isWord "from" = true := rfl
  simp only [Source.removal, isWord_after, hfrom, Bool.not_true, Bool.false_eq_true, if_false]
  exact bind_eq_ok.2 ⟨_, reads_name s c.table.name _ rfl,
    bind_eq_ok.2 ⟨_, reads_where s c.tests qs hqs, rfl⟩⟩

/-- **A statement is read as what its command asks for.** -/
theorem parse_statement {r : TableService.Request} {c : Command} (h : r.check = .ok c)
    (hps : s.pieces.map atStart = c.pieces) (hone : s.goesOn = false) :
    Request.parse s = .ok c.asked := by
  have hfirst {p : Piece} {w : String} (hp : p.atStart = word w) (lower : String) :
      p.isWord lower = (Text.lowerAscii w == lower) := congrArg (·.isWord lower) hp
  have hinsert : Text.lowerAscii "INSERT" = "insert" := rfl
  have hselect : Text.lowerAscii "SELECT" = "select" := rfl
  have hupdate : Text.lowerAscii "UPDATE" = "update" := rfl
  have hdelete : Text.lowerAscii "DELETE" = "delete" := rfl
  cases r with
  | insert table row =>
    obtain ⟨c, hc, rfl⟩ := map_eq_ok.1 h
    have hrow : c.row ≠ [] := (Assignments.check_ok (Insert.check_ok hc).2).1
    obtain ⟨p, ps, hpieces, hp, hps⟩ := List.map_eq_cons_iff.1 hps
    simp only [Request.parse, hpieces, hone, hfirst hp, hinsert]
    exact reads_insertion s hrow ps hps
  | select table o =>
    obtain ⟨c, -, rfl⟩ := map_eq_ok.1 h
    obtain ⟨p, ps, hpieces, hp, hps⟩ := List.map_eq_cons_iff.1 hps
    simp only [Request.parse, hpieces, hone, hfirst hp, hselect]
    exact reads_select s c ps hps
  | update table row filter =>
    obtain ⟨c, hc, rfl⟩ := map_eq_ok.1 h
    have hrow : c.row ≠ [] := (Assignments.check_ok (Update.check_ok hc).2.1).1
    obtain ⟨p, ps, hpieces, hp, hps⟩ := List.map_eq_cons_iff.1 hps
    simp only [Request.parse, hpieces, hone, hfirst hp, hupdate]
    exact reads_revision s hrow ps hps
  | delete table filter =>
    obtain ⟨c, -, rfl⟩ := map_eq_ok.1 h
    obtain ⟨p, ps, hpieces, hp, hps⟩ := List.map_eq_cons_iff.1 hps
    simp only [Request.parse, hpieces, hone, hfirst hp, hdelete]
    exact reads_removal s c ps hps

/-! ## Running them -/

/-- Carries out a command. -/
def Contents.obey (s : Contents) : Command → Except Fault (Contents × Answer)
  | .insert c => (s.insert c.table.name (cellsOf c.row)).map fun s' => (s', ⟨0, []⟩)
  | .select c => (s.select c).map fun rows => (s, ⟨0, rows⟩)
  | .update c => (s.update c.table.name (cellsOf c.row) (picking s c.table.name c.tests)).map
      fun (s', n) => (s', ⟨n, []⟩)
  | .delete c => (s.delete c.table.name (picking s c.table.name c.tests)).map
      fun (s', n) => (s', ⟨n, []⟩)

section
variable {α β : Type} (a : α)

theorem ok_bind (f : α → Except Fault β) : (Except.ok a >>= f) = f a := rfl

theorem bind_pure_eq_map (x : Except Fault α) (f : α → β) :
    (x >>= fun a => pure (f a)) = x.map f := by
  cases x <;> rfl

theorem discard_bind (f : PUnit → Except Fault β) :
    (discard (Except.ok a : Except Fault α) >>= f) = f ⟨⟩ := rfl

end

theorem mapM_probe (t : Table) (tests : List Test) :
    (tests.map Test.condition).mapM (·.probe t) = .ok (tests.map (Probe.ofTest t)) :=
  mapM_map_ok (probe_condition t) tests

theorem picking_of_get {s : Contents} {t : Table} {table : String} (ht : s.get table = .ok t)
    (tests : List Test) : picking s table tests = Probe.pick t (tests.map (Probe.ofTest t)) :=
  picking_eq (find?_of_get ht) tests

section
variable (s : Contents)

theorem answer_insert (c : Insert) :
    (Command.insert c).asked.answer s (.ok ()) = s.obey (.insert c) := by
  simp only [Command.asked, Request.answer, Contents.obey]
  cases hget : s.get c.table.name with
  | error e => rw [Contents.insert, hget]; rfl
  | ok t =>
    cases hvalues : t.located (.noColumnToInsert c.table.name) (cellsOf c.row) with
    | error e =>
      have hinsert : s.insert c.table.name (cellsOf c.row) = .error e :=
        bind_eq_error.2 (.inr ⟨t, hget, bind_eq_error.2 (.inl (bind_eq_error.2 (.inl hvalues)))⟩)
      rw [hinsert, ok_bind, hvalues]
      rfl
    | ok values =>
      rw [ok_bind, hvalues, discard_bind]
      exact bind_pure_eq_map _ _

theorem answer_select (c : Select) :
    (Command.select c).asked.answer s (.ok ()) = s.obey (.select c) := by
  simp only [Command.asked, Request.answer, Contents.obey, Contents.select]
  cases hget : s.get c.table.name with
  | error e => rfl
  | ok t =>
    have hheader : (c.columns.map Identifier.mention).mapM (·.shown t) =
      .ok (c.columns.map fun i => t.shown i.name) := mapM_map_ok (shown_mention t) _
    have hterms : (c.order.map OrderTerm.asked).mapM
        (fun x => do return (← x.1.subject t, x.2)) = .ok (t.orderTerms c.order) :=
      mapM_map_ok (term_asked t) _
    have hnames : t.header (c.columns.map Identifier.name) =
        if (c.columns.map Identifier.mention).isEmpty then t.header []
          else c.columns.map fun i => t.shown i.name := by
      cases c.columns <;> simp [Table.header]
    simp only [ok_bind, mapM_probe, hheader, hterms, hnames]
    exact bind_pure_eq_map _ _

theorem answer_update (c : Update) :
    (Command.update c).asked.answer s (.ok ()) = s.obey (.update c) := by
  simp only [Command.asked, Request.answer, Contents.obey]
  cases hget : s.get c.table.name with
  | error e => rw [Contents.update, hget]; rfl
  | ok t =>
    cases hvalues : t.located .noColumn (cellsOf c.row) with
    | error e =>
      have hupdate (picks : Entry → Bool) :
          s.update c.table.name (cellsOf c.row) picks = .error e :=
        bind_eq_error.2 (.inr ⟨t, hget, bind_eq_error.2 (.inl hvalues)⟩)
      rw [hupdate, ok_bind, hvalues]
      rfl
    | ok values =>
      rw [picking_of_get hget, ok_bind, hvalues]
      simp only [discard_bind, mapM_probe, ok_bind]
      exact bind_pure_eq_map _ _

theorem answer_delete (c : Delete) :
    (Command.delete c).asked.answer s (.ok ()) = s.obey (.delete c) := by
  simp only [Command.asked, Request.answer, Contents.obey]
  cases hget : s.get c.table.name with
  | error e => rw [Contents.delete, Contents.run, hget]; rfl
  | ok t =>
    rw [picking_of_get hget]
    simp only [ok_bind, mapM_probe]
    exact bind_pure_eq_map _ _

/-- **What a command asks for is answered by carrying it out.** -/
theorem answer_asked (c : Command) : c.asked.answer s (.ok ()) = s.obey c := by
  cases c with
  | insert c => exact answer_insert s c
  | select c => exact answer_select s c
  | update c => exact answer_update s c
  | delete c => exact answer_delete s c

end

/-- **To run the statement of a request is to carry out its command.** -/
theorem run_statement {r : TableService.Request} {c : Command} (h : r.check = .ok c)
    (s : Contents) :
    Request.run s (c.statement .sqlite).sql (c.statement .sqlite).params = s.obey c := by
  obtain ⟨hps, hone, hcount⟩ := c.writes.source
  rw [Request.run, parse_statement _ h hps hone, hcount]
  exact answer_asked s c

/-- Worded as a statement, a request leads from a store to another one and counts rows. -/
def Worded (r : TableService.Request) (s s' : Contents) (n : Nat) : Prop :=
  ∃ statement, r.statement .sqlite = .ok statement ∧
    Request.run s statement.sql statement.params = .ok (s', ⟨n, []⟩)

theorem worded_of_obey {r : TableService.Request} {c : Command} (hr : r.check = .ok c)
    {s s' : Contents} {n : Nat} (h : s.obey c = .ok (s', ⟨n, []⟩)) : Worded r s s' n :=
  ⟨c.statement .sqlite, map_eq_ok.2 ⟨c, hr, rfl⟩, (run_statement hr s).trans h⟩

/-! ## The database -/

/-- Runs the statement of a request as a text. -/
def textually (r : TableService.Request) : Action Connection Answer := do
  let statement ← Action.ofQuery (r.statement .sqlite)
  changing fun s => Request.run s statement.sql statement.params

/-- A request whose statement is run as a text is checked, and its command carried out. -/
theorem textually_eq (r : TableService.Request) :
    textually r = (Action.ofQuery r.check >>= fun c => changing fun s => s.obey c) := by
  unfold textually TableService.Request.statement
  cases h : r.check with
  | error e => rfl
  | ok c =>
    show (changing fun s => Request.run s (c.statement .sqlite).sql (c.statement .sqlite).params) =
      changing fun s => s.obey c
    simp only [run_statement h]

/-- A part of the result of a statement that changes the store. -/
theorem changing_bind_pure {α β : Type} (f : Contents → Except Fault (Contents × α)) (g : α → β) :
    (changing f >>= fun a => pure (g a)) = changing fun s => (f s).map fun x => (x.1, g x.2) := by
  funext w
  obtain ⟨s | _ | _, log⟩ := w
  · cases h : f s with
    | error e =>
      have hmap : ((f s).map fun x => (x.1, g x.2)) = .error e := by rw [h]; rfl
      exact (Action.outcome_bind_error (changing_error h log)).trans (changing_error hmap log).symm
    | ok x =>
      have hmap : ((f s).map fun x => (x.1, g x.2)) = .ok (x.1, g x.2) := by rw [h]; rfl
      exact (Action.outcome_bind_ok (changing_ok h log)).trans (changing_ok hmap log).symm
  · rfl
  · rfl

/-- What is done for a request whose commands are carried out so is done by running its statement as a
text. -/
theorem eq_textually {α γ : Type} {check : Except QueryError γ} (command : γ → Command)
    {r : TableService.Request} (hr : r.check = check.map command) {act : γ → Action Connection α}
    {g : Answer → α}
    (h : ∀ c, act c = changing fun s => (s.obey (command c)).map fun x => (x.1, g x.2)) :
    (Action.ofQuery check >>= act) = textually r >>= fun a => pure (g a) := by
  rw [textually_eq, bind_assoc, hr]
  cases check with
  | error e => rfl
  | ok c => exact (h c).trans (changing_bind_pure _ g).symm

/-- **A row is added by running the text of its statement.** -/
theorem create_textually (table : String) (row : Row) :
    database.create table row = textually (.insert table row) >>= fun _ => pure () := by
  refine eq_textually .insert rfl fun c => congrArg changing (funext fun s => ?_)
  show (s.insert c.table.name (cellsOf c.row) >>= fun s' => pure (s', ())) =
    ((s.insert c.table.name (cellsOf c.row)).map fun s' => (s', (⟨0, []⟩ : Answer))).map
      fun x => (x.1, ())
  cases s.insert c.table.name (cellsOf c.row) <;> rfl

/-- **Rows are read by running the text of the statement.** -/
theorem read_textually (table : String) (o : ReadOptions) :
    database.read table o = textually (.select table o) >>= fun a => pure a.rows := by
  refine eq_textually .select rfl fun c => funext fun w => ?_
  obtain ⟨s | _ | _, log⟩ := w
  · show (database.select c).outcome ⟨.open s, log⟩ = (changing fun s =>
      ((s.select c).map fun rows => (s, (⟨0, rows⟩ : Answer))).map
        fun x => (x.1, x.2.rows)).outcome ⟨.open s, log⟩
    rw [select_open]
    cases h : s.select c with
    | error e => exact (changing_error (by rw [h]; rfl) log).symm
    | ok rows => exact (changing_ok (by rw [h]; rfl) log).symm
  · rfl
  · rfl

/-- **Rows are changed by running the text of the statement.** -/
theorem change_textually (table : String) (row : Row) (filter : Option Filter) :
    database.change table row filter =
      textually (.update table row filter) >>= fun a => pure a.changed := by
  refine eq_textually .update rfl fun c => congrArg changing (funext fun s => ?_)
  show s.update c.table.name (cellsOf c.row) (picking s c.table.name c.tests) =
    ((s.update c.table.name (cellsOf c.row) (picking s c.table.name c.tests)).map
      fun x => (x.1, (⟨x.2, []⟩ : Answer))).map fun x => (x.1, x.2.changed)
  cases s.update c.table.name (cellsOf c.row) (picking s c.table.name c.tests) <;> rfl

/-- **Rows are removed by running the text of the statement.** -/
theorem remove_textually (table : String) (filter : Option Filter) :
    database.remove table filter = textually (.delete table filter) >>= fun a => pure a.changed := by
  refine eq_textually .delete rfl fun c => congrArg changing (funext fun s => ?_)
  show s.delete c.table.name (picking s c.table.name c.tests) =
    ((s.delete c.table.name (picking s c.table.name c.tests)).map
      fun x => (x.1, (⟨x.2, []⟩ : Answer))).map fun x => (x.1, x.2.changed)
  cases s.delete c.table.name (picking s c.table.name c.tests) <;> rfl

end Store

end TableService
