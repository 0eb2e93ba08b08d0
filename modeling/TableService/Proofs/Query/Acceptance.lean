/-
  Which requests are admitted.

  * `Operator.Known`: the keys of operators are nine names, with or without one dollar sign.
  * `Request.Sound`: a request has what it needs to be admitted: a row with columns if it carries
    one, valid names, known operators, and an order whose entries are well-formed.
  * `acceptance`: the sound requests are those that are admitted, in every dialect; the dialects
    agree on the cause of a refusal and on the parameters.
-/
import TableService.Proofs.Query.Clause
import TableService.Proofs.Service.Command

namespace TableService

/-! ## Names and operators -/

theorem Identifier.ofName_ok_iff {name : String} : (∃ i, ofName name = .ok i) ↔ Valid name := by
  simp only [ofName, mapError_eq_ok]
  exact check_ok_iff

namespace Operator

/-- The key is the name of an operator, which may have a dollar sign in front. -/
def Known (key : String) : Prop :=
  ∃ name ∈ ["eq", "ne", "gt", "gte", "lt", "lte", "like", "in", "nin"],
    key = name ∨ key = "$" ++ name

theorem mem_of_lookup {name : String} {op : Operator} (h : names.lookup name = some op) :
    name ∈ ["eq", "ne", "gt", "gte", "lt", "lte", "like", "in", "nin"] := by
  obtain ⟨e, he, hname⟩ := List.lookup_isSome_iff.1 (h ▸ rfl : (names.lookup name).isSome = true)
  rw [beq_iff_eq.1 hname]
  exact List.mem_map_of_mem (f := Prod.fst) he

/-- **The keys of operators** are the known ones. -/
theorem ofKey_ok_iff {key : String} : (∃ op, ofKey? key = some op) ↔ Known key := by
  constructor
  · rintro ⟨op, h⟩
    unfold ofKey? at h
    split at h
    · rename_i name hname
      refine ⟨_, mem_of_lookup h, .inr ?_⟩
      rw [← String.toList_inj, hname]
      simp
    · exact ⟨key, mem_of_lookup h, .inl rfl⟩
  · rintro ⟨name, hname, hkey⟩
    have hall : ∀ n ∈ ["eq", "ne", "gt", "gte", "lt", "lte", "like", "in", "nin"],
      (ofKey? n).isSome = true ∧ (ofKey? ("$" ++ n)).isSome = true := by decide +kernel
    obtain ⟨hplain, hdollar⟩ := hall name hname
    rcases hkey with rfl | rfl
    · exact Option.isSome_iff_exists.1 hplain
    · exact Option.isSome_iff_exists.1 hdollar

end Operator

/-! ## Filters -/

/-- The operators that are demanded are known. -/
def Demand.Known (a : Demand) : Prop := ∀ key ∈ a.key, Operator.Known key

theorem Test.ofEntry_ok_iff {column : Identifier} {e : String × Json} :
    (∃ t, ofEntry column e = .ok t) ↔ Operator.Known e.1 := by
  rw [← Operator.ofKey_ok_iff]
  unfold ofEntry
  cases Operator.ofKey? e.1 <;> simp

/-- A condition is admitted if its field is valid and its operators are known; there may be none. -/
theorem Test.ofCondition_ok_iff {c : String × Condition} :
    (∃ ts, ofCondition c = .ok ts) ↔
      Identifier.Valid c.1 ∧ ∀ a ∈ c.2.demands c.1, a.Known := by
  obtain ⟨field, condition⟩ := c
  refine bind_ok_iff Identifier.ofName_ok_iff fun column _ => ?_
  cases condition with
  | literal value =>
    refine ⟨fun _ a ha key hkey => ?_, fun _ => ⟨_, rfl⟩⟩
    obtain rfl := List.mem_singleton.1 ha
    cases hkey
  | operators entries =>
    simp only [mapM_ok_iff, ofEntry_ok_iff, Condition.demands, List.forall_mem_map, Demand.Known,
      Option.mem_some_iff, forall_eq']

theorem Filter.tests_ok_iff {filter : Filter} :
    (∃ ts, filter.tests = .ok ts) ↔
      (∀ n ∈ filter.names, Identifier.Valid n) ∧ ∀ a ∈ filter.demands, a.Known := by
  simp only [tests, map_ok_iff, mapM_ok_iff, Test.ofCondition_ok_iff, Named.names, demands,
    List.forall_mem_map, List.forall_mem_flatMap, forall_and]

theorem Filter.testsOf_ok_iff {filter : Option Filter} :
    (∃ ts, testsOf filter = .ok ts) ↔
      (∀ n ∈ (filter.map Named.names).getD [], Identifier.Valid n) ∧
        ∀ a ∈ filter.elim [] demands, a.Known := by
  cases filter with
  | none => simp [testsOf]
  | some f => exact tests_ok_iff

/-! ## Orders -/

/-- An entry is admitted if it is well-formed and its first word is a valid name. -/
theorem OrderTerm.ofEntry_ok_iff {entry : String} :
    (∃ t, ofEntry entry = .ok t) ↔
      WellFormed entry ∧ ∀ n ∈ (Text.words entry).head?, Identifier.Valid n := by
  constructor
  · rintro ⟨t, h⟩
    obtain ⟨hform, hhead⟩ := ofEntry_ok h
    refine ⟨hform, fun n hn => ?_⟩
    obtain rfl := Option.some.inj (hhead.symm.trans hn)
    exact ⟨t.column.nonempty, t.column.noNul, t.column.fits⟩
  · rintro ⟨⟨field, hwords⟩, hvalid⟩
    obtain ⟨column, hcolumn⟩ : ∃ i, Identifier.ofName field = .ok i := by
      refine Identifier.ofName_of_valid (hvalid field ?_)
      obtain h | ⟨word, h, -⟩ := hwords <;> rw [h] <;> rfl
    unfold ofEntry
    obtain h | ⟨word, h, hword⟩ := hwords
    · rw [h]
      exact ⟨_, bind_eq_ok.2 ⟨column, hcolumn, rfl⟩⟩
    · obtain ⟨direction, hdirection⟩ : ∃ x, Direction.ofWord? (Text.upper word) = some x := by
        rcases hword with h | h <;> rw [h] <;> exact ⟨_, rfl⟩
      rw [h]
      refine ⟨⟨column, some direction⟩, bind_eq_ok.2 ⟨column, hcolumn, ?_⟩⟩
      dsimp only
      rw [hdirection]
      rfl

theorem OrderTerm.ofEntries_ok_iff {entries : Option (List String)} :
    (∃ order, ofEntries entries = .ok order) ↔
      (∀ e ∈ entries.getD [], WellFormed e) ∧
        ∀ n ∈ Service.orderColumns entries, Identifier.Valid n := by
  simp only [ofEntries, mapM_ok_iff, ofEntry_ok_iff, Service.orderColumns, List.mem_filterMap,
    forall_and, forall_exists_index, and_imp, Option.mem_def]
  exact and_congr_right fun _ => ⟨fun h n e he => h e he n, fun h e he n => h n e he⟩

/-! ## Requests -/

theorem Assignments.check_ok_iff {writing : Writing} {row : Row} :
    (∃ a, check writing row = .ok a) ↔
      row.names ≠ [] ∧ ∀ n ∈ row.names, Identifier.Valid n := by
  refine ⟨?_, fun h => check_of_valid writing h.1 h.2⟩
  rintro ⟨a, h⟩
  rw [← columns_check h]
  refine ⟨by simpa using (check_ok h).1, ?_⟩
  rintro n hn
  obtain ⟨c, -, rfl⟩ := List.mem_map.1 hn
  exact ⟨c.1.nonempty, c.1.noNul, c.1.fits⟩

namespace Request

/-- The row that a request carries. -/
def row? : Request → Option Row
  | .insert _ row | .update _ row _ => some row
  | .select _ _ | .delete _ _ => none

/-- The order of a request. -/
def orderBy? : Request → Option (List String)
  | .select _ o => o.orderBy
  | .insert _ _ | .update _ _ _ | .delete _ _ => none

/-- The columns that a request wants to read. -/
def fields : Request → List String
  | .select _ o => o.fields.getD []
  | .insert _ _ | .update _ _ _ | .delete _ _ => []

/-- The table of a request. -/
def table : Request → String
  | .insert table _ | .select table _ | .update table _ _ | .delete table _ => table

/-- The names that a request mentions: its table, and the columns that are set, read, tested and
ordered by. -/
def mentioned (r : Request) : List String :=
  r.table :: r.row?.elim [] Record.names ++ r.fields ++ (r.filter?.map Named.names).getD [] ++
    Service.orderColumns r.orderBy?

/-- What a request needs to be admitted. -/
structure Sound (r : Request) : Prop where
  row : ∀ row ∈ r.row?, row.names ≠ []
  names : ∀ n ∈ r.mentioned, Identifier.Valid n
  operators : ∀ a ∈ r.filter?.elim [] Filter.demands, a.Known
  order : ∀ e ∈ r.orderBy?.getD [], OrderTerm.WellFormed e

/-- What a request needs, part by part in the order of the checks. -/
theorem sound_iff {r : Request} :
    r.Sound ↔ (∀ row ∈ r.row?, row.names ≠ [] ∧ ∀ n ∈ row.names, Identifier.Valid n) ∧
      (∀ n ∈ r.fields, Identifier.Valid n) ∧
      ((∀ n ∈ (r.filter?.map Named.names).getD [], Identifier.Valid n) ∧
        ∀ a ∈ r.filter?.elim [] Filter.demands, a.Known) ∧
      ((∀ e ∈ r.orderBy?.getD [], OrderTerm.WellFormed e) ∧
        ∀ n ∈ Service.orderColumns r.orderBy?, Identifier.Valid n) ∧
      Identifier.Valid r.table := by
  have hrow : (∀ n ∈ r.row?.elim [] Record.names, Identifier.Valid n) ↔
      ∀ row ∈ r.row?, ∀ n ∈ row.names, Identifier.Valid n := by
    cases r.row? <;> simp
  have hnames : (∀ n ∈ r.mentioned, Identifier.Valid n) ↔ Identifier.Valid r.table ∧
      (∀ row ∈ r.row?, ∀ n ∈ row.names, Identifier.Valid n) ∧
      (∀ n ∈ r.fields, Identifier.Valid n) ∧
      (∀ n ∈ (r.filter?.map Named.names).getD [], Identifier.Valid n) ∧
      ∀ n ∈ Service.orderColumns r.orderBy?, Identifier.Valid n := by
    simp only [mentioned, List.cons_append, List.forall_mem_cons, List.forall_mem_append, hrow,
      and_assoc]
  constructor
  · rintro ⟨hnonempty, hmentioned, hoperators, horder⟩
    obtain ⟨htable, hrow, hfields, hfilter, hcolumns⟩ := hnames.1 hmentioned
    exact ⟨fun row h => ⟨hnonempty row h, hrow row h⟩, hfields, ⟨hfilter, hoperators⟩,
      ⟨horder, hcolumns⟩, htable⟩
  · rintro ⟨hrow, hfields, ⟨hfilter, hoperators⟩, ⟨horder, hcolumns⟩, htable⟩
    exact ⟨fun row h => (hrow row h).1,
      hnames.2 ⟨htable, fun row h => (hrow row h).2, hfields, hfilter, hcolumns⟩, hoperators, horder⟩

/-- **A request passes its checks** exactly if it is sound. -/
theorem check_ok_iff {r : Request} : (∃ c, r.check = .ok c) ↔ r.Sound := by
  have named {β : Type} {table : String} (f : Identifier → β) :
      (∃ b, (Identifier.ofName table >>= fun t => (pure (f t) : Except QueryError β)) = .ok b) ↔
        Identifier.Valid table :=
    map_ok_iff.trans Identifier.ofName_ok_iff
  have columns {l : List String} :
      (∃ is, l.mapM Identifier.ofName = .ok is) ↔ ∀ n ∈ l, Identifier.Valid n := by
    simp only [mapM_ok_iff, Identifier.ofName_ok_iff]
  rw [sound_iff]
  cases r with
  | insert table row =>
    refine map_ok_iff.trans ((bind_ok_iff Assignments.check_ok_iff fun _ _ => named _).trans ?_)
    simp [row?, fields, filter?, orderBy?, Service.orderColumns, Request.table]
  | select table o =>
    refine map_ok_iff.trans ((bind_ok_iff columns fun _ _ => bind_ok_iff Filter.testsOf_ok_iff
      fun _ _ => bind_ok_iff OrderTerm.ofEntries_ok_iff fun _ _ => named _).trans ?_)
    simp [row?, fields, filter?, orderBy?, Request.table]
  | update table row filter =>
    refine map_ok_iff.trans ((bind_ok_iff Assignments.check_ok_iff fun _ _ =>
      bind_ok_iff Filter.testsOf_ok_iff fun _ _ => named _).trans ?_)
    simp [row?, fields, filter?, orderBy?, Service.orderColumns, Request.table]
  | delete table filter =>
    refine map_ok_iff.trans ((bind_ok_iff Filter.testsOf_ok_iff fun _ _ => named _).trans ?_)
    simp [row?, fields, filter?, orderBy?, Service.orderColumns, Request.table]

end Request

/-- **The requests that are admitted are the sound ones**, whatever the dialect; and the dialects
agree: all refuse a request for the same cause, or all admit it with the same parameters. -/
theorem acceptance (r : Request) :
    (∀ d, (∃ s, r.statement d = .ok s) ↔ r.Sound) ∧
      ∀ d d', Agree (fun s s' => s.params = s'.params) (r.statement d) (r.statement d') := by
  refine ⟨fun d => map_ok_iff.trans Request.check_ok_iff, fun d d' => ?_⟩
  refine (Agree.refl (R := Eq) (fun _ => rfl) r.check).map ?_
  rintro c _ rfl
  rw [Command.params_statement, Command.params_statement]

end TableService
