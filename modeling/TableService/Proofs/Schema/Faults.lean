/-
  The faults of a document.

  * `Document.Sound` says when a document can be compiled: its tables have distinct names, and every
    one of them has fields that are sound by themselves and ask for distinct columns.
  * `Field.faults` are all faults of a field, in the order in which they are looked for; a field
    without faults is sound and asks for columns that are not there yet (`Field.faults_eq_nil`).
  * `reports_addField`: of these the first is reported.
  * `plans_iff_sound`: a document has plans exactly if it is sound; else the first fault of the first
    field that has one is reported, names of tables that are repeated coming before all fields.
-/
import Mathlib.Data.List.Induction
import Mathlib.Data.List.Nodup
import TableService.Proofs.Schema.Plans
import TableService.Proofs.Text.ByteOrder

namespace TableService

/-! ## Names -/

namespace Identifier

/-- The rules that a name breaks. -/
def faults (name : String) : List Fault :=
  flag (name = "") .empty ++ (flag ('\x00' ∈ name.toList) (.nul name) ++
    flag (128 < name.utf8ByteSize) (.tooLong name))

theorem faults_eq_nil {name : String} : faults name = [] ↔ Valid name := by
  simp [faults, Valid]

theorem reports_check (name : String) : Reports (check name) (faults name) := by
  unfold check faults
  by_cases nonempty : name = ""
  · simp [Reports, flag, nonempty]
  by_cases noNul : '\x00' ∈ name.toList
  · simp [Reports, flag, nonempty, noNul]
  by_cases fits : name.utf8ByteSize ≤ maxIdentifierBytes
  · have : ¬ 128 < name.utf8ByteSize := Nat.not_lt.2 fits
    simp [Reports, flag, nonempty, noNul, fits, this]
  · have : 128 < name.utf8ByteSize := Nat.not_le.1 fits
    simp [Reports, flag, nonempty, noNul, fits, this]

end Identifier

namespace Schema

variable {ctx : Context} {declared : List String} {table : String}

/-- The rules that a name of a plan breaks. -/
def nameFaults (name : String) : List PlanError := (Identifier.faults name).map .identifier

theorem nameFaults_eq_nil {name : String} : nameFaults name = [] ↔ Identifier.Valid name := by
  rw [nameFaults, List.map_eq_nil_iff, Identifier.faults_eq_nil]

theorem reports_planName (name : String) : Reports (planName name) (nameFaults name) :=
  (Identifier.reports_check name).mapError

/-! ## Fields -/

/-- The faults of columns with these names, which come after columns with the names `taken`. -/
def columnFaults (table : String) : List String → List String → List PlanError
  | _, [] => []
  | taken, n :: ns =>
    (nameFaults n ++ flag (n ∈ taken) (.repeatedField table n)) ++
      columnFaults table (taken ++ [n]) ns

/-- The faults of a field, which comes after columns with the names `taken`. -/
def Field.faults (ctx : Context) (declared : List String) (table : String) (taken : List String)
    (f : Field) : List PlanError :=
  flag (f.name = keyName) (.idField table) ++
    match f with
    | .column c =>
      flag (c.localized = true ∧ ctx.localization.isNone = true) (.noLocales table c.name) ++
        columnFaults table taken (f.columnNames ctx)
    | .relation r =>
      (flag (r.target.table ∉ ctx.exempt ∧ r.target.table ∉ declared)
          (.unknownTarget table r.name r.target.table) ++
        (nameFaults r.name ++ (nameFaults r.target.table ++ nameFaults r.target.column))) ++
      flag (r.name ∈ taken) (.repeatedField table r.name)

/-- The field can be compiled, whatever other fields there are. -/
structure Field.Sound (ctx : Context) (declared : List String) (f : Field) : Prop where
  /-- The field is not the key. -/
  notKey : f.name ≠ "id"
  /-- A localized column has locales. -/
  located : ∀ c, f = .column c → c.localized = true → ctx.localization.isSome
  /-- A relation has a target that is exempt or declared. -/
  known : ∀ r, f = .relation r → r.target.table ∈ ctx.exempt ∨ r.target.table ∈ declared
  names : ∀ n ∈ f.columnNames ctx, Identifier.Valid n
  target : ∀ r, f = .relation r →
    Identifier.Valid r.target.table ∧ Identifier.Valid r.target.column

/-- The table can be compiled. -/
structure Table.Sound (ctx : Context) (declared : List String) (t : Table) : Prop where
  fields : ∀ f ∈ t.fields, f.Sound ctx declared
  /-- The names of the columns are distinct. -/
  distinct : (t.fields.flatMap (·.columnNames ctx)).Nodup

/-- The document can be compiled. -/
structure Document.Sound (ctx : Context) (doc : Document) : Prop where
  distinct : doc.names.Nodup
  tables : ∀ t ∈ doc.tables, t.Sound ctx doc.names

theorem columnFaults_eq_nil : ∀ {ns taken : List String}, taken.Nodup →
    (columnFaults table taken ns = [] ↔
      (∀ n ∈ ns, Identifier.Valid n) ∧ (taken ++ ns).Nodup)
  | [], taken, h => by simp [columnFaults, h]
  | n :: ns, taken, h => by
    rw [columnFaults, List.append_eq_nil_iff, List.append_eq_nil_iff, nameFaults_eq_nil,
      flag_eq_nil, List.forall_mem_cons]
    by_cases hn : n ∈ taken
    · simp [hn, List.nodup_middle]
    · have h' : (taken ++ [n]).Nodup := List.nodup_middle.2 (by simpa [h] using hn)
      rw [columnFaults_eq_nil h', List.append_assoc, List.singleton_append, and_assoc]
      tauto

theorem Field.sound_column_iff {c : Column} : Field.Sound ctx declared (.column c) ↔
    c.name ≠ keyName ∧ ¬ (c.localized = true ∧ ctx.localization.isNone = true) ∧
      ∀ n ∈ Field.columnNames ctx (.column c), Identifier.Valid n := by
  have hlocated : (c.localized = true → ctx.localization.isSome = true) ↔
      ¬ (c.localized = true ∧ ctx.localization.isNone = true) := by
    rw [not_and, Option.isNone_iff_eq_none, Option.isSome_iff_ne_none]
  rw [← hlocated]
  constructor
  · intro h
    exact ⟨h.notKey, h.located c rfl, h.names⟩
  · intro h
    refine ⟨h.1, fun d hd => ?_, fun r hr => Field.noConfusion hr, h.2.2,
      fun r hr => Field.noConfusion hr⟩
    rw [← Field.column.inj hd]
    exact h.2.1

theorem Field.sound_relation_iff {r : Relation} : Field.Sound ctx declared (.relation r) ↔
    r.name ≠ keyName ∧ ¬ (r.target.table ∉ ctx.exempt ∧ r.target.table ∉ declared) ∧
      Identifier.Valid r.name ∧ Identifier.Valid r.target.table ∧
        Identifier.Valid r.target.column := by
  have hknown : r.target.table ∈ ctx.exempt ∨ r.target.table ∈ declared ↔
      ¬ (r.target.table ∉ ctx.exempt ∧ r.target.table ∉ declared) := by
    rw [not_and_or, not_not, not_not]
  rw [← hknown]
  constructor
  · intro h
    exact ⟨h.notKey, h.known r rfl, h.names _ List.mem_cons_self, h.target r rfl⟩
  · intro h
    refine ⟨h.1, fun c hc => Field.noConfusion hc, fun d hd => ?_, fun n hn => ?_,
      fun d hd => ?_⟩
    · rw [← Field.relation.inj hd]
      exact h.2.1
    · rw [List.mem_singleton.1 hn]
      exact h.2.2.1
    · rw [← Field.relation.inj hd]
      exact h.2.2.2

/-- **A field without faults is sound**, and asks for columns that are not there yet. -/
theorem Field.faults_eq_nil {taken : List String} (h : taken.Nodup) (f : Field) :
    f.faults ctx declared table taken = [] ↔
      f.Sound ctx declared ∧ (taken ++ f.columnNames ctx).Nodup := by
  cases f with
  | column c =>
    rw [Field.sound_column_iff]
    simp only [faults, List.append_eq_nil_iff, flag_eq_nil, columnFaults_eq_nil h, and_assoc]
    rfl
  | relation r =>
    have hnew : (taken ++ Field.columnNames ctx (.relation r)).Nodup ↔ r.name ∉ taken := by
      rw [columnNames, List.nodup_middle, List.append_nil, List.nodup_cons, and_iff_left h]
    rw [Field.sound_relation_iff, hnew]
    simp only [faults, List.append_eq_nil_iff, flag_eq_nil, nameFaults_eq_nil, and_assoc]
    rfl

/-! ## Reports -/

theorem reports_addColumn {columns : List PhysicalColumn} {c : PhysicalColumn}
    (h : c.name.name ≠ keyName) : Reports (addColumn table columns c)
      (flag (c.name.name ∈ names columns) (.repeatedField table c.name.name)) := by
  have hany : columns.any (·.name.name = c.name.name) = true ↔ c.name.name ∈ names columns := by
    simp [names]
  unfold addColumn flag
  by_cases hc : c.name.name ∈ names columns
  · rw [if_pos (.inr (hany.2 hc)), if_pos hc]
    rfl
  · rw [if_neg (by simp [h, hany, hc]), if_neg hc]
    rfl

/-- No column is called as the key, unless its field is. -/
theorem key_not_mem_columnNames {f : Field} (h : f.name ≠ keyName) :
    keyName ∉ f.columnNames ctx := by
  cases f with
  | column c =>
    rw [Field.columnNames]
    split_ifs
    · cases ctx.localization with
      | none => simp
      | some l =>
        -- the name of a column for a locale has an underscore
        simp only [Option.map_some, Option.getD_some, Localization.columnNames, List.mem_map]
        rintro ⟨locale, -, hl⟩
        have : '_' ∈ keyName.toList := by rw [← hl]; simp
        revert this
        decide
    · exact fun hc => h (List.mem_singleton.1 hc).symm
  | relation r => exact fun hc => h (List.mem_singleton.1 hc).symm

theorem names_concat (columns : List PhysicalColumn) (c : PhysicalColumn) :
    names (columns ++ [c]) = names columns ++ [c.name.name] := List.map_append

theorem reports_columnNames (c : Column) : Reports (columnNames ctx table c)
    (flag (c.localized = true ∧ ctx.localization.isNone = true) (.noLocales table c.name)) := by
  unfold columnNames flag
  by_cases hl : c.localized = true
  · cases h : ctx.localization <;> simp [hl, Reports]
  · simp [hl, Reports]

theorem reports_reference (r : Relation) : Reports (reference ctx declared table r)
    (flag (r.target.table ∉ ctx.exempt ∧ r.target.table ∉ declared)
        (.unknownTarget table r.name r.target.table) ++
      (nameFaults r.name ++ (nameFaults r.target.table ++ nameFaults r.target.column))) := by
  have hnames : Reports (do
      let name ← planName r.name
      let target ← planName r.target.table
      let column ← planName r.target.column
      return (⟨name, r.type, r.required, r.target.oneToOne,
        some ⟨target, column, r.target.onDelete, r.target.onUpdate⟩⟩ : PhysicalColumn))
      (nameFaults r.name ++ (nameFaults r.target.table ++ nameFaults r.target.column)) := by
    rw [← List.append_nil (nameFaults r.target.column)]
    exact .bind (reports_planName _) fun _ _ => .bind (reports_planName _) fun _ _ =>
      .bind (reports_planName _) fun _ _ => rfl
  unfold reference flag
  by_cases h : r.target.table ∉ ctx.exempt ∧ r.target.table ∉ declared
  · rw [if_pos (by simpa using h), if_pos h]
    rfl
  · rw [if_neg (by simpa using h), if_neg h]
    exact hnames

/-- Columns without a reference are added one by one, each reporting its faults. -/
theorem reports_columns (c : Column) : ∀ (ns : List String) (columns : List PhysicalColumn),
    keyName ∉ ns → Reports (ns.foldlM (fun columns name => do
        addColumn table columns ⟨← planName name, c.type, c.required, c.unique, none⟩) columns)
      (columnFaults table (names columns) ns)
  | [], _, _ => rfl
  | n :: ns, columns, h => by
    rw [List.mem_cons, not_or] at h
    rw [List.foldlM_cons, columnFaults]
    refine .bind (.bind (reports_planName n) fun i hi => ?_) fun columns' hc => ?_
    · rw [← name_of_planName hi] at h ⊢
      exact reports_addColumn (Ne.symm h.1)
    · obtain ⟨i, hi, hc⟩ := bind_eq_ok.1 hc
      have hnames : names columns' = names columns ++ [n] := by
        rw [addColumn_ok hc, names_concat, name_of_planName hi]
      rw [← hnames]
      exact reports_columns c ns columns' h.2

/-- **The first fault of a field is reported.** -/
theorem reports_addField (columns : List PhysicalColumn) (f : Field) :
    Reports (addField ctx declared table columns f)
      (f.faults ctx declared table (names columns)) := by
  unfold addField Field.faults
  refine .ite (fun _ => rfl) fun hkey => ?_
  have hkey : keyName ∉ f.columnNames ctx := key_not_mem_columnNames hkey
  cases f with
  | column c =>
    refine .bind (reports_columnNames c) fun ns hns => ?_
    rw [columnNames_ok hns]
    exact reports_columns c _ columns hkey
  | relation r =>
    refine .bind (reports_reference r) fun c hc => ?_
    have hname : c.name.name = r.name := (reference_ok hc).1.name
    rw [← hname]
    refine reports_addColumn fun h => hkey ?_
    rw [← h, hname]
    exact List.mem_singleton_self _

/-! ## Tables -/

/-- The columns of fields have the names that these ask for. -/
theorem names_fields {fs : List Field} {columns : List PhysicalColumn}
    (h : fs.foldlM (addField ctx declared table) [] = .ok columns) :
    names columns = fs.flatMap (·.columnNames ctx) := by
  obtain ⟨cs, rfl, hcs⟩ := foldlM_appends _ addField_columns h
  rw [← names_fieldColumns, fieldColumns]
  exact names_of_realizes hcs

/-- One more field keeps a table sound if it is sound and asks for new and distinct columns. -/
theorem Table.sound_concat {fs : List Field} {f : Field} :
    Table.Sound ctx declared ⟨table, fs ++ [f]⟩ ↔ Table.Sound ctx declared ⟨table, fs⟩ ∧
      f.Sound ctx declared ∧
        (fs.flatMap (·.columnNames ctx) ++ f.columnNames ctx).Nodup := by
  have hsplit : (fs ++ [f]).flatMap (·.columnNames ctx) =
      fs.flatMap (·.columnNames ctx) ++ f.columnNames ctx := by
    rw [List.flatMap_append, List.flatMap_singleton]
  constructor
  · rintro ⟨hfields, hdistinct⟩
    rw [hsplit] at hdistinct
    exact ⟨⟨fun g hg => hfields g (List.mem_append_left _ hg), hdistinct.of_append_left⟩,
      hfields f (by simp), hdistinct⟩
  · rintro ⟨⟨hfields, -⟩, hf, hdistinct⟩
    refine ⟨fun g hg => ?_, hsplit ▸ hdistinct⟩
    rcases List.mem_append.1 hg with hg | hg
    · exact hfields g hg
    · exact List.mem_singleton.1 hg ▸ hf

theorem addField_ok_iff (table : String) {columns : List PhysicalColumn} (f : Field)
    (h : (names columns).Nodup) :
    (∃ columns', addField ctx declared table columns f = .ok columns') ↔
      f.Sound ctx declared ∧ (names columns ++ f.columnNames ctx).Nodup := by
  rw [(reports_addField columns f).ok_iff, Field.faults_eq_nil h]

theorem fields_ok_iff {fs : List Field} :
    (∃ columns, fs.foldlM (addField ctx declared table) [] = .ok columns) ↔
      Table.Sound ctx declared ⟨table, fs⟩ := by
  induction fs using List.reverseRecOn with
  | nil => exact ⟨fun _ => ⟨nofun, .nil⟩, fun _ => ⟨[], rfl⟩⟩
  | append_singleton fs f ih =>
    rw [Table.sound_concat, ← ih]
    constructor
    · rintro ⟨columns', h⟩
      rw [List.foldlM_append] at h
      obtain ⟨columns, hc, h⟩ := bind_eq_ok.1 h
      have hnodup : (names columns).Nodup := names_fields hc ▸ (ih.1 ⟨columns, hc⟩).distinct
      rw [← names_fields hc, ← addField_ok_iff table f hnodup]
      exact ⟨⟨columns, hc⟩, columns', by simpa using h⟩
    · rintro ⟨⟨columns, hc⟩, hf⟩
      have hnodup : (names columns).Nodup := names_fields hc ▸ (ih.1 ⟨columns, hc⟩).distinct
      rw [← names_fields hc, ← addField_ok_iff table f hnodup] at hf
      obtain ⟨columns', hf⟩ := hf
      refine ⟨columns', ?_⟩
      rw [List.foldlM_append]
      exact bind_eq_ok.2 ⟨columns, hc, by simpa using hf⟩

/-- **A table has a plan exactly if it is sound.** -/
theorem planTable_ok_iff {t : Table} :
    (∃ p, planTable ctx declared t = .ok p) ↔ t.Sound ctx declared := by
  rw [← fields_ok_iff]
  constructor
  · rintro ⟨p, h⟩
    exact ⟨p.columns, (planTable_ok h).2.2⟩
  · rintro ⟨columns, h⟩
    exact ⟨_, bind_eq_ok.2 ⟨columns, h, rfl⟩⟩

/-- **Else the first fault of the first field that has one is reported.** -/
theorem planTable_eq_error {t : Table} {e : PlanError} :
    planTable ctx declared t = .error e ↔ ∃ before f after, t.fields = before ++ f :: after ∧
      Table.Sound ctx declared ⟨t.name, before⟩ ∧
      (f.faults ctx declared t.name (before.flatMap (·.columnNames ctx))).head? = some e := by
  have herror : planTable ctx declared t = .error e ↔
      t.fields.foldlM (addField ctx declared t.name) [] = .error e := by
    rw [planTable, bind_eq_error]
    simp [pure, Except.pure]
  rw [herror, foldlM_eq_error]
  constructor
  · rintro ⟨before, f, after, columns, hsplit, hbefore, hf⟩
    rw [(reports_addField columns f).error_iff, names_fields hbefore] at hf
    exact ⟨before, f, after, hsplit, fields_ok_iff.1 ⟨columns, hbefore⟩, hf⟩
  · rintro ⟨before, f, after, hsplit, hbefore, hf⟩
    obtain ⟨columns, hbefore⟩ := fields_ok_iff.2 hbefore
    rw [← names_fields hbefore, ← (reports_addField columns f).error_iff] at hf
    exact ⟨before, f, after, columns, hsplit, hbefore, hf⟩

/-! ## Documents -/

/-- The fault of a document that is reported. -/
inductive Document.FirstFault (ctx : Context) (doc : Document) : PlanError → Prop
  /-- The names that several tables have, in the order of their bytes. -/
  | repeated {ns : List String} : ns ≠ [] → ns.Pairwise (fun s t => Text.utf8 s < Text.utf8 t) →
      (∀ n, n ∈ ns ↔ 1 < doc.names.count n) → FirstFault ctx doc (.repeatedTables ns)
  /-- The first fault of a field before which there is none. -/
  | field {before t after fs f gs e} : doc.names.Nodup →
      doc.tables = before ++ t :: after → t.fields = fs ++ f :: gs →
      (∀ u ∈ before, u.Sound ctx doc.names) → Table.Sound ctx doc.names ⟨t.name, fs⟩ →
      (f.faults ctx doc.names t.name (fs.flatMap (·.columnNames ctx))).head? = some e →
      FirstFault ctx doc e

theorem mem_repeated {names : List String} {n : String} :
    n ∈ repeated names ↔ 1 < names.count n := by
  rw [repeated, mem_ascending, List.mem_filter, decide_eq_true_eq]
  exact ⟨And.right, fun h => ⟨List.count_pos_iff.1 (by omega), h⟩⟩

theorem pairwise_repeated (names : List String) :
    (repeated names).Pairwise fun s t => Text.utf8 s < Text.utf8 t :=
  (pairwise_ascending _).imp Text.utf8_lt

/-- A list in the order of bytes is known by its elements. -/
theorem eq_of_pairwise_utf8 {l m : List String}
    (hl : l.Pairwise fun s t => Text.utf8 s < Text.utf8 t)
    (hm : m.Pairwise fun s t => Text.utf8 s < Text.utf8 t) (h : ∀ n, n ∈ l ↔ n ∈ m) : l = m := by
  have hne : ∀ {k : List String}, k.Pairwise (fun s t => Text.utf8 s < Text.utf8 t) → k.Nodup :=
    fun hk => hk.imp fun {s t} hst => by
      rintro rfl
      exact List.lt_irrefl _ hst
  refine List.Perm.eq_of_pairwise (fun a b _ _ hab hba => ?_) hl hm
    ((List.perm_ext_iff_of_nodup (hne hl) (hne hm)).2 h)
  exact absurd (List.lt_trans hab hba) (List.lt_irrefl _)

section
variable {doc : Document}

theorem Document.plans_of_distinct (h : doc.names.Nodup) :
    doc.plans ctx = doc.tables.mapM (planTable ctx doc.names) := by
  have h : repeated (doc.tables.map Table.name) = [] := repeated_eq_nil.2 h
  rw [Document.plans, h]
  rfl

theorem Document.plans_of_repeated (h : ¬ doc.names.Nodup) :
    doc.plans ctx = .error (.repeatedTables (repeated doc.names)) := by
  obtain ⟨n, ns, hns⟩ := List.exists_cons_of_ne_nil fun hnil => h (repeated_eq_nil.1 hnil)
  rw [Document.names] at hns
  rw [Document.plans, Document.names, hns]

theorem plan_tables_ok_iff {tables : List Table} :
    (∃ plans, tables.mapM (planTable ctx declared) = .ok plans) ↔
      ∀ t ∈ tables, t.Sound ctx declared := by
  simp only [mapM_ok_iff, planTable_ok_iff]

theorem Document.exists_plans_iff : (∃ plans, doc.plans ctx = .ok plans) ↔ doc.Sound ctx := by
  by_cases hd : doc.names.Nodup
  · rw [plans_of_distinct hd, plan_tables_ok_iff]
    exact ⟨fun h => ⟨hd, h⟩, fun h => h.tables⟩
  · rw [plans_of_repeated hd]
    exact ⟨nofun, fun h => absurd h.distinct hd⟩

theorem Document.plans_eq_error {e : PlanError} :
    doc.plans ctx = .error e ↔ doc.FirstFault ctx e := by
  by_cases hd : doc.names.Nodup
  · rw [plans_of_distinct hd, mapM_eq_error]
    constructor
    · rintro ⟨before, t, after, hsplit, hbefore, ht⟩
      obtain ⟨fs, f, gs, hfields, hfs, hf⟩ := planTable_eq_error.1 ht
      exact .field hd hsplit hfields (plan_tables_ok_iff.1 hbefore) hfs hf
    · rintro (⟨hne, -, hmem⟩ | ⟨-, hsplit, hfields, hbefore, hfs, hf⟩)
      · obtain ⟨n, hn⟩ := List.exists_mem_of_ne_nil _ hne
        exact absurd ((hmem n).1 hn) (Nat.not_lt.2 (List.nodup_iff_count_le_one.1 hd n))
      · exact ⟨_, _, _, hsplit, plan_tables_ok_iff.2 hbefore,
          planTable_eq_error.2 ⟨_, _, _, hfields, hfs, hf⟩⟩
  · rw [plans_of_repeated hd]
    constructor
    · rintro ⟨⟩
      exact .repeated (fun h => hd (repeated_eq_nil.1 h)) (pairwise_repeated _) fun n => mem_repeated
    · rintro (⟨-, hsorted, hmem⟩ | ⟨hd', -⟩)
      · rw [eq_of_pairwise_utf8 (pairwise_repeated doc.names) hsorted
          fun n => mem_repeated.trans (hmem n).symm]
      · exact absurd hd' hd

end

/-- **A document has plans exactly if it is sound**; else its first fault is reported. -/
theorem plans_iff_sound (ctx : Context) (doc : Document) :
    ((∃ plans, doc.plans ctx = .ok plans) ↔ doc.Sound ctx) ∧
      ∀ e, doc.plans ctx = .error e ↔ doc.FirstFault ctx e :=
  ⟨Document.exists_plans_iff, fun _ => Document.plans_eq_error⟩

end Schema

end TableService
