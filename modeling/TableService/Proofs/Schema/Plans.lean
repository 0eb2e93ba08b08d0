/-
  What the plans of a document say of its tables.

  * `Document.plans_eq_ok`: a document has plans when its tables have distinct names and every one
    of them can be planned; there is one plan for each table, in order.
  * `planTable_columns`: the columns of a plan realize those of the fields of its table, in order,
    where a localized field has one for each locale.
  * `planTable_targets`: the columns of a plan refer to the targets of the relations of the table,
    in order; `planTable_known`: each of these is exempt or declared.
  * `mem_dependencies`: a plan depends on the targets that are not exempt.
-/
import TableService.Schema.Plan
import TableService.Proofs.Results

namespace TableService

namespace Schema

theorem mem_ascending {t : String} {texts : List String} : t ∈ ascending texts ↔ t ∈ texts := by
  simp [ascending, Record.mem_names_ofList, Function.comp_def]

theorem pairwise_ascending (texts : List String) : (ascending texts).Pairwise (· < ·) :=
  List.pairwise_map.2 (Record.ofList _).ascending

theorem name_of_planName {name : String} {i : Identifier} (h : planName name = .ok i) :
    i.name = name :=
  Identifier.name_of_check (mapError_eq_ok.1 h)

/-! ## Fields -/

namespace Field

/-- The declared type of a field. -/
def type : Field → String
  | .column c => c.type
  | .relation r => r.type

/-- The field has a value in every row. -/
def required : Field → Bool
  | .column c => c.required
  | .relation r => r.required

/-- No value of the field is that of two rows. -/
def unique : Field → Bool
  | .column c => c.unique
  | .relation r => r.target.oneToOne

/-- What a field refers to. -/
def refersTo? : Field → Option Target
  | .column _ => none
  | .relation r => some r.target

/-- The names of the columns that a field is to have. -/
def columnNames (ctx : Context) : Field → List String
  | .column c =>
    if c.localized then (ctx.localization.map (·.columnNames c.name)).getD [] else [c.name]
  | .relation r => [r.name]

/-- The columns that a field is to have, each with its field. -/
def columns (ctx : Context) (f : Field) : List (Field × String) := (f.columnNames ctx).map (f, ·)

end Field

/-- The columns that fields are to have, in order. -/
def fieldColumns (ctx : Context) (fields : List Field) : List (Field × String) :=
  fields.flatMap (·.columns ctx)

theorem names_fieldColumns (ctx : Context) (fields : List Field) :
    (fieldColumns ctx fields).map Prod.snd = fields.flatMap (·.columnNames ctx) := by
  simp [fieldColumns, Field.columns, List.map_flatMap, Function.comp_def]

/-- What only relations have is found once for each of them, under its own name. -/
theorem filterMap_fieldColumns {α : Type} {g : Field → String → Option α}
    (hg : ∀ c n, g (.column c) n = none) (ctx : Context) (fields : List Field) :
    (fieldColumns ctx fields).filterMap (fun x => g x.1 x.2) =
      fields.filterMap fun f => g f f.name := by
  rw [fieldColumns, List.filterMap_flatMap, List.filterMap_eq_flatMap_toList]
  refine congrArg (List.flatMap · fields) (funext fun f => ?_)
  cases f with
  | column c => simp [Field.columns, hg]
  | relation r => rfl

/-- The reference is to the target, by the names of that. -/
structure Reference.Meets (r : Reference) (t : Target) : Prop where
  table : r.table.name = t.table
  column : r.column.name = t.column
  onDelete : r.onDelete = t.onDelete
  onUpdate : r.onUpdate = t.onUpdate

/-- The column is what a field asks for under a name. -/
structure Realizes (x : Field × String) (c : PhysicalColumn) : Prop where
  name : c.name.name = x.2
  type : c.type = x.1.type
  required : c.required = x.1.required
  unique : c.unique = x.1.unique
  reference : Option.Rel Reference.Meets c.reference x.1.refersTo?

/-- The names of columns. -/
def names (columns : List PhysicalColumn) : List String := columns.map (·.name.name)

theorem names_of_realizes {xs : List (Field × String)} {cs : List PhysicalColumn}
    (h : List.Forall₂ Realizes xs cs) : names cs = xs.map Prod.snd :=
  forall₂_map_eq h fun hc => hc.name

/-- The table that a field refers to. -/
def Field.target? : Field → Option String
  | .relation r => some r.target.table
  | .column _ => none

/-- The tables that columns refer to. -/
def targets (columns : List PhysicalColumn) : List String :=
  columns.filterMap fun c => c.reference.map (·.table.name)

theorem Realizes.target {x : Field × String} {c : PhysicalColumn} (h : Realizes x c) :
    c.reference.map (·.table.name) = x.1.target? := by
  obtain ⟨f, n⟩ := x
  have hr := h.reference
  generalize c.reference = ref at hr ⊢
  cases f with
  | column => cases hr; rfl
  | relation r =>
    cases hr with
    | some hm => exact congrArg some hm.table

theorem addColumn_ok {table : String} {columns columns' : List PhysicalColumn} {c : PhysicalColumn}
    (h : addColumn table columns c = .ok columns') : columns' = columns ++ [c] := by
  unfold addColumn at h
  split_ifs at h
  cases h
  rfl

section
variable {ctx : Context} {declared : List String} {table : String}

theorem columnNames_ok {c : Column} {ns : List String} (h : columnNames ctx table c = .ok ns) :
    ns = (Field.column c).columnNames ctx := by
  unfold columnNames at h
  rw [Field.columnNames]
  split_ifs at h ⊢
  · cases hl : ctx.localization <;> rw [hl] at h <;> cases h
    rfl
  · cases h
    rfl

/-- The column of a relation is what it asks for, and its target is exempt or declared. -/
theorem reference_ok {r : Relation} {c : PhysicalColumn}
    (h : reference ctx declared table r = .ok c) :
    Realizes (.relation r, r.name) c ∧ (r.target.table ∈ ctx.exempt ∨ r.target.table ∈ declared) := by
  unfold reference at h
  split_ifs at h with known
  · cases h
  · obtain ⟨name, hn, h⟩ := bind_eq_ok.1 h
    obtain ⟨target, ht, h⟩ := bind_eq_ok.1 h
    obtain ⟨column, hc, h⟩ := bind_eq_ok.1 h
    cases h
    refine ⟨⟨name_of_planName hn, rfl, rfl, rfl, .some ?_⟩, ?_⟩
    · exact ⟨name_of_planName ht, name_of_planName hc, rfl, rfl⟩
    · by_contra hc
      exact known (by simpa [not_or] using hc)

/-- **A field adds the columns that it is to have.** -/
theorem addField_columns (columns : List PhysicalColumn) (f : Field)
    (columns' : List PhysicalColumn) (h : addField ctx declared table columns f = .ok columns') :
    ∃ cs, columns' = columns ++ cs ∧ List.Forall₂ Realizes (f.columns ctx) cs := by
  unfold addField at h
  split_ifs at h
  · cases h
  cases f with
  | column c =>
    obtain ⟨ns, hns, h⟩ := bind_eq_ok.1 h
    rw [Field.columns, ← columnNames_ok hns, List.map_eq_flatMap]
    refine foldlM_appends _ (fun cs n cs' hs => ?_) h
    obtain ⟨i, hi, hs⟩ := bind_eq_ok.1 hs
    exact ⟨_, addColumn_ok hs, .cons ⟨name_of_planName hi, rfl, rfl, rfl, .none⟩ .nil⟩
  | relation r =>
    obtain ⟨c, hc, h⟩ := bind_eq_ok.1 h
    exact ⟨[c], addColumn_ok h, .cons (reference_ok hc).1 .nil⟩

theorem addField_known {columns columns' : List PhysicalColumn} {r : Relation}
    (h : addField ctx declared table columns (.relation r) = .ok columns') :
    r.target.table ∈ ctx.exempt ∨ r.target.table ∈ declared := by
  unfold addField at h
  split_ifs at h
  · cases h
  obtain ⟨c, hc, -⟩ := bind_eq_ok.1 h
  exact (reference_ok hc).2

end

/-! ## Tables -/

section
variable {ctx : Context} {declared : List String} {t : Table} {p : Plan}

theorem planTable_ok (h : planTable ctx declared t = .ok p) :
    p.name = t.name ∧ p.dependencies = ascending (t.fields.filterMap (dependency? ctx)) ∧
      t.fields.foldlM (addField ctx declared t.name) [] = .ok p.columns := by
  obtain ⟨columns, hc, h⟩ := bind_eq_ok.1 h
  cases h
  exact ⟨rfl, rfl, hc⟩

/-- **The columns of a plan are those that the fields ask for**, in order. -/
theorem planTable_columns (h : planTable ctx declared t = .ok p) :
    List.Forall₂ Realizes (fieldColumns ctx t.fields) p.columns := by
  obtain ⟨cs, hcs, hall⟩ := foldlM_appends _ addField_columns (planTable_ok h).2.2
  rw [hcs, List.nil_append]
  exact hall

/-- **The columns of a plan refer to the targets of the relations**, in order. -/
theorem planTable_targets (h : planTable ctx declared t = .ok p) :
    targets p.columns = t.fields.filterMap Field.target? := by
  have hfields : (fieldColumns ctx t.fields).filterMap (fun x => x.1.target?) =
      t.fields.filterMap Field.target? :=
    filterMap_fieldColumns (g := fun f _ => f.target?) (fun _ _ => rfl) ctx t.fields
  rw [← hfields]
  exact forall₂_filterMap_eq (planTable_columns h) fun hc => hc.target

theorem planTable_known (h : planTable ctx declared t = .ok p) {r : Relation}
    (hr : .relation r ∈ t.fields) : r.target.table ∈ ctx.exempt ∨ r.target.table ∈ declared := by
  obtain ⟨columns, columns', hf⟩ := foldlM_admits (planTable_ok h).2.2 _ hr
  exact addField_known hf

/-- **A plan depends on the targets of its relations that are to be created.** -/
theorem mem_dependencies (h : planTable ctx declared t = .ok p) {b : String} :
    b ∈ p.dependencies ↔
      ∃ r, Field.relation r ∈ t.fields ∧ r.target.table = b ∧ b ∉ ctx.exempt := by
  rw [(planTable_ok h).2.1, mem_ascending, List.mem_filterMap]
  constructor
  · rintro ⟨f, hf, hb⟩
    cases f with
    | column c => cases hb
    | relation r =>
      simp only [dependency?] at hb
      split_ifs at hb with he
      cases hb
      exact ⟨r, hf, rfl, by simpa using he⟩
  · rintro ⟨r, hr, rfl, hb⟩
    exact ⟨.relation r, hr, by simp [dependency?, hb]⟩

end

/-! ## Documents -/

/-- The names of the tables of a document. -/
def Document.names (doc : Document) : List String := doc.tables.map Table.name

theorem repeated_eq_nil {names : List String} : repeated names = [] ↔ names.Nodup := by
  rw [List.eq_nil_iff_forall_not_mem, List.nodup_iff_count]
  simp only [repeated, mem_ascending, List.mem_filter, decide_eq_true_eq, not_and,
    Nat.not_lt]
  refine ⟨fun h n => ?_, fun h n _ => h n⟩
  by_cases hn : n ∈ names
  · exact h n hn
  · simp [List.count_eq_zero_of_not_mem hn]

/-- **A document has plans** when its tables have distinct names and each of them has a plan. -/
theorem Document.plans_eq_ok {ctx : Context} {doc : Document} {plans : List Plan} :
    doc.plans ctx = .ok plans ↔ doc.names.Nodup ∧
      List.Forall₂ (fun t p => planTable ctx doc.names t = .ok p) doc.tables plans := by
  rw [← repeated_eq_nil, ← mapM_eq_ok, names, Document.plans]
  cases repeated (doc.tables.map Table.name) <;> simp

theorem Document.names_plans {ctx : Context} {doc : Document} {plans : List Plan}
    (h : doc.plans ctx = .ok plans) : plans.map Plan.name = doc.names := by
  have hp := (plans_eq_ok.1 h).2
  rw [names]
  clear h
  generalize doc.names = declared, doc.tables = tables at hp
  induction hp with
  | nil => rfl
  | cons ht _ ih => rw [List.map_cons, List.map_cons, ih, (planTable_ok ht).1]

/-! ## A shop -/

/-- Orders of items by users, of whom there is a table already. -/
def shop : Document := ⟨[
  ⟨"orders", [.relation ⟨"buyer", "int", true, ⟨"users", "id", false, none, none⟩⟩,
    .relation ⟨"item", "int", true, ⟨"items", "id", false, none, none⟩⟩]⟩,
  ⟨"items", [.column ⟨"name", "string", true, true, false⟩]⟩]⟩

/-- The context of the shop. -/
def shopContext : Context := ⟨["users"], none⟩

/-- The plan of the orders. -/
def shopOrders : Plan := ⟨"orders", [
  ⟨⟨"buyer", by decide, by decide, by decide⟩, "int", true, false,
    some ⟨⟨"users", by decide, by decide, by decide⟩, .id, none, none⟩⟩,
  ⟨⟨"item", by decide, by decide, by decide⟩, "int", true, false,
    some ⟨⟨"items", by decide, by decide, by decide⟩, .id, none, none⟩⟩], ["items"]⟩

/-- The plan of the items. -/
def shopItems : Plan := ⟨"items", [
  ⟨⟨"name", by decide, by decide, by decide⟩, "string", true, true, none⟩], []⟩

theorem shop_plans : shop.plans shopContext = .ok [shopOrders, shopItems] := by decide +kernel

end Schema

end TableService
