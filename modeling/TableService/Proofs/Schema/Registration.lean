/-
  The registry that a start results in.

  * `get?_extend`: after an extension by distinct tables these are registered, and the others as
    before; `get?_register`: plans are registered under their names.
  * `start_ok`: a start that succeeds has created all plans of its document and registers them.
  * `keyed_start`: every registered table shows its key.
  * `Filled`: a registry that documents have filled; every table in it is described by the plan of a
    table that was declared (`Filled.described`), and shows its key (`Filled.keyed`).
-/
import TableService.Proofs.Schema.Agreement
import TableService.Proofs.Schema.Start
import TableService.Proofs.Service.Command

namespace TableService

/-- After an extension by distinct tables these are registered, and the others as before. -/
theorem Registry.get?_extend {l : List (String × TableDescription)} {r : Registry} {name : String}
    {t : TableDescription} (h : (l.map Prod.fst).Nodup) :
    (r.extend l).get? name = some t ↔
      (name, t) ∈ l ∨ name ∉ l.map Prod.fst ∧ r.get? name = some t := by
  induction l generalizing r with
  | nil => simp [extend]
  | cons x l ih =>
    obtain ⟨n, d⟩ := x
    obtain ⟨hn, hl⟩ := List.nodup_cons.1 h
    have hextend : r.extend ((n, d) :: l) = extend (r.insert n d) l := rfl
    rw [hextend, ih hl, Record.get?_insert, List.mem_cons, List.map_cons, List.mem_cons, not_or]
    by_cases hname : name = n
    · subst hname
      have hmem : (name, t) ∉ l := fun ht => hn (List.mem_map.2 ⟨(name, t), ht, rfl⟩)
      simp only [hmem, hn, if_true, Prod.mk.injEq, true_and]
      constructor
      · rintro (ht | ⟨-, ht⟩)
        · exact ht.elim
        · exact .inl (.inl (Option.some.inj ht).symm)
      · rintro ((rfl | ht) | ⟨ht, -⟩)
        · exact .inr ⟨not_false, rfl⟩
        · exact ht.elim
        · exact absurd trivial ht.1
    · simp only [hname, if_false, Prod.mk.injEq, false_and, false_or, not_false_eq_true, true_and]

namespace Schema

variable {σ : Type} {ctx : Context} {doc : Document} {plans : List Plan}

/-- Plans are registered under their names. -/
theorem get?_register (h : (plans.map Plan.name).Nodup) (d : Dialect) {name : String}
    {t : TableDescription} :
    (register d plans .empty).get? name = some t ↔
      ∃ p ∈ plans, p.name = name ∧ p.description d = t := by
  have hnames : (plans.map fun p => (p.name, p.description d)).map Prod.fst =
      plans.map Plan.name := by
    rw [List.map_map]
    rfl
  have hempty : (Record.empty : Registry).get? name ≠ some t := nofun
  rw [register, Registry.get?_extend (hnames ▸ h)]
  simp [hempty]

/-- **A start that succeeds** has found the exempt tables and created all plans of its document, and
registers these. -/
theorem start_ok {db : Database σ} {w w' : Logged σ} {registry : Registry}
    (h : (start db ctx doc).outcome w = (.ok registry, w')) :
    ∃ plans order w₁ w₂, doc.plans ctx = .ok plans ∧ Emission [] plans order [] ∧
      (requireTables db (ascending ctx.exempt)).outcome w = (.ok (), w₁) ∧
      (createEach db order).outcome w₁ = (.ok (), w₂) ∧ w'.state = w₂.state ∧
      registry = register db.dialect plans .empty := by
  rw [start_eq] at h
  obtain ⟨_, w₁, hrequire, h⟩ := Action.outcome_bind_eq_ok.1 h
  obtain ⟨created, w₂, hcompile, h⟩ := Action.outcome_bind_eq_ok.1 h
  cases hp : doc.plans ctx with
  | error e =>
    rw [compile_error hp] at hcompile
    cases congrArg Prod.fst hcompile
  | ok plans =>
    obtain ⟨order, blocked, hem⟩ := Emission.exists [] plans
    rw [compile_eq hp, hem.createAll_eq] at hcompile
    obtain ⟨_, w₃, hcreate, hconclude⟩ := Action.outcome_bind_eq_ok.1 hcompile
    cases blocked with
    | cons p ps => cases congrArg Prod.fst hconclude
    | nil =>
      cases hconclude
      rw [compile_eq hp] at h
      cases h
      exact ⟨plans, order, w₁, w₂, rfl, hem, hrequire, hcreate, rfl, rfl⟩

/-- A start that succeeds results in the registry of its document. -/
theorem registry_start {db : Database σ} {w w' : Logged σ} {registry : Registry}
    (h : (start db ctx doc).outcome w = (.ok registry, w')) :
    registry = (compile db ctx doc .empty).1 := by
  rw [start_eq] at h
  obtain ⟨_, _, -, h⟩ := Action.outcome_bind_eq_ok.1 h
  obtain ⟨_, _, -, h⟩ := Action.outcome_bind_eq_ok.1 h
  cases h
  rfl

/-- The tables that a start registers are the plans of its document. -/
theorem get?_start {db : Database σ} {w w' : Logged σ} {registry : Registry}
    (h : (start db ctx doc).outcome w = (.ok registry, w')) {name : String} {t : TableDescription} :
    registry.get? name = some t ↔
      ∃ plans, doc.plans ctx = .ok plans ∧ ∃ p ∈ plans, p.name = name ∧
        p.description db.dialect = t := by
  obtain ⟨plans, -, -, -, hp, -, -, -, -, rfl⟩ := start_ok h
  have hnodup : (plans.map Plan.name).Nodup := by
    rw [Document.names_plans hp]
    exact (Document.plans_eq_ok.1 hp).1
  rw [get?_register hnodup]
  constructor
  · rintro ⟨p, hmem, hname, rfl⟩
    exact ⟨plans, hp, p, hmem, hname, rfl⟩
  · rintro ⟨plans', hp', p, hmem, hname, rfl⟩
    obtain rfl : plans = plans' := Except.ok.inj (hp.symm.trans hp')
    exact ⟨p, hmem, hname, rfl⟩

/-- The key of a planned table is shown. -/
theorem key_shown {declared : List String} {table : Table} {p : Plan}
    (h : planTable ctx declared table = .ok p) (d : Dialect) :
    Identifier.id.name ∈ (p.description d).displayFields := by
  rw [TableDescription.displayFields, description_entries h]
  exact List.mem_cons_self

/-- **Every table that a start registers shows its key.** -/
theorem keyed_start {db : Database σ} {w w' : Logged σ} {registry : Registry}
    (h : (start db ctx doc).outcome w = (.ok registry, w')) : registry.Keyed := by
  intro name t ht
  obtain ⟨plans, hp, p, hmem, rfl, rfl⟩ := (get?_start h).1 ht
  obtain ⟨table, -, hplan⟩ := forall₂_mem_right (Document.plans_eq_ok.1 hp).2 p hmem
  exact key_shown hplan db.dialect

/-! ## Registries that documents fill -/

/-- The registry has been filled by documents, whatever came of creating their tables. -/
inductive Filled : Registry → Prop
  | empty : Filled .empty
  | compile {σ : Type} (db : Database σ) (ctx : Context) (doc : Document) {r : Registry}
    (h : Filled r) : Filled (compile db ctx doc r).1

/-- A table of a document has this name and this description. -/
def Described (name : String) (t : TableDescription) : Prop :=
  ∃ ctx declared d table p, planTable ctx declared table = .ok p ∧ p.name = name ∧
    p.description d = t

/-- A described table has the key and the columns of its fields, in the order of declaration. -/
theorem Described.names {name : String} {t : TableDescription} (h : Described name t) :
    ∃ (ctx : Context) (table : Table), table.name = name ∧
      t.names = "id" :: table.fields.flatMap (·.columnNames ctx) := by
  obtain ⟨ctx, _, d, table, p, hplan, rfl, rfl⟩ := h
  exact ⟨ctx, table, (planTable_ok hplan).1.symm, (planTable_agrees hplan d).names⟩

/-- The columns of a described table have valid names. -/
theorem Described.valid {name : String} {t : TableDescription} (h : Described name t) :
    ∀ n ∈ t.names, Identifier.Valid n := by
  obtain ⟨_, _, d, _, p, hplan, -, rfl⟩ := h
  intro n hn
  rw [Named.names, description_entries hplan, List.map_cons, List.map_map] at hn
  rcases List.mem_cons.1 hn with rfl | hn
  · exact ⟨Identifier.id.nonempty, Identifier.id.noNul, Identifier.id.fits⟩
  · obtain ⟨c, -, rfl⟩ := List.mem_map.1 hn
    exact ⟨c.name.nonempty, c.name.noNul, c.name.fits⟩

/-- **Every table of a filled registry is described by its plan.** -/
theorem Filled.described {r : Registry} (h : Filled r) {name : String} {t : TableDescription}
    (ht : r.get? name = some t) : Described name t := by
  induction h with
  | empty => cases ht
  | compile db ctx doc _ ih =>
    cases hp : doc.plans ctx with
    | error e =>
      rw [compile_error hp] at ht
      exact ih ht
    | ok plans =>
      have hnames : (plans.map fun p => (p.name, p.description db.dialect)).map Prod.fst =
          doc.names := by
        rw [List.map_map, ← Document.names_plans hp]
        rfl
      rw [compile_eq hp] at ht
      rcases (Registry.get?_extend (hnames ▸ (Document.plans_eq_ok.1 hp).1)).1 ht with hmem | ⟨-, ht⟩
      · obtain ⟨p, hpmem, hpt⟩ := List.mem_map.1 hmem
        cases hpt
        obtain ⟨table, -, hplan⟩ := forall₂_mem_right (Document.plans_eq_ok.1 hp).2 p hpmem
        exact ⟨ctx, _, db.dialect, table, p, hplan, rfl, rfl⟩
      · exact ih ht

/-- Every table of a filled registry shows its key. -/
theorem Filled.keyed {r : Registry} (h : Filled r) : r.Keyed := by
  intro name t ht
  obtain ⟨_, _, d, _, _, hplan, -, rfl⟩ := h.described ht
  exact key_shown hplan d

/-- A start fills the registry that it results in. -/
theorem filled_start {db : Database σ} {w w' : Logged σ} {registry : Registry}
    (h : (start db ctx doc).outcome w = (.ok registry, w')) : Filled registry := by
  rw [registry_start h]
  exact .compile db ctx doc .empty

end Schema

end TableService
