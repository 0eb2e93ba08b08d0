/-
  The description of a table and the definitions that create it.

  * `Target.clause`, `Field.definition` and `Field.constraint?` write what a field asks for, from the
    document itself.
  * `Agrees`: the description of a plan has the key and then the columns that the fields of the table
    ask for; the definitions are one for each of these columns but the key, in order, by the type
    in the description, and then the foreign keys that do not stand with their columns.
  * `description_entries`: a plan describes the key, and then its columns.
  * `plans_agree`: every plan of a document agrees with its table.
-/
import TableService.Proofs.Schema.Faults

namespace TableService.Schema

/-! ## What a field asks for -/

/-- The clause of a foreign key to a target. -/
def Target.clause (d : Dialect) (t : Target) : String :=
  "REFERENCES " ++ d.quoteText t.table ++ "(" ++ d.quoteText t.column ++ ")" ++
    (t.onDelete.map fun a => " ON DELETE " ++ a.sql).getD "" ++
    (t.onUpdate.map fun a => " ON UPDATE " ++ a.sql).getD ""

namespace Field

/-- The foreign key of a field, where it stands with the column. -/
def inlineKey (d : Dialect) (f : Field) : String :=
  if d.inlineForeignKeys then (f.refersTo?.map fun t => " " ++ t.clause d).getD "" else ""

/-- The definition of a column of a field, with the name and the description of the column. -/
def definition (d : Dialect) (f : Field) (column : String × FieldDescription) : String :=
  d.quoteText column.1 ++ " " ++ column.2.columnType ++
    (if f.required then " NOT NULL" else "") ++ (if f.unique then " UNIQUE" else "") ++
    f.inlineKey d

/-- The foreign key of a field, where it does not stand with the column of this name. -/
def constraint? (d : Dialect) (f : Field) (name : String) : Option String :=
  if d.inlineForeignKeys then none
  else f.refersTo?.map fun t => "FOREIGN KEY (" ++ d.quoteText name ++ ") " ++ t.clause d

end Field

theorem sql_of_meets {d : Dialect} {r : Reference} {t : Target} (h : r.Meets t) :
    r.sql d = t.clause d := by
  obtain ⟨htable, hcolumn, hdelete, hupdate⟩ := h
  unfold Reference.sql Target.clause Dialect.quote
  rw [htable, hcolumn, hdelete, hupdate]
  cases t.onDelete <;> cases t.onUpdate <;> rfl

/-! ## What a plan has -/

section
variable {ctx : Context} {declared : List String} {d : Dialect} {x : Field × String}
  {c : PhysicalColumn}

theorem Realizes.description (h : Realizes x c) :
    c.description d = .ofDeclaration d x.1.type := by
  rw [PhysicalColumn.description, h.type]

theorem Realizes.clause (h : Realizes x c) :
    c.reference.map (·.sql d) = x.1.refersTo?.map (·.clause d) := by
  have hr := h.reference
  generalize c.reference = ref, x.1.refersTo? = target at hr
  cases hr with
  | none => rfl
  | some hm => exact congrArg some (sql_of_meets hm)

/-- The column is defined as its field says, by the type in its description. -/
theorem Realizes.definition (h : Realizes x c) :
    c.definition d = x.1.definition d (c.name.name, c.description d) := by
  have hkey : x.1.inlineKey d =
      if d.inlineForeignKeys then ((c.reference.map (·.sql d)).map (" " ++ ·)).getD "" else "" := by
    rw [h.clause, Option.map_map]
    rfl
  rw [Field.definition, hkey, ← h.required, ← h.unique, PhysicalColumn.definition,
    PhysicalColumn.plainDefinition, Dialect.quote]
  cases c.reference <;> cases d.inlineForeignKeys <;> simp [String.append_assoc]

theorem Realizes.constraint (h : Realizes x c) : c.constraint? d = x.1.constraint? d x.2 := by
  have hkey : x.1.constraint? d x.2 = if d.inlineForeignKeys then none
      else (c.reference.map (·.sql d)).map ("FOREIGN KEY (" ++ d.quoteText x.2 ++ ") " ++ ·) := by
    rw [h.clause, Option.map_map]
    rfl
  rw [hkey, PhysicalColumn.constraint?, Dialect.quote, h.name, Option.map_map]
  rfl

/-- The columns of a sound table are distinct, and none of them is the key. -/
theorem Table.Sound.nodup {t : Table} (h : t.Sound ctx declared) :
    (keyName :: t.fields.flatMap (·.columnNames ctx)).Nodup := by
  refine List.nodup_cons.2 ⟨fun hk => ?_, h.distinct⟩
  obtain ⟨f, hf, hk⟩ := List.mem_flatMap.1 hk
  exact key_not_mem_columnNames (h.fields f hf).notKey hk

end

/-- **The description and the definitions of a plan have the columns of its table.** -/
structure Agrees (ctx : Context) (d : Dialect) (t : Table) (p : Plan) : Prop where
  name : p.name = t.name
  /-- The key is described, and then the columns of the fields, in order. -/
  names : (p.description d).names = "id" :: t.fields.flatMap (·.columnNames ctx)
  distinct : ("id" :: t.fields.flatMap (·.columnNames ctx)).Nodup
  /-- A column is described by the type of its field. -/
  types : (p.description d).entries.tail.map Prod.snd =
    (fieldColumns ctx t.fields).map fun x => .ofDeclaration d x.1.type
  /-- There is one definition for each column that is described but the key, in order, and after
  them only foreign keys. -/
  definitions : p.definitions d =
    List.zipWith (Field.definition d) ((fieldColumns ctx t.fields).map Prod.fst)
        (p.description d).entries.tail ++
      (fieldColumns ctx t.fields).filterMap fun x => x.1.constraint? d x.2
  /-- The tables to be created first are the targets that are not exempt. -/
  dependencies : ∀ b, b ∈ p.dependencies ↔
    ∃ r, Field.relation r ∈ t.fields ∧ r.target.table = b ∧ b ∉ ctx.exempt

/-- A plan describes the key, and then its columns. -/
theorem description_entries {ctx : Context} {declared : List String} {t : Table} {p : Plan}
    (h : planTable ctx declared t = .ok p) (d : Dialect) :
    (p.description d).entries = (keyName, ⟨"INTEGER", .number⟩) ::
      p.columns.map fun c => (c.name.name, c.description d) := by
  have hnodup := (planTable_ok_iff.1 ⟨p, h⟩).nodup
  rw [← names_fieldColumns, ← names_of_realizes (planTable_columns h), names] at hnodup
  refine Named.entries_ofList ?_
  rw [List.map_cons, List.map_map]
  exact hnodup

theorem planTable_agrees {ctx : Context} {declared : List String} {t : Table} {p : Plan}
    (h : planTable ctx declared t = .ok p) (d : Dialect) : Agrees ctx d t p := by
  have hall := planTable_columns h
  have hnames : names p.columns = t.fields.flatMap (·.columnNames ctx) := by
    rw [← names_fieldColumns]
    exact names_of_realizes hall
  have htypes : p.columns.map (·.description d) =
      (fieldColumns ctx t.fields).map fun x => .ofDeclaration d x.1.type :=
    forall₂_map_eq hall fun hc => hc.description
  have hnodup := (planTable_ok_iff.1 ⟨p, h⟩).nodup
  have hentries := description_entries h d
  have hdefinitions : p.columns.map (·.definition d) =
      List.zipWith (Field.definition d) ((fieldColumns ctx t.fields).map Prod.fst)
        (p.columns.map fun c => (c.name.name, c.description d)) := by
    clear hnames htypes hentries hnodup h
    generalize fieldColumns ctx t.fields = xs, p.columns = cs at hall
    induction hall with
    | nil => rfl
    | cons hc _ ih => rw [List.map_cons, hc.definition, ih]; rfl
  refine ⟨(planTable_ok h).1, ?_, hnodup, ?_, ?_, fun b => mem_dependencies h⟩
  · simp only [Named.names, hentries, List.map_cons, List.map_map, Function.comp_def, ← hnames]
    rfl
  · simp only [hentries, List.tail_cons, List.map_map, Function.comp_def, htypes]
  · rw [hentries, List.tail_cons, Plan.definitions, hdefinitions]
    exact congrArg _ (forall₂_filterMap_eq hall fun hc => hc.constraint)

/-- **Every plan of a document agrees with its table**, in any dialect. -/
theorem plans_agree {ctx : Context} {doc : Document} {plans : List Plan}
    (hp : doc.plans ctx = .ok plans) (d : Dialect) :
    List.Forall₂ (Agrees ctx d) doc.tables plans :=
  (Document.plans_eq_ok.1 hp).2.imp fun _ _ h => planTable_agrees h d

/-- Pages with a title in two languages, a picture of their own and a section. -/
def magazine : Document := ⟨[
  ⟨"pages", [.column ⟨"title", "VARCHAR(120)", true, false, true⟩,
    .relation ⟨"picture", "INTEGER", false, ⟨"media", "id", true, some .setNull, none⟩⟩,
    .relation ⟨"section", "INTEGER", true, ⟨"sections", "id", false, none, none⟩⟩]⟩,
  ⟨"sections", []⟩]⟩

/-- The context of the magazine: there are pictures already. -/
def magazineContext : Context :=
  ⟨["media"], some ⟨["en", "de"], "en", by decide, by decide⟩⟩

/-- The plans of the magazine agree with its tables: the titles are columns of their own, and the
foreign keys of the pages come after all columns. -/
theorem magazine_agrees : ∃ plans, magazine.plans magazineContext = .ok plans ∧
    List.Forall₂ (Agrees magazineContext .mysql) magazine.tables plans ∧
    plans.map (fun p => (p.description .mysql).names) =
      [["id", "title_en", "title_de", "picture", "section"], ["id"]] ∧
    plans.map (·.definitions .mysql) = [["`title_en` VARCHAR(120) NOT NULL",
      "`title_de` VARCHAR(120) NOT NULL", "`picture` INTEGER UNIQUE", "`section` INTEGER NOT NULL",
      "FOREIGN KEY (`picture`) REFERENCES `media`(`id`) ON DELETE SET NULL",
      "FOREIGN KEY (`section`) REFERENCES `sections`(`id`)"], []] := by
  have hnames : (magazine.plans magazineContext).map
      (List.map fun p => (p.description .mysql).names) = .ok _ := rfl
  have hdefinitions : (magazine.plans magazineContext).map (List.map (·.definitions .mysql)) =
      .ok _ := rfl
  obtain ⟨plans, hp, hn⟩ := map_eq_ok.1 hnames
  obtain ⟨plans', hp', hd⟩ := map_eq_ok.1 hdefinitions
  obtain rfl : plans = plans' := Except.ok.inj (hp.symm.trans hp')
  refine ⟨plans, hp, plans_agree hp .mysql, hn.trans ?_, hd.trans ?_⟩
  · decide +kernel
  · decide +kernel

end TableService.Schema
