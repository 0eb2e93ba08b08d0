/-
  The columns that relations refer to.

  * `planTable_reference`: the plan of a table has a column for each relation, which refers to the
    table and the column that the relation names.
  * `mem_description_iff`: a planned table has the key and the columns that its fields ask for.
  * `Document.retarget` lets relations refer to other columns.  A document has plans whatever columns
    its relations refer to (`plans_retarget`).
  * `reference_found_iff`: so the column that a relation refers to is there exactly if it is the key
    or a column that the fields of the target ask for, and nothing of this is checked.
-/
import TableService.Proofs.Schema.Agreement

namespace TableService.Schema

variable {ctx : Context} {declared : List String} {doc : Document} {t : Table} {p : Plan}

/-! ## References -/

/-- The column of a plan for a relation refers to what the relation names. -/
structure PhysicalColumn.RefersFor (c : PhysicalColumn) (r : Relation) (ref : Reference) : Prop where
  name : c.name.name = r.name
  reference : c.reference = some ref
  table : ref.table.name = r.target.table
  column : ref.column.name = r.target.column

/-- **A plan has a column for each relation**, which refers to what the relation names. -/
theorem planTable_reference (h : planTable ctx declared t = .ok p) {r : Relation}
    (hr : .relation r ∈ t.fields) : ∃ c ∈ p.columns, ∃ ref, c.RefersFor r ref := by
  have hx : (Field.relation r, r.name) ∈ fieldColumns ctx t.fields :=
    List.mem_flatMap.2 ⟨_, hr, List.mem_singleton_self _⟩
  obtain ⟨c, hc, hreal⟩ := forall₂_mem_left (planTable_columns h) _ hx
  have href : Option.Rel Reference.Meets c.reference (some r.target) := hreal.reference
  generalize hcr : c.reference = ref at href
  cases href with
  | some hm => exact ⟨c, hc, _, hreal.name, hcr, hm.table, hm.column⟩

/-- **A planned table has the key and the columns that its fields ask for.** -/
theorem mem_description_iff (h : planTable ctx declared t = .ok p) (d : Dialect) {n : String} :
    n ∈ (p.description d).names ↔ n = "id" ∨ ∃ f ∈ t.fields, n ∈ f.columnNames ctx := by
  rw [(planTable_agrees h d).names, List.mem_cons, List.mem_flatMap]

/-! ## Other columns -/

/-- The relation with another column to refer to. -/
def Relation.retarget (g : Relation → String) (r : Relation) : Relation :=
  { r with target := { r.target with column := g r } }

/-- The field with other columns to refer to. -/
def Field.retarget (g : Relation → String) : Field → Field
  | .column c => .column c
  | .relation r => .relation (r.retarget g)

/-- The document with other columns for its relations to refer to. -/
def Document.retarget (g : Relation → String) (doc : Document) : Document :=
  ⟨doc.tables.map fun t => ⟨t.name, t.fields.map (Field.retarget g)⟩⟩

@[simp] theorem Field.name_retarget (g : Relation → String) (f : Field) :
    (f.retarget g).name = f.name := by
  cases f <;> rfl

@[simp] theorem Field.columnNames_retarget (g : Relation → String) (f : Field) :
    (f.retarget g).columnNames ctx = f.columnNames ctx := by
  cases f <;> rfl

theorem Document.names_retarget (g : Relation → String) (doc : Document) :
    (doc.retarget g).names = doc.names := by
  rw [names, retarget, List.map_map]
  rfl

section
variable {g : Relation → String} (hg : ∀ r, Identifier.Valid (g r))
include hg

theorem Field.Sound.retarget {f : Field} (h : f.Sound ctx declared) :
    (f.retarget g).Sound ctx declared := by
  cases f with
  | column c => exact h
  | relation r =>
    refine ⟨h.notKey, nofun, fun s hs => ?_, h.names, fun s hs => ?_⟩
    · cases hs
      exact h.known r rfl
    · cases hs
      exact ⟨(h.target r rfl).1, hg r⟩

theorem Document.Sound.retarget (h : doc.Sound ctx) : (doc.retarget g).Sound ctx := by
  refine ⟨(names_retarget g doc).symm ▸ h.distinct, fun u hu => ?_⟩
  obtain ⟨t, ht, rfl⟩ := List.mem_map.1 hu
  rw [names_retarget]
  refine ⟨fun f' hf' => ?_, ?_⟩
  · obtain ⟨f, hf, rfl⟩ := List.mem_map.1 hf'
    exact ((h.tables t ht).fields f hf).retarget hg
  · have hnames : (t.fields.map (Field.retarget g)).flatMap (·.columnNames ctx) =
        t.fields.flatMap (·.columnNames ctx) := by
      simp [List.flatMap_map]
    rw [hnames]
    exact (h.tables t ht).distinct

/-- **A document has plans whatever columns its relations refer to**, as long as these have valid
names. -/
theorem plans_retarget {plans : List Plan} (hp : doc.plans ctx = .ok plans) :
    ∃ plans', (doc.retarget g).plans ctx = .ok plans' :=
  Document.exists_plans_iff.2 ((Document.exists_plans_iff.1 ⟨plans, hp⟩).retarget hg)

end

/-! ## Columns that are referred to -/

/-- The fields of the document ask for a column of this name in a table. -/
def Document.Asks (ctx : Context) (doc : Document) (table column : String) : Prop :=
  ∃ u ∈ doc.tables, u.name = table ∧ ∃ f ∈ u.fields, column ∈ f.columnNames ctx

/-- **A relation to a declared table refers to a column of it exactly if this is the key or asked for
there**: by a column that is not localized or another relation of this name, or by a localized column
for one of the locales.  Nothing of this is checked. -/
theorem reference_found_iff {plans : List Plan} (hp : doc.plans ctx = .ok plans) :
    (∀ t ∈ doc.tables, ∀ r, Field.relation r ∈ t.fields → r.target.table ∉ ctx.exempt →
      (∃ p ∈ plans, p.name = t.name ∧ ∃ c ∈ p.columns, ∃ ref, c.RefersFor r ref) ∧
      ∃ q ∈ plans, q.name = r.target.table ∧ ∀ d, r.target.column ∈ (q.description d).names ↔
        r.target.column = "id" ∨ doc.Asks ctx r.target.table r.target.column) ∧
    ∀ g : Relation → String, (∀ r, Identifier.Valid (g r)) →
      ∃ plans', (doc.retarget g).plans ctx = .ok plans' := by
  obtain ⟨hnodup, hall⟩ := Document.plans_eq_ok.1 hp
  refine ⟨fun t ht r hr he => ⟨?_, ?_⟩, fun g hg => plans_retarget hg hp⟩
  · obtain ⟨p, hpm, hplan⟩ := forall₂_mem_left hall t ht
    exact ⟨p, hpm, (planTable_ok hplan).1, planTable_reference hplan hr⟩
  · obtain ⟨p, -, hplan⟩ := forall₂_mem_left hall t ht
    obtain ⟨u, hu, hname⟩ := List.mem_map.1 ((planTable_known hplan hr).resolve_left he)
    obtain ⟨q, hq, hqplan⟩ := forall₂_mem_left hall u hu
    refine ⟨q, hq, (planTable_ok hqplan).1.trans hname, fun d => ?_⟩
    rw [mem_description_iff hqplan d]
    refine or_congr_right ⟨fun hf => ⟨u, hu, hname, hf⟩, ?_⟩
    rintro ⟨v, hv, hvname, hf⟩
    -- names are distinct, so the table of this name is the one that is referred to
    obtain rfl : v = u := List.inj_on_of_nodup_map hnodup hv hu (hvname.trans hname.symm)
    exact hf

/-- Posts with a title in two languages, and comments on posts by their title. -/
def forum : Document := ⟨[⟨"posts", [.column ⟨"title", "TEXT", true, true, true⟩]⟩,
  ⟨"comments", [.relation ⟨"post", "TEXT", true, ⟨"posts", "title", false, none, none⟩⟩]⟩]⟩

/-- The reference of the comments. -/
def forumReference : Reference :=
  ⟨⟨"posts", by decide, by decide, by decide⟩, ⟨"title", by decide, by decide, by decide⟩, none, none⟩

/-- The plan of the posts. -/
def forumPosts : Plan := ⟨"posts", [
  ⟨⟨"title_en", by decide, by decide, by decide⟩, "TEXT", true, true, none⟩,
  ⟨⟨"title_de", by decide, by decide, by decide⟩, "TEXT", true, true, none⟩], []⟩

/-- The plan of the comments. -/
def forumComments : Plan := ⟨"comments", [
  ⟨⟨"post", by decide, by decide, by decide⟩, "TEXT", true, false, some forumReference⟩], ["posts"]⟩

theorem forum_plans :
    forum.plans ⟨[], magazineContext.localization⟩ = .ok [forumPosts, forumComments] := by
  decide +kernel

/-- What the comments of the forum refer to is there exactly if the posts ask for it; they may as well
refer to the title in English. -/
theorem forum_reference_found_iff :
    forum.plans ⟨[], magazineContext.localization⟩ = .ok [forumPosts, forumComments] ∧
    (∃ q ∈ [forumPosts, forumComments], q.name = "posts" ∧ ∀ d,
      "title" ∈ (q.description d).names ↔ "title" = "id" ∨
        forum.Asks ⟨[], magazineContext.localization⟩ "posts" "title") ∧
    ∃ plans, (forum.retarget fun _ => "title_en").plans ⟨[], magazineContext.localization⟩ =
      .ok plans := by
  obtain ⟨hfound, hretarget⟩ := reference_found_iff forum_plans
  obtain ⟨-, hcomments⟩ := hfound ⟨"comments", _⟩ (List.mem_cons_of_mem _ List.mem_cons_self) _
    List.mem_cons_self (List.not_mem_nil)
  exact ⟨forum_plans, hcomments, hretarget _ fun _ => ⟨by decide, by decide, by decide⟩⟩

/-- The comments of the forum refer to a column that the posts do not have. -/
theorem forum_reference_missing :
    forum.plans ⟨[], magazineContext.localization⟩ = .ok [forumPosts, forumComments] ∧
      (∃ c ∈ forumComments.columns, c.reference = some forumReference) ∧
      forumReference.table.name = forumPosts.name ∧
      forumReference.column.name ∉ (forumPosts.description .sqlite).names :=
  ⟨forum_plans, ⟨_, List.mem_singleton_self _, rfl⟩, rfl, by decide +kernel⟩

end TableService.Schema
