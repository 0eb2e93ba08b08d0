/-
  What the dialects have in common of a compiled document.

  * A `CompiledTable` is a plan that is written for a dialect.
  * `SameSchema`: two compiled tables have the same names, dependencies and kinds; their types are
    the same but for long texts.
  * `KeysRead`: the definitions of a compiled table, when they are read, have the foreign keys of
    its relations and no others, each with its own column or in a constraint on that.
  * `dialects_agree`: a document has the same fault in all dialects, or the same schema.
-/
import TableService.Proofs.Schema.Agreement
import TableService.Proofs.Sql.ForeignKey

namespace TableService

open Sql

theorem FieldDescription.kind_ofDeclaration (d d' : Dialect) (type : String) :
    (ofDeclaration d type).kind = (ofDeclaration d' type).kind := by
  unfold ofDeclaration
  cases FieldKind.ofWord? type with
  | none => rfl
  | some kind => cases kind <;> rfl

/-- The column type depends on the dialect only for long texts. -/
theorem FieldDescription.columnType_ofDeclaration (d d' : Dialect) (type : String) :
    (ofDeclaration d type).kind = .markdown ∨ (ofDeclaration d type).kind = .json ∨
      (ofDeclaration d type).columnType = (ofDeclaration d' type).columnType := by
  unfold ofDeclaration
  cases FieldKind.ofWord? type with
  | none => exact .inr (.inr rfl)
  | some kind => cases kind <;> simp [Dialect.datetime]

namespace Schema

/-! ## Definitions as they are read -/

/-- The foreign key to a target. -/
def Target.key (t : Target) : ForeignKey := ⟨t.table, t.column, t.onDelete, t.onUpdate⟩

/-- The foreign key of a field. -/
def Field.key? (f : Field) : Option ForeignKey := f.refersTo?.map Target.key

/-- The foreign keys of the relations of a table, each with its own column. -/
def Table.keys (t : Table) : List (String × ForeignKey) :=
  t.fields.filterMap fun f => f.key?.map (f.name, ·)

/-- What the definition of a column of a field is to say. -/
def Field.columnDefinition (d : Dialect) (f : Field) (name : String) : ColumnDefinition :=
  ⟨name, f.required, f.unique, if d.inlineForeignKeys then f.key? else none⟩

section
variable {d : Dialect}

theorem lexes_clause (t : Target) : Lexes d (t.clause d).toList t.key.tokens := by
  have htext : (t.clause d).toList = "REFERENCES".toList ++
      ' ' :: ((d.quoteText t.table).toList ++ '(' :: ((d.quoteText t.column).toList ++ ')' ::
        (((t.onDelete.map fun a => " ON DELETE " ++ a.sql).getD "").toList ++
          ((t.onUpdate.map fun a => " ON UPDATE " ++ a.sql).getD "").toList))) := by
    unfold Target.clause
    simp
  have hdelete := lexes_on (d := d) (w := "DELETE") (s := " ON DELETE ") rfl rfl t.onDelete
  have hupdate := lexes_on (d := d) (w := "UPDATE") (s := " ON UPDATE ") rfl rfl t.onUpdate
  have hon := hdelete.append hupdate (ends_on rfl _)
  rw [htext]
  exact .keyword rfl (.quoted_sign rfl _ ((Spells.quoted _).lexes.append (.sign rfl hon)
    (.bracket _)))

/-- **A constraint is read back.** -/
theorem readConstraint_clause (t : Target) (name : String) :
    readConstraint? d ("FOREIGN KEY (" ++ d.quoteText name ++ ") " ++ t.clause d) =
      some (name, t.key) := by
  have htext : ("FOREIGN KEY (" ++ d.quoteText name ++ ") " ++ t.clause d).toList =
      "FOREIGN".toList ++ ' ' :: ("KEY".toList ++ ' ' :: '(' ::
        ((d.quoteText name).toList ++ ')' :: ' ' :: (t.clause d).toList)) := by simp
  have hlexes : Lexes d ("FOREIGN KEY (" ++ d.quoteText name ++ ") " ++ t.clause d).toList
      (.word "FOREIGN" :: .word "KEY" :: .sign '(' :: .name name :: .sign ')' :: t.key.tokens) := by
    rw [htext]
    exact .keyword rfl (.keyword rfl (.sign rfl ((Spells.quoted name).lexes.append
      (.sign rfl (lexes_clause t).space) (.bracket _))))
  rw [readConstraint?, hlexes.tokens_eq]
  simp only [readForeignKey_tokens, Option.map_some]

theorem lexes_inlineKey (f : Field) (name : String) : Lexes d (f.inlineKey d).toList
    (((f.columnDefinition d name).key.map ForeignKey.tokens).getD []) := by
  unfold Field.inlineKey Field.columnDefinition Field.key?
  cases d.inlineForeignKeys with
  | false => exact .nil
  | true =>
    cases f.refersTo? with
    | none => exact .nil
    | some t =>
      show Lexes d (" " ++ t.clause d).toList t.key.tokens
      rw [String.toList_append]
      exact (lexes_clause t).space

theorem ends_inlineKey (f : Field) : Ends (f.inlineKey d).toList := by
  refine .ite _ ?_
  cases f.refersTo? with
  | none => exact .nil
  | some t =>
    show Ends (" " ++ t.clause d).toList
    rw [String.toList_append]
    exact .space _

/-- **The definition of a column is read back.** -/
theorem readColumn_definition (f : Field) (column : String × FieldDescription) :
    readColumn? d column.2.columnType (f.definition d column) =
      some (f.columnDefinition d column.1) := by
  have hrequired : Lexes d (if f.required then " NOT NULL" else "").toList
      (if f.required then [.word "NOT", .word "NULL"] else []) :=
    .ite _ (.space (.keyword (w := "NOT") rfl (Spells.text (s := "NULL") rfl).lexes))
  have hunique : Lexes d (if f.unique then " UNIQUE" else "").toList
      (if f.unique then [.word "UNIQUE"] else []) :=
    .ite _ (.space (Spells.text (s := "UNIQUE") rfl).lexes)
  have hends : Ends (if f.unique then " UNIQUE" else "").toList := .ite _ (.space _)
  have hkey := ends_inlineKey (d := d) f
  have hrest := hrequired.append (hunique.append (lexes_inlineKey f column.1) hkey)
    (hends.append hkey)
  rw [← String.toList_append, ← String.toList_append] at hrest
  have hread := readColumn_of_lexes (c := f.columnDefinition d column.1) hrest column.2.columnType
  simp only [String.append_assoc] at hread
  rw [Field.definition]
  simp only [String.append_assoc]
  exact hread

/-- The constraints of columns are read back. -/
theorem readDefinitions_keys (xs : List (Field × String)) :
    readDefinitions? d [] (xs.filterMap fun x => x.1.constraint? d x.2) = some ([],
      xs.filterMap fun x => if d.inlineForeignKeys then none else x.1.key?.map (x.2, ·)) := by
  refine readDefinitions_constraints (List.rel_filterMap (R := Eq) ?_ (List.forall₂_refl xs))
  rintro x _ rfl
  beta_reduce
  unfold Field.constraint? Field.key?
  cases d.inlineForeignKeys with
  | true => exact .none
  | false =>
    cases x.1.refersTo? with
    | none => exact .none
    | some t => exact .some (readConstraint_clause t x.2)

/-- **The definitions of a table are read back.** -/
theorem readDefinitions_zipWith {xs : List (Field × String)}
    {columns : List (String × FieldDescription)}
    (h : List.Forall₂ (fun x c => x.2 = c.1) xs columns) {keys : List (String × ForeignKey)}
    {constraints : List String} (hkeys : readDefinitions? d [] constraints = some ([], keys)) :
    readDefinitions? d (columns.map (·.2.columnType))
        (List.zipWith (Field.definition d) (xs.map Prod.fst) columns ++ constraints) =
      some (xs.map fun x => x.1.columnDefinition d x.2, keys) := by
  induction h with
  | nil => exact hkeys
  | @cons x c xs columns hc _ ih =>
    rw [List.map_cons, List.map_cons, List.zipWith_cons_cons, List.cons_append, readDefinitions?,
      readColumn_definition, ih, List.map_cons, hc]
    rfl

end

/-! ## Compiled tables -/

/-- A table as it is compiled for a dialect. -/
structure CompiledTable where
  name : String
  /-- The definitions besides that of the key. -/
  definitions : List String
  dependencies : List String
  description : TableDescription

/-- The plan, written for a dialect. -/
def Plan.compiled (d : Dialect) (p : Plan) : CompiledTable :=
  ⟨p.name, p.definitions d, p.dependencies, p.description d⟩

/-- The tables of a document, compiled for a dialect. -/
def Document.compiled (d : Dialect) (ctx : Context) (doc : Document) :
    Except PlanError (List CompiledTable) :=
  (doc.plans ctx).map (List.map (Plan.compiled d))

/-- Two columns are described alike. -/
structure SameColumn (x y : String × FieldDescription) : Prop where
  name : x.1 = y.1
  kind : x.2.kind = y.2.kind
  /-- Only the types of long texts differ. -/
  type : x.2.kind = .markdown ∨ x.2.kind = .json ∨ x.2.columnType = y.2.columnType

/-- Two compiled tables have the same schema. -/
structure SameSchema (x y : CompiledTable) : Prop where
  name : x.name = y.name
  dependencies : x.dependencies = y.dependencies
  columns : List.Forall₂ SameColumn x.description.entries y.description.entries

/-- The definitions of a compiled table, by the types of its description, are those of the columns
that are described after the key, in order, and after them only constraints.  The foreign keys in
them are those of the relations of the table, in order: without inline keys they are the
constraints, else each stands with its own column. -/
def KeysRead (d : Dialect) (t : Table) (x : CompiledTable) : Prop :=
  ∃ columns keys, readDefinitions? d (x.description.entries.tail.map (·.2.columnType))
      x.definitions = some (columns, keys) ∧
    columns.map (·.name) = x.description.names.tail ∧
    columns.filterMap (fun c => c.key.map (c.name, ·)) = (if d = .mysql then [] else t.keys) ∧
    keys = if d = .mysql then t.keys else []

section
variable {ctx : Context} {declared : List String} {t : Table} {p : Plan}
  (h : planTable ctx declared t = .ok p)
include h

theorem sameSchema_compiled (d d' : Dialect) : SameSchema (p.compiled d) (p.compiled d') := by
  refine ⟨rfl, rfl, ?_⟩
  show List.Forall₂ SameColumn (p.description d).entries (p.description d').entries
  rw [description_entries h, description_entries h]
  refine .cons ⟨rfl, rfl, .inr (.inr rfl)⟩ ?_
  rw [List.forall₂_map_left_iff, List.forall₂_map_right_iff, List.forall₂_same]
  exact fun c _ => ⟨rfl, FieldDescription.kind_ofDeclaration d d' c.type,
    FieldDescription.columnType_ofDeclaration d d' c.type⟩

theorem keysRead_compiled (d : Dialect) : KeysRead d t (p.compiled d) := by
  have hagrees := planTable_agrees h d
  have hnames : (fieldColumns ctx t.fields).map Prod.snd =
      (p.description d).entries.tail.map Prod.fst := by
    rw [names_fieldColumns, List.map_tail]
    exact (congrArg List.tail hagrees.names).symm
  have hcolumns : List.Forall₂ (fun x c => x.2 = c.1) (fieldColumns ctx t.fields)
      (p.description d).entries.tail := by
    have h : List.Forall₂ (fun n (c : String × FieldDescription) => n = c.1)
        ((p.description d).entries.tail.map Prod.fst) (p.description d).entries.tail :=
      List.forall₂_map_left_iff.2 (List.forall₂_same.2 fun _ _ => rfl)
    rw [← hnames] at h
    exact List.forall₂_map_left_iff.1 h
  have hread := readDefinitions_zipWith hcolumns
    (readDefinitions_keys (d := d) (fieldColumns ctx t.fields))
  rw [← hagrees.definitions] at hread
  have hkeys : (fieldColumns ctx t.fields).filterMap (fun x => x.1.key?.map (x.2, ·)) = t.keys :=
    filterMap_fieldColumns (g := fun f n => f.key?.map (n, ·)) (fun _ _ => rfl) ctx t.fields
  refine ⟨_, _, hread, ?_, ?_, ?_⟩
  · rw [List.map_map]
    exact hnames.trans List.map_tail
  · rw [List.filterMap_map]
    cases d with
    | sqlite | postgres => exact hkeys
    | mysql => exact List.filterMap_eq_nil_iff.2 fun _ _ => rfl
  · cases d with
    | sqlite | postgres => exact List.filterMap_eq_nil_iff.2 fun _ _ => rfl
    | mysql => exact hkeys

end

/-- **The dialects agree on a document**: it has the same fault in both, or the same schema; in each
of them the foreign keys are those of its relations. -/
theorem dialects_agree (ctx : Context) (doc : Document) (d d' : Dialect) :
    match doc.compiled d ctx, doc.compiled d' ctx with
    | .ok xs, .ok ys => List.Forall₂ SameSchema xs ys ∧ List.Forall₂ (KeysRead d) doc.tables xs ∧
        List.Forall₂ (KeysRead d') doc.tables ys
    | .error e, .error e' => e = e'
    | _, _ => False := by
  unfold Document.compiled
  cases hp : doc.plans ctx with
  | error e => rfl
  | ok plans =>
    have hall := (Document.plans_eq_ok.1 hp).2
    have hkeys : ∀ d, List.Forall₂ (KeysRead d) doc.tables (plans.map (Plan.compiled d)) := by
      intro d
      exact List.forall₂_map_right_iff.2 (hall.imp fun _ _ h => keysRead_compiled h d)
    refine ⟨?_, hkeys d, hkeys d'⟩
    rw [List.forall₂_map_left_iff, List.forall₂_map_right_iff, List.forall₂_same]
    intro p hpm
    obtain ⟨t, -, h⟩ := forall₂_mem_right hall p hpm
    exact sameSchema_compiled h d d'

end Schema

end TableService
