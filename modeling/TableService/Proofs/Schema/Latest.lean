/-
  Descriptions and registries after any history.

  * `IsLast`: the last entry of a name in a list.  `get_foldl`: if putting an entry replaces what was
    under its name, then after a list of entries every name has its last one.
  * `TableDescription.Shows`, `Registry.Shows`: all views of a description, and of a registry, show the
    last entries of a list.  The text is a view too: what is read from it is what is there.
  * `latest_shown`: this is so of the description that a list of columns is put into, and of the registry
    that is extended by any batches.
-/
import TableService.Proofs.Query.Building
import TableService.Proofs.Text.ByteOrder
import TableService.Schema.Description

namespace TableService

open Source (Writes)

/-! ## The last entry of a name -/

/-- The last entry of the name in the list has this value. -/
def IsLast {α : Type} (l : List (String × α)) (name : String) (a : α) : Prop :=
  ∃ before after, l = before ++ (name, a) :: after ∧ name ∉ after.map Prod.fst

section
variable {α β : Type}

/-- The last entry of a name is the first one only if no other follows. -/
theorem isLast_cons {e : String × α} {l : List (String × α)} {name : String} {a : α} :
    IsLast (e :: l) name a ↔ IsLast l name a ∨ name ∉ l.map Prod.fst ∧ e = (name, a) := by
  constructor
  · rintro ⟨before, after, h, hafter⟩
    cases before with
    | nil =>
      cases h
      exact .inr ⟨hafter, rfl⟩
    | cons x before =>
      cases h
      exact .inl ⟨before, after, rfl, hafter⟩
  · rintro (⟨before, after, rfl, hafter⟩ | ⟨hafter, rfl⟩)
    · exact ⟨e :: before, after, rfl, hafter⟩
    · exact ⟨[], l, rfl, hafter⟩

/-- **After a list of entries every name has its last one**, or what it had before if it is not in the
list. -/
theorem get_foldl {get : β → String → Option α} {put : β → String × α → β}
    (hput : ∀ b e name, get (put b e) name = if name = e.1 then some e.2 else get b name)
    {l : List (String × α)} {b : β} {name : String} {a : α} :
    get (l.foldl put b) name = some a ↔
      IsLast l name a ∨ name ∉ l.map Prod.fst ∧ get b name = some a := by
  induction l generalizing b with
  | nil =>
    have hnil : ¬ IsLast [] name a := by
      rintro ⟨before, after, h, -⟩
      cases before <;> cases h
    simp [hnil]
  | cons e l ih =>
    obtain ⟨n, v⟩ := e
    rw [List.foldl_cons, ih, isLast_cons, hput, List.map_cons, List.mem_cons, not_or]
    by_cases hname : name = n
    · subst hname
      simp
    · simp [hname, Ne.symm hname]

/-- Of distinct names, each has the value that stands under it. -/
theorem lookup_eq_some_iff_mem {l : List (String × α)} (h : (l.map Prod.fst).Nodup) {name : String}
    {a : α} : l.lookup name = some a ↔ (name, a) ∈ l := by
  induction l with
  | nil => simp
  | cons e l ih =>
    obtain ⟨n, v⟩ := e
    obtain ⟨hn, hl⟩ := List.nodup_cons.1 h
    rw [Record.lookup_entry, List.mem_cons, ← ih hl]
    by_cases hname : name = n
    · subst hname
      have hmem : (name, a) ∉ l := fun ha => hn (List.mem_map.2 ⟨(name, a), ha, rfl⟩)
      simp [ih hl, hmem, eq_comm]
    · simp [hname]

end

namespace Named
variable {α : Type}

/-- **The names are in the order of their first mention.** -/
theorem names_ofList (l : List (String × α)) : (ofList l).names = (l.map Prod.fst).eraseDups :=
  names_foldl_change Prod.fst (fun e _ => e.2) l

/-- **A name has the value that was put under it last.** -/
theorem get?_ofList {l : List (String × α)} {name : String} {a : α} :
    (ofList l).get? name = some a ↔ IsLast l name a := by
  have hfold : (ofList l).get? name = some a ↔ IsLast l name a ∨
      name ∉ l.map Prod.fst ∧ (empty : Named α).get? name = some a :=
    get_foldl fun n e name => get?_change n e.1 name _
  exact hfold.trans (or_iff_left fun h => nomatch h.2)

theorem mem_entries {n : Named α} {name : String} {a : α} :
    (name, a) ∈ n.entries ↔ n.get? name = some a :=
  (lookup_eq_some_iff_mem n.distinct).symm

end Named

namespace Record
variable {α : Type}

/-- The names ascend in the order of their bytes. -/
theorem names_ascending (r : Record α) : r.names.Pairwise fun s t => Text.utf8 s < Text.utf8 t :=
  List.pairwise_map.2 (r.ascending.imp fun h => Text.utf8_lt h)

theorem names_nodup (r : Record α) : r.names.Nodup :=
  List.pairwise_map.2 (r.ascending.imp fun h => (String.ne_of_lt h))

theorem mem_entries {r : Record α} {name : String} {a : α} :
    (name, a) ∈ r.entries ↔ r.get? name = some a :=
  (lookup_eq_some_iff_mem r.names_nodup).symm

/-- **A name has the value that was put under it last**, in the first record or after it. -/
theorem get?_foldl_insert {l : List (String × α)} {r : Record α} {name : String} {a : α} :
    (l.foldl (fun r e => r.insert e.1 e.2) r).get? name = some a ↔
      IsLast l name a ∨ name ∉ l.map Prod.fst ∧ r.get? name = some a :=
  get_foldl fun _ _ _ => get?_insert

end Record

/-! ## Texts -/

/-- A column is read from what it is written as. -/
theorem FieldDescription.exists_tree (d : Nat) (f : FieldDescription) :
    ∃ t, Writes f.json.chars t ∧ FieldDescription.shape (d + 1) t = .ok f := by
  obtain ⟨columnType, kind⟩ := f
  have htype := Source.writes_string columnType
  have hkind := Source.writes_string kind.name
  refine ⟨.object [(Source.plain "defaultType", .string (Source.plain columnType)),
    (Source.plain "type", .string (Source.plain kind.name))] none, ?_, ?_⟩
  · exact Source.writes_object (.cons (.mk _ htype) (.cons (.mk _ hkind) .nil))
  · cases kind <;> rfl

/-- An object is read from members that are. -/
theorem Json.object_exists_tree {α : Type} {shape : Shape α} {d : Nat} {f : α → Json}
    {members : List (String × α)}
    (h : ∀ e ∈ members, ∃ t, Writes (f e.2).chars t ∧ shape d t = .ok e.2) :
    ∃ t, Writes (Json.object (members.map fun e => (e.1, f e.2))).chars t ∧
      Shape.object shape (d + 1) t = .ok members := by
  obtain ⟨ms, hwritten, hread⟩ := exists_members h
  exact ⟨.object ms none, Source.writes_object hwritten,
    Shape.object_ok_iff.2 ⟨d, ms, rfl, rfl, hread⟩⟩

namespace TableDescription

/-- Reads the columns of a description in the order of the text. -/
def columns : Shape (List (String × FieldDescription)) := Shape.object FieldDescription.shape

theorem exists_tree (d : Nat) (t : TableDescription) :
    ∃ v, Writes t.json.chars v ∧ columns (d + 2) v = .ok t.entries :=
  Json.object_exists_tree fun e _ => e.2.exists_tree d

/-- **All views of a description show the last entries of a list**: its names are those of the list in
the order in which they are first there, and the values under them, whether they are looked up, gone
through or read from the text, are the last ones of the list. -/
structure Shows (t : TableDescription) (l : List (String × FieldDescription)) : Prop where
  names : t.names = (l.map Prod.fst).eraseDups
  distinct : t.names.Nodup
  latest : ∀ name f, t.get? name = some f ↔ IsLast l name f
  contains : ∀ name, t.contains name = true ↔ name ∈ t.names
  entries : t.entries.map Prod.fst = t.names ∧ ∀ name f, (name, f) ∈ t.entries ↔ t.get? name = some f
  size : t.size = t.names.length
  isEmpty : t.isEmpty = true ↔ t.names = []
  text : columns.read t.json.render = .ok t.entries

theorem shows_ofList (l : List (String × FieldDescription)) : Shows (Named.ofList l) l where
  names := Named.names_ofList l
  distinct := (Named.ofList l).distinct
  latest _ _ := Named.get?_ofList
  contains _ := Named.contains_iff_mem
  entries := ⟨rfl, fun _ _ => Named.mem_entries⟩
  size := (List.length_map _).symm
  isEmpty := List.isEmpty_iff.trans List.map_eq_nil_iff.symm
  text := by
    obtain ⟨v, hwrites, hread⟩ := exists_tree 125 (Named.ofList l)
    exact (read_of_writes hwrites).trans hread

/-- The columns to show are those that are not binary, in order. -/
theorem mem_displayFields {t : TableDescription} {name : String} :
    name ∈ t.displayFields ↔ ∃ f, t.get? name = some f ∧ f.kind ≠ .binary := by
  simp only [displayFields, List.mem_map, List.mem_filter, bne_iff_ne, Prod.exists,
    exists_and_right, exists_eq_right, Named.mem_entries]

end TableDescription

namespace Registry

/-- **All views of a registry show the last entries of a list**: the tables of the list, by ascending
name, with their last descriptions, whether they are looked up, gone through or read from the text; and
for each the columns that are not binary, in the order of the description. -/
structure Shows (r : Registry) (l : List (String × TableDescription)) : Prop where
  latest : ∀ table t, r.get? table = some t ↔ IsLast l table t
  names : ∀ table, table ∈ r.names ↔ table ∈ l.map Prod.fst
  ascending : r.names.Pairwise fun s t => Text.utf8 s < Text.utf8 t
  entries : r.entries.map Prod.fst = r.names ∧ ∀ table t, (table, t) ∈ r.entries ↔ r.get? table = some t
  text : (Shape.object TableDescription.columns).read r.json.render =
    .ok (r.entries.map fun e => (e.1, e.2.entries))
  unknown : ∀ table, r.displayFields table = none ↔ r.get? table = none
  shown : ∀ table t, r.get? table = some t → ∃ shown, r.displayFields table = some shown ∧
    shown.Sublist t.names ∧ ∀ name, name ∈ shown ↔ ∃ f, t.get? name = some f ∧ f.kind ≠ .binary

theorem exists_tree (d : Nat) (r : Registry) : ∃ v, Writes r.json.chars v ∧
    Shape.object TableDescription.columns (d + 3) v = .ok (r.entries.map fun e => (e.1, e.2.entries)) := by
  have htable : ∀ e ∈ r.entries.map fun e => (e.1, e.2.entries), ∃ v,
      Writes (Json.object (e.2.map fun e => (e.1, e.2.json))).chars v ∧
        TableDescription.columns (d + 2) v = .ok e.2 := by
    intro e he
    obtain ⟨x, -, rfl⟩ := List.mem_map.1 he
    exact x.2.exists_tree d
  have htables := Json.object_exists_tree
    (f := fun l : List (String × FieldDescription) => .object (l.map fun e => (e.1, e.2.json))) htable
  rw [List.map_map] at htables
  exact htables

/-- Batches are registered like one batch of all their tables. -/
theorem foldl_extend (batches : List (List (String × TableDescription))) (r : Registry) :
    batches.foldl extend r = r.extend batches.flatten :=
  List.foldl_flatten.symm

theorem shows_extend (l : List (String × TableDescription)) : Shows (extend .empty l) l where
  latest table t := by
    rw [extend, Record.get?_foldl_insert]
    exact or_iff_left fun h => nomatch h.2
  names table := by
    rw [extend, Record.mem_names_foldl_insert]
    exact or_iff_right List.not_mem_nil
  ascending := Record.names_ascending _
  entries := ⟨rfl, fun _ _ => Record.mem_entries⟩
  text := by
    obtain ⟨v, hwrites, hread⟩ := exists_tree 124 (extend .empty l)
    exact (read_of_writes hwrites).trans hread
  unknown _ := Option.map_eq_none_iff
  shown table t ht := by
    refine ⟨t.displayFields, ?_, t.displayFields_sublist, fun _ =>
      TableDescription.mem_displayFields⟩
    rw [displayFields, ht]
    rfl

end Registry

/-- **What is put last is shown**, after any history.  Columns that are put into a description one after
the other have distinct names, in the order in which each was put first, and every name has the
description that was put last; batches of tables that extend a registry leave it with the last
description of every table of any batch, and with these tables only, by ascending name.  All views agree:
the look-up of a name, the question whether it is there, the names, the entries, their number and the
text, and for the tables of a registry the columns to show, which are those of the description that are
not binary. -/
theorem latest_shown (columns : List (String × FieldDescription))
    (batches : List (List (String × TableDescription))) :
    TableDescription.Shows (Named.ofList columns) columns ∧
    Registry.Shows (batches.foldl Registry.extend .empty) batches.flatten := by
  rw [Registry.foldl_extend]
  exact ⟨TableDescription.shows_ofList columns, Registry.shows_extend batches.flatten⟩

/-- Of a column that is put twice the last description is kept, in the place of the first. -/
example : (Named.ofList [("flag", FieldDescription.mk "TEXT" .text), ("id", ⟨"INTEGER", .number⟩),
    ("flag", ⟨"BLOB", .binary⟩)]).entries = [("flag", ⟨"BLOB", .binary⟩), ("id", ⟨"INTEGER", .number⟩)] :=
  rfl

end TableService
