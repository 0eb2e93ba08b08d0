/-
  How the fields of a document are told apart.

  * `Keyed` is what a mapping is read as: the values of some names, each with at most one entry. A key is
    a name or the number of its place (`StandsFor`).
  * `ReadsRelation`, `ReadsColumn` and `RefersTo` say which mappings are read as a relation, as a column
    and as what a relation refers to. No mapping is read as both kinds of fields.
  * `parse?_eq_some_iff` goes from the nodes of a document to its tables and fields.
  * `fields_told_apart`: a field with a relation among its keys is this relation or the document is
    refused; any other is a column with no other keys than its own. This holds as long as no number is
    a key: the number 3 is taken for the relation, and in a column each number for the name at its place.
-/
import Mathlib.Tactic.SplitIfs
import TableService.Schema.Document
import TableService.Proofs.Results

namespace TableService.Schema.Document

open Yaml (Node Value)

/-! ## Mappings -/

/-- The values of the entries whose key stands for the `i`-th of some names. -/
def valuesOf (names : List String) (i : Nat) (entries : List (Value × Value)) : List Value :=
  (entries.filter fun e => keyIndex? names e.1 == some i).map Prod.snd

section
variable {names : List String} {strict : Bool} {entries : List (Value × Value)}

theorem valuesOf_cons {k v : Value} {i j : Nat} (h : keyIndex? names k = some i) :
    valuesOf names j ((k, v) :: entries) =
      if i = j then v :: valuesOf names j entries else valuesOf names j entries := by
  rw [valuesOf, List.filter_cons, h]
  by_cases hij : i = j
  · subst hij
    simp [valuesOf]
  · simp [valuesOf, hij]

/-- A mapping is read as these values of some names: every key is a text or a number, and stands for one
of the names where no others are admitted; and of the entries for a name there is one, or none where the
value is missing. -/
structure Keyed (names : List String) (strict : Bool) (entries : List (Value × Value))
    (values : List (Option Value)) : Prop where
  length : values.length = names.length
  known : ∀ e ∈ entries, ∃ i, keyIndex? names e.1 = some i ∧ (strict = true → i < names.length)
  single : ∀ i < names.length, valuesOf names i entries = (values[i]?.join).toList

theorem keyed_nil {values : List (Option Value)} :
    Keyed names strict [] values ↔ values = names.map fun _ => none := by
  constructor
  · intro h
    refine List.ext_getElem (by simp [h.length]) fun i hi hi' => ?_
    have hnone := h.single i (by simpa using hi')
    rw [List.getElem?_eq_getElem hi, Option.join_some] at hnone
    rw [List.getElem_map]
    exact Option.toList_eq_nil_iff.1 hnone.symm
  · rintro rfl
    exact ⟨by simp, List.forall_mem_nil _, fun i hi => by simp [valuesOf, hi]⟩

/-- A name that has an entry has no other, and the rest is read without it. -/
theorem keyed_cons {k v : Value} {i : Nat} {values : List (Option Value)}
    (hk : keyIndex? names k = some i) (hi : i < names.length) :
    Keyed names strict ((k, v) :: entries) values ↔ ∃ others,
      Keyed names strict entries others ∧ others[i]?.join = none ∧ others.set i (some v) = values := by
  constructor
  · intro h
    have hlength : i < values.length := h.length.symm ▸ hi
    have hsingle := h.single i hi
    rw [valuesOf_cons hk, if_pos rfl, List.getElem?_eq_getElem hlength, Option.join_some] at hsingle
    obtain ⟨hv, hothers⟩ : values[i] = some v ∧ valuesOf names i entries = [] := by
      cases hvalue : values[i] with
      | none =>
        rw [hvalue] at hsingle
        exact absurd hsingle (List.cons_ne_nil _ _)
      | some w =>
        rw [hvalue] at hsingle
        obtain ⟨rfl, hothers⟩ := List.cons.inj hsingle
        exact ⟨rfl, hothers⟩
    refine ⟨values.set i none, ⟨by simp [h.length], fun e he => h.known e (List.mem_cons_of_mem _ he),
      fun j hj => ?_⟩, by simp [hlength], ?_⟩
    · by_cases hij : i = j
      · subst hij
        simp [hothers, hlength]
      · have hj := h.single j hj
        rw [valuesOf_cons hk, if_neg hij] at hj
        rw [hj, List.getElem?_set_ne hij]
    · rw [List.set_set, ← hv, List.set_getElem_self]
  · rintro ⟨others, h, hnone, rfl⟩
    have hlength : i < others.length := h.length.symm ▸ hi
    refine ⟨by simp [h.length], List.forall_mem_cons.2 ⟨⟨i, hk, fun _ => hi⟩, h.known⟩, fun j hj => ?_⟩
    rw [valuesOf_cons hk]
    split_ifs with hij
    · subst hij
      rw [h.single i hi, hnone]
      simp [hlength]
    · rw [h.single j hj, List.getElem?_set_ne hij]

/-- An entry for no name is passed over where others are admitted. -/
theorem keyed_cons_other {k v : Value} {i : Nat} {values : List (Option Value)}
    (hk : keyIndex? names k = some i) (hi : ¬ i < names.length) :
    Keyed names strict ((k, v) :: entries) values ↔
      strict = false ∧ Keyed names strict entries values := by
  have hvalues : ∀ j < names.length,
      valuesOf names j ((k, v) :: entries) = valuesOf names j entries := by
    intro j hj
    rw [valuesOf_cons hk, if_neg (by omega)]
  constructor
  · intro h
    obtain ⟨⟨j, hj, hstrict⟩, hknown⟩ := List.forall_mem_cons.1 h.known
    obtain rfl : i = j := Option.some.inj (hk.symm.trans hj)
    refine ⟨Bool.eq_false_iff.2 fun htrue => hi (hstrict htrue), h.length, hknown, fun j hj => ?_⟩
    rw [← hvalues j hj, h.single j hj]
  · rintro ⟨rfl, h⟩
    refine ⟨h.length, List.forall_mem_cons.2 ⟨⟨i, hk, nofun⟩, h.known⟩, fun j hj => ?_⟩
    rw [hvalues j hj, h.single j hj]

/-- **What a mapping is read as.** -/
theorem keyed?_eq_some_iff {values : List (Option Value)} :
    keyed? names strict entries = some values ↔ Keyed names strict entries values := by
  induction entries generalizing values with
  | nil => rw [keyed?, Option.some.injEq, eq_comm, keyed_nil]
  | cons e entries ih =>
    obtain ⟨k, v⟩ := e
    simp only [keyed?, Option.bind_eq_bind, Option.bind_eq_some_iff, Option.pure_def]
    cases hk : keyIndex? names k with
    | none =>
      refine iff_of_false (by simp) fun h => ?_
      obtain ⟨_, hknown, -⟩ := h.known (k, v) List.mem_cons_self
      cases hk.symm.trans hknown
    | some i =>
      simp only [Option.some.injEq, exists_eq_left', ih]
      by_cases hi : i < names.length
      · rw [keyed_cons hk hi]
        simp only [hi, if_true]
        refine exists_congr fun others => and_congr_right fun _ => ?_
        cases others[i]?.join <;> simp
      · rw [keyed_cons_other hk hi]
        simp only [hi, if_false]
        cases strict <;> simp

end

/-! ## Records -/

/-- The value for the `i`-th of some names, if there is one. -/
def valueOf (names : List String) (i : Nat) (entries : List (Value × Value)) : Option Value :=
  (valuesOf names i entries).head?

/-- A mapping can be read as a record of some names: every key is a text or a number, and stands for one
of the names where no others are admitted, and no name has two entries. -/
structure IsRecord (names : List String) (strict : Bool) (entries : List (Value × Value)) : Prop where
  known : ∀ e ∈ entries, ∃ i, keyIndex? names e.1 = some i ∧ (strict = true → i < names.length)
  once : ∀ i < names.length, (valuesOf names i entries).length ≤ 1

section
variable {names : List String} {strict : Bool} {entries : List (Value × Value)}

theorem toList_head? {α : Type} {l : List α} (h : l.length ≤ 1) : l.head?.toList = l := by
  match l, h with
  | [], _ => rfl
  | [a], _ => rfl

theorem keyed_iff {values : List (Option Value)} : Keyed names strict entries values ↔
    IsRecord names strict entries ∧
      values = (List.range names.length).map fun i => valueOf names i entries := by
  constructor
  · intro h
    refine ⟨⟨h.known, fun i hi => ?_⟩, List.ext_getElem (by simp [h.length]) fun i hi hi' => ?_⟩
    · rw [h.single i hi]
      cases values[i]?.join <;> simp
    · rw [List.getElem_map, List.getElem_range, valueOf, h.single i (h.length ▸ hi),
        List.getElem?_eq_getElem hi, Option.join_some]
      cases values[i] <;> rfl
  · rintro ⟨h, rfl⟩
    refine ⟨by simp, h.known, fun i hi => ?_⟩
    rw [List.getElem?_map, List.getElem?_range hi, Option.map_some, Option.join_some, valueOf,
      toList_head? (h.once i hi)]

/-- **What a mapping is read as**: the values of the names, if it can be read as a record of them. -/
theorem record?_mapping {values : List (Option Value)} :
    record? names strict (.mapping entries) = some values ↔ IsRecord names strict entries ∧
      values = (List.range names.length).map fun i => valueOf names i entries := by
  rw [record?, keyed?_eq_some_iff, keyed_iff]

end

/-! ## Fields -/

/-- The names in a relation. -/
def relationNames : List String := ["name", "type", "required", "relation"]

/-- The names in a column. -/
def columnNames : List String := ["name", "type", "required", "unique", "localized"]

/-- The names in what a relation refers to. -/
def targetNames : List String := ["table", "column", "kind", "onDelete", "onUpdate"]

/-- A mapping is read as a relation. -/
structure ReadsRelation (entries : List (Value × Value)) (r : Relation) : Prop where
  record : IsRecord relationNames false entries
  name : (valueOf relationNames 0 entries).bind string? = some r.name
  type : (valueOf relationNames 1 entries).bind string? = some r.type
  required : orDefault bool? false (valueOf relationNames 2 entries) = some r.required
  target : (valueOf relationNames 3 entries).bind target? = some r.target

/-- A mapping is read as a column. -/
structure ReadsColumn (entries : List (Value × Value)) (c : Column) : Prop where
  record : IsRecord columnNames true entries
  name : (valueOf columnNames 0 entries).bind string? = some c.name
  type : (valueOf columnNames 1 entries).bind string? = some c.type
  required : orDefault bool? false (valueOf columnNames 2 entries) = some c.required
  unique : orDefault bool? false (valueOf columnNames 3 entries) = some c.unique
  localized : orDefault bool? false (valueOf columnNames 4 entries) = some c.localized

/-- A mapping is read as what a relation refers to. -/
structure ReadsTarget (entries : List (Value × Value)) (t : Target) : Prop where
  record : IsRecord targetNames false entries
  table : (valueOf targetNames 0 entries).bind string? = some t.table
  column : orDefault string? "id" (valueOf targetNames 1 entries) = some t.column
  kind : (valueOf targetNames 2 entries).bind (word? relationKinds) = some t.oneToOne
  onDelete : action? false (valueOf targetNames 3 entries) = some t.onDelete
  onUpdate : action? false (valueOf targetNames 4 entries) = some t.onUpdate

section
variable {entries : List (Value × Value)}

/-- A value that may not be missing is read. -/
theorem needed_eq_some_iff {α β : Type} {o : Option Value} {read : Value → Option α}
    {f : α → Option β} {b : β} :
    (o.bind fun v => (read v).bind f) = some b ↔ ∃ a, o.bind read = some a ∧ f a = some b := by
  rw [← Option.bind_assoc, Option.bind_eq_some_iff]

/-- **Which mappings are read as a relation.** -/
theorem relation?_mapping {r : Relation} :
    relation? (.mapping entries) = some r ↔ ReadsRelation entries r := by
  constructor
  · intro h
    obtain ⟨_, hvalues, h⟩ := Option.bind_eq_some_iff.1 h
    obtain ⟨hrecord, rfl⟩ := record?_mapping.1 hvalues
    obtain ⟨_, hname, h⟩ := needed_eq_some_iff.1 h
    obtain ⟨_, htype, h⟩ := needed_eq_some_iff.1 h
    obtain ⟨_, hrequired, h⟩ := Option.bind_eq_some_iff.1 h
    obtain ⟨_, htarget, h⟩ := needed_eq_some_iff.1 h
    cases h
    exact ⟨hrecord, hname, htype, hrequired, htarget⟩
  · rintro ⟨hrecord, hname, htype, hrequired, htarget⟩
    refine Option.bind_eq_some_iff.2 ⟨_, record?_mapping.2 ⟨hrecord, rfl⟩, ?_⟩
    refine needed_eq_some_iff.2 ⟨_, hname, needed_eq_some_iff.2 ⟨_, htype, ?_⟩⟩
    exact Option.bind_eq_some_iff.2 ⟨_, hrequired, needed_eq_some_iff.2 ⟨_, htarget, rfl⟩⟩

/-- **Which mappings are read as a column.** -/
theorem column?_mapping {c : Column} :
    column? (.mapping entries) = some c ↔ ReadsColumn entries c := by
  constructor
  · intro h
    obtain ⟨_, hvalues, h⟩ := Option.bind_eq_some_iff.1 h
    obtain ⟨hrecord, rfl⟩ := record?_mapping.1 hvalues
    obtain ⟨_, hname, h⟩ := needed_eq_some_iff.1 h
    obtain ⟨_, htype, h⟩ := needed_eq_some_iff.1 h
    obtain ⟨_, hrequired, h⟩ := Option.bind_eq_some_iff.1 h
    obtain ⟨_, hunique, h⟩ := Option.bind_eq_some_iff.1 h
    obtain ⟨_, hlocalized, h⟩ := Option.bind_eq_some_iff.1 h
    cases h
    exact ⟨hrecord, hname, htype, hrequired, hunique, hlocalized⟩
  · rintro ⟨hrecord, hname, htype, hrequired, hunique, hlocalized⟩
    refine Option.bind_eq_some_iff.2 ⟨_, record?_mapping.2 ⟨hrecord, rfl⟩, ?_⟩
    refine needed_eq_some_iff.2 ⟨_, hname, needed_eq_some_iff.2 ⟨_, htype, ?_⟩⟩
    refine Option.bind_eq_some_iff.2 ⟨_, hrequired, Option.bind_eq_some_iff.2 ⟨_, hunique, ?_⟩⟩
    exact Option.bind_eq_some_iff.2 ⟨_, hlocalized, rfl⟩

/-- **Which mappings are read as what a relation refers to.** -/
theorem target?_mapping {t : Target} :
    target? (.mapping entries) = some t ↔ ReadsTarget entries t := by
  constructor
  · intro h
    obtain ⟨_, hvalues, h⟩ := Option.bind_eq_some_iff.1 h
    obtain ⟨hrecord, rfl⟩ := record?_mapping.1 hvalues
    obtain ⟨_, htable, h⟩ := needed_eq_some_iff.1 h
    obtain ⟨_, hcolumn, h⟩ := Option.bind_eq_some_iff.1 h
    obtain ⟨_, hkind, h⟩ := needed_eq_some_iff.1 h
    obtain ⟨_, hdelete, h⟩ := Option.bind_eq_some_iff.1 h
    obtain ⟨_, hupdate, h⟩ := Option.bind_eq_some_iff.1 h
    cases h
    exact ⟨hrecord, htable, hcolumn, hkind, hdelete, hupdate⟩
  · rintro ⟨hrecord, htable, hcolumn, hkind, hdelete, hupdate⟩
    refine Option.bind_eq_some_iff.2 ⟨_, record?_mapping.2 ⟨hrecord, rfl⟩, ?_⟩
    refine needed_eq_some_iff.2 ⟨_, htable, Option.bind_eq_some_iff.2 ⟨_, hcolumn, ?_⟩⟩
    refine needed_eq_some_iff.2 ⟨_, hkind, Option.bind_eq_some_iff.2 ⟨_, hdelete, ?_⟩⟩
    exact Option.bind_eq_some_iff.2 ⟨_, hupdate, rfl⟩

/-! ## Keys -/

/-- A key that is one of some names, or the position of one. -/
def StandsFor (names : List String) (i : Nat) (k : Value) : Prop :=
  (∃ name, names[i]? = some name ∧ k = .string name) ∨ k = .whole i

theorem keyIndex?_eq_some_iff {names : List String} (hnames : names.Nodup) {i : Nat}
    (hi : i < names.length) {k : Value} : keyIndex? names k = some i ↔ StandsFor names i k := by
  cases k with
  | string s =>
    rw [keyIndex?, Option.some.injEq, StandsFor, List.getElem?_eq_getElem hi]
    constructor
    · rintro rfl
      have hfound := List.findIdx_getElem (w := hi)
      exact .inl ⟨_, rfl, congrArg _ (beq_iff_eq.1 hfound).symm⟩
    · rintro (⟨_, hname, hs⟩ | hs)
      · cases hname
        cases hs
        exact hnames.idxOf_getElem i hi
      · cases hs
  | whole n => simp [keyIndex?, StandsFor]
  | _ => simp [keyIndex?, StandsFor]

/-- The value of a name is the value of an entry whose key stands for it. -/
theorem mem_of_valueOf {names : List String} (hnames : names.Nodup) {i : Nat} (hi : i < names.length)
    {v : Value} (h : valueOf names i entries = some v) :
    ∃ k, (k, v) ∈ entries ∧ StandsFor names i k := by
  have hmem : v ∈ valuesOf names i entries := List.mem_of_mem_head? h
  rw [valuesOf, List.mem_map] at hmem
  obtain ⟨e, he, rfl⟩ := hmem
  obtain ⟨he, hkey⟩ := List.mem_filter.1 he
  exact ⟨e.1, he, (keyIndex?_eq_some_iff hnames hi).1 (beq_iff_eq.1 hkey)⟩

/-- An entry whose key stands for a name holds the value of the name. -/
theorem valueOf_of_mem {names : List String} {strict : Bool} (hnames : names.Nodup) {i : Nat}
    (hi : i < names.length) (hrecord : IsRecord names strict entries) {k v : Value}
    (he : (k, v) ∈ entries) (hk : StandsFor names i k) : valueOf names i entries = some v := by
  have hmem : v ∈ valuesOf names i entries :=
    List.mem_map.2 ⟨(k, v), List.mem_filter.2
      ⟨he, beq_iff_eq.2 ((keyIndex?_eq_some_iff hnames hi).2 hk)⟩, rfl⟩
  match hvalues : valuesOf names i entries, hrecord.once i hi with
  | [], _ => simp [hvalues] at hmem
  | [w], _ =>
    rw [hvalues, List.mem_singleton] at hmem
    rw [valueOf, hvalues, hmem, List.head?_cons]

/-! ## Telling them apart -/

/-- What a relation refers to is read from a mapping, or from a sequence of all five values. -/
inductive RefersTo : Value → Target → Prop
  | mapping {es : List (Value × Value)} {t : Target} (h : ReadsTarget es t) : RefersTo (.mapping es) t
  | sequence {a b c x y : Value} {t : Target} (table : string? a = some t.table)
      (column : string? b = some t.column) (kind : word? relationKinds c = some t.oneToOne)
      (onDelete : action? true (some x) = some t.onDelete)
      (onUpdate : action? true (some y) = some t.onUpdate) : RefersTo (.sequence [a, b, c, x, y]) t

/-- Of a sequence nothing may be left out: the action on updates has no default there. -/
theorem five_of_target? {items : List Value} {t : Target} (h : target? (.sequence items) = some t) :
    ∃ a b c x y, items = [a, b, c, x, y] := by
  have hlength : items.length ≤ 5 := by
    obtain ⟨_, hvalues, -⟩ := Option.bind_eq_some_iff.1 h
    exact (Option.ite_none_right_eq_some.1 hvalues).1
  match items with
  | [a, b, c, x, y] => exact ⟨a, b, c, x, y, rfl⟩
  | [] | [_] | [_, _] | [_, _, _] | [_, _, _, _] =>
    simp [target?, record?, action?, isSequence] at h
  | _ :: _ :: _ :: _ :: _ :: _ :: _ =>
    simp only [List.length_cons] at hlength
    omega

theorem target?_eq_some_iff {v : Value} {t : Target} : target? v = some t ↔ RefersTo v t := by
  constructor
  · intro h
    match v with
    | .mapping es => exact .mapping (target?_mapping.1 h)
    | .sequence items =>
      obtain ⟨a, b, c, x, y, rfl⟩ := five_of_target? h
      obtain ⟨_, htable, h⟩ := Option.bind_eq_some_iff.1 h
      obtain ⟨_, hcolumn, h⟩ := Option.bind_eq_some_iff.1 h
      obtain ⟨_, hkind, h⟩ := needed_eq_some_iff.1 h
      obtain ⟨_, hdelete, h⟩ := Option.bind_eq_some_iff.1 h
      obtain ⟨_, hupdate, h⟩ := Option.bind_eq_some_iff.1 h
      cases h
      exact .sequence htable hcolumn hkind hdelete hupdate
    | .null | .bool _ | .whole _ | .number | .string _ => cases h
  · rintro (h | @⟨a, b, c, x, y, _, htable, hcolumn, hkind, hdelete, hupdate⟩)
    · exact target?_mapping.2 h
    · refine Option.bind_eq_some_iff.2 ⟨_, htable, Option.bind_eq_some_iff.2 ⟨_, hcolumn, ?_⟩⟩
      refine needed_eq_some_iff.2 ⟨_, hkind, Option.bind_eq_some_iff.2 ⟨_, hdelete, ?_⟩⟩
      exact Option.bind_eq_some_iff.2 ⟨_, hupdate, rfl⟩

/-- A relation and a column are not read from the same mapping. -/
theorem reads_exclusive {r : Relation} {c : Column} (hr : ReadsRelation entries r)
    (hc : ReadsColumn entries c) : False := by
  obtain ⟨v, hv, htarget⟩ := Option.bind_eq_some_iff.1 hr.target
  obtain ⟨k, he, hk⟩ := mem_of_valueOf (by decide) (by decide) hv
  obtain ⟨name, hname, rfl⟩ | rfl := hk
  · obtain ⟨i, hi, hknown⟩ := hc.record.known _ he
    cases hname
    cases hi
    exact absurd (hknown rfl) (by decide)
  · have hunique := hc.unique
    rw [valueOf_of_mem (i := 3) (by decide) (by decide) hc.record he (.inr rfl)] at hunique
    cases v with
    | bool b => cases htarget
    | _ => cases hunique

theorem field?_eq_relation {r : Relation} :
    field? (.mapping entries) = some (.relation r) ↔ ReadsRelation entries r := by
  rw [← relation?_mapping, field?]
  cases relation? (.mapping entries) <;> cases column? (.mapping entries) <;> simp

theorem field?_eq_column {c : Column} :
    field? (.mapping entries) = some (.column c) ↔ ReadsColumn entries c := by
  rw [← column?_mapping, field?]
  cases hr : relation? (.mapping entries) with
  | none => cases column? (.mapping entries) <;> simp
  | some r =>
    refine iff_of_false (by simp) fun hc => ?_
    exact reads_exclusive (relation?_mapping.1 hr) (column?_mapping.1 hc)

end

section
variable {entries : List (Value × Value)} {f : Field}

/-- **How the keys of a mapping tell what field it is.** A number among the keys stands for the name at
its place: 3 for that of what a relation refers to, and in a column for that of uniqueness. -/
structure ToldApart (entries : List (Value × Value)) (f : Field) : Prop where
  relation_iff : ∀ r, f = .relation r ↔ ReadsRelation entries r
  column_iff : ∀ c, f = .column c ↔ ReadsColumn entries c
  relation_of_key : ∀ v, (.string "relation", v) ∈ entries →
    ∃ r, f = .relation r ∧ RefersTo v r.target
  key_of_relation : ∀ r, f = .relation r →
    ∃ k v, (k, v) ∈ entries ∧ StandsFor relationNames 3 k ∧ RefersTo v r.target
  keys_of_column : ∀ c, f = .column c → ∀ e ∈ entries, ∃ i < 5, StandsFor columnNames i e.1
  /-- Without numbers among the keys it is the name that tells. -/
  named : (∀ n v, (.whole n, v) ∉ entries) →
    ((∃ r, f = .relation r) ↔ ∃ v, (.string "relation", v) ∈ entries) ∧
    ((∀ v, (.string "relation", v) ∉ entries) →
      ∀ e ∈ entries, ∃ name ∈ columnNames, e.1 = .string name)

theorem relation_of_key {v : Value} (h : field? (.mapping entries) = some f)
    (hkey : (.string "relation", v) ∈ entries) : ∃ r, f = .relation r ∧ RefersTo v r.target := by
  cases f with
  | column c =>
    obtain ⟨i, hi, hknown⟩ := (field?_eq_column.1 h).record.known _ hkey
    cases hi
    exact absurd (hknown rfl) (by decide)
  | relation r =>
    have hr := field?_eq_relation.1 h
    have htarget := hr.target
    rw [valueOf_of_mem (i := 3) (by decide) (by decide) hr.record hkey (.inl ⟨_, rfl, rfl⟩)] at htarget
    exact ⟨r, rfl, target?_eq_some_iff.1 htarget⟩

theorem key_of_relation {r : Relation} (h : field? (.mapping entries) = some (.relation r)) :
    ∃ k v, (k, v) ∈ entries ∧ StandsFor relationNames 3 k ∧ RefersTo v r.target := by
  obtain ⟨v, hv, htarget⟩ := Option.bind_eq_some_iff.1 (field?_eq_relation.1 h).target
  obtain ⟨k, he, hk⟩ := mem_of_valueOf (by decide) (by decide) hv
  exact ⟨k, v, he, hk, target?_eq_some_iff.1 htarget⟩

theorem keys_of_column {c : Column} (h : field? (.mapping entries) = some (.column c)) :
    ∀ e ∈ entries, ∃ i < 5, StandsFor columnNames i e.1 := by
  intro e he
  obtain ⟨i, hi, hknown⟩ := (field?_eq_column.1 h).record.known e he
  exact ⟨i, hknown rfl, (keyIndex?_eq_some_iff (by decide) (hknown rfl)).1 hi⟩

/-- A key that is not a number stands for a name only by being it. -/
theorem StandsFor.name {names : List String} {i : Nat} {k : Value} (h : StandsFor names i k)
    (hk : ∀ n, k ≠ .whole n) : ∃ name, names[i]? = some name ∧ k = .string name :=
  h.resolve_right (hk i)

theorem told_apart (h : field? (.mapping entries) = some f) : ToldApart entries f := by
  refine ⟨fun r => ?_, fun c => ?_, fun v => relation_of_key h, ?_, ?_, fun hnumbers => ⟨⟨?_, ?_⟩, ?_⟩⟩
  · rw [← field?_eq_relation, h, Option.some.injEq]
  · rw [← field?_eq_column, h, Option.some.injEq]
  · rintro r rfl
    exact key_of_relation h
  · rintro c rfl
    exact keys_of_column h
  · rintro ⟨r, rfl⟩
    obtain ⟨k, v, he, hk, -⟩ := key_of_relation h
    obtain ⟨name, hname, rfl⟩ := hk.name fun n hn => hnumbers n v (hn ▸ he)
    cases hname
    exact ⟨v, he⟩
  · rintro ⟨v, hv⟩
    obtain ⟨r, hr, -⟩ := relation_of_key h hv
    exact ⟨r, hr⟩
  · intro hno e he
    cases f with
    | relation r =>
      obtain ⟨k, v, he, hk, -⟩ := key_of_relation h
      obtain ⟨name, hname, rfl⟩ := hk.name fun n hn => hnumbers n v (hn ▸ he)
      cases hname
      exact absurd he (hno v)
    | column c =>
      obtain ⟨i, -, hk⟩ := keys_of_column h e he
      obtain ⟨name, hname, hkey⟩ := hk.name fun n hn => hnumbers n e.2 (hn ▸ he)
      exact ⟨name, List.mem_of_getElem? hname, hkey⟩

end

/-! ## Documents -/

/-- The nodes of the tables of a document. -/
def tableNodes? (text : String) : Option (List Node) := do
  list? (← (← keyNode? "tables" (← entries? (← Node.parse? text))))

/-- The name of a table. -/
def tableName? (n : Node) : Option String := do text? (← (← keyNode? "name" (← entries? n)))

/-- The nodes of the fields of a table. -/
def fieldNodes? (n : Node) : Option (List Node) := do
  match ← keyNode? "fields" (← entries? n) with
  | some f => list? f
  | none => some []

/-- The node of the `j`-th field of the `i`-th table of a document. -/
def fieldNode? (text : String) (i j : Nat) : Option Node := do
  (← fieldNodes? (← (← tableNodes? text)[i]?))[j]?

/-- The `j`-th field of the `i`-th table. -/
def fieldAt? (d : Document) (i j : Nat) : Option Field := do (← d.tables[i]?).fields[j]?

/-- A node is read as a field. -/
def ReadsField (n : Node) (f : Field) : Prop := ∃ v, n.value? = some v ∧ field? v = some f

/-- A node is read as a table. -/
structure ReadsTable (n : Node) (t : Table) : Prop where
  name : tableName? n = some t.name
  fields : ∃ nodes, fieldNodes? n = some nodes ∧ List.Forall₂ ReadsField nodes t.fields

/-- A table is its name and the fields of its nodes. -/
theorem table?_eq (n : Node) : table? n = (tableName? n).bind fun name =>
    (fieldNodes? n).bind fun nodes =>
      (nodes.mapM fun f : Node => f.value?.bind field?).map (Table.mk name) := by
  rw [table?, tableName?, fieldNodes?]
  rcases entries? n with - | entries
  · rfl
  simp only [Option.bind_eq_bind, Option.bind_some]
  rcases keyNode? "name" entries with - | - | key
  · rfl
  · rfl
  simp only [Option.bind_some]
  rcases text? key with - | name
  · rfl
  rcases keyNode? "fields" entries with - | - | f
  · rfl
  · rfl
  simp only [Option.bind_some]
  rcases list? f with - | nodes
  · rfl
  · simp only [Option.bind_some, Option.map_eq_bind]
    rfl

theorem table?_eq_some_iff {n : Node} {t : Table} : table? n = some t ↔ ReadsTable n t := by
  have hfield : ∀ n f, n.value?.bind field? = some f ↔ ReadsField n f :=
    fun _ _ => Option.bind_eq_some_iff
  rw [table?_eq, Option.bind_eq_some_iff]
  constructor
  · rintro ⟨name, hname, h⟩
    obtain ⟨nodes, hnodes, h⟩ := Option.bind_eq_some_iff.1 h
    obtain ⟨fields, hfields, rfl⟩ := Option.map_eq_some_iff.1 h
    exact ⟨hname, nodes, hnodes, (mapM_eq_some.1 hfields).imp fun n f => (hfield n f).1⟩
  · rintro ⟨hname, nodes, hnodes, hfields⟩
    refine ⟨_, hname, Option.bind_eq_some_iff.2 ⟨nodes, hnodes, Option.map_eq_some_iff.2 ?_⟩⟩
    exact ⟨_, mapM_eq_some.2 (hfields.imp fun n f => (hfield n f).2), rfl⟩

/-- **What a document is read as**: one table for each node of a table, with one field for each node of
a field; nothing, if one of the nodes cannot be read. -/
theorem parse?_eq_some_iff {text : String} {d : Document} : parse? text = some d ↔
    ∃ nodes, tableNodes? text = some nodes ∧ List.Forall₂ ReadsTable nodes d.tables := by
  have hparse : parse? text =
      (tableNodes? text).bind fun nodes => (nodes.mapM table?).map Document.mk := by
    simp only [parse?, ofNode?, tableNodes?, Option.bind_eq_bind, Option.bind_assoc,
      Option.map_eq_bind]
    rfl
  rw [hparse, Option.bind_eq_some_iff]
  refine exists_congr fun nodes => and_congr_right fun _ => ?_
  rw [Option.map_eq_some_iff]
  constructor
  · rintro ⟨tables, htables, rfl⟩
    exact (mapM_eq_some.1 htables).imp fun _ _ => table?_eq_some_iff.1
  · intro h
    exact ⟨_, mapM_eq_some.2 (h.imp fun _ _ => table?_eq_some_iff.2), rfl⟩

/-- A document is accepted as soon as each of its nodes can be read. -/
theorem exists_parse?_iff {text : String} : (∃ d, parse? text = some d) ↔
    ∃ tables, tableNodes? text = some tables ∧ ∀ n ∈ tables, ∃ name nodes,
      tableName? n = some name ∧ fieldNodes? n = some nodes ∧ ∀ m ∈ nodes, ∃ f, ReadsField m f := by
  have htable : ∀ n, (∃ t, ReadsTable n t) ↔ ∃ name nodes, tableName? n = some name ∧
      fieldNodes? n = some nodes ∧ ∀ m ∈ nodes, ∃ f, ReadsField m f := by
    intro n
    constructor
    · rintro ⟨t, hname, nodes, hnodes, hfields⟩
      exact ⟨t.name, nodes, hname, hnodes, exists_forall₂_iff.1 ⟨_, hfields⟩⟩
    · rintro ⟨name, nodes, hname, hnodes, h⟩
      obtain ⟨fields, hfields⟩ := exists_forall₂_iff.2 h
      exact ⟨⟨name, fields⟩, hname, nodes, hnodes, hfields⟩
  simp only [parse?_eq_some_iff, ← htable]
  simp only [← exists_forall₂_iff]
  constructor
  · rintro ⟨d, tables, htables, h⟩
    exact ⟨tables, htables, d.tables, h⟩
  · rintro ⟨tables, htables, ts, h⟩
    exact ⟨⟨ts⟩, tables, htables, h⟩

/-- A field of an accepted document is what its node is read as. -/
theorem readsField_of_parse? {text : String} {d : Document} {i j : Nat} {n : Node}
    (hd : parse? text = some d) (h : fieldNode? text i j = some n) :
    ∃ f, fieldAt? d i j = some f ∧ ReadsField n f := by
  obtain ⟨tables, htables, hread⟩ := parse?_eq_some_iff.1 hd
  obtain ⟨_, hnodes, h⟩ := Option.bind_eq_some_iff.1 h
  cases htables.symm.trans hnodes
  obtain ⟨m, hm, h⟩ := Option.bind_eq_some_iff.1 h
  obtain ⟨t, ht, hreads⟩ := forall₂_getElem? hread hm
  obtain ⟨_, hfields, h⟩ := Option.bind_eq_some_iff.1 h
  obtain ⟨nodes, hnodes, hall⟩ := hreads.fields
  cases hnodes.symm.trans hfields
  obtain ⟨f, hf, hfield⟩ := forall₂_getElem? hall h
  exact ⟨f, Option.bind_eq_some_iff.2 ⟨t, ht, hf⟩, hfield⟩

/-- The value of a mapping is a mapping. -/
theorem value?_mapping {nodes : List (Node × Node)} {tag : Option String} {v : Value}
    (h : (Node.mapping nodes tag).value? = some v) : ∃ entries, v = .mapping entries := by
  rw [Node.value?] at h
  split_ifs at h
  · obtain ⟨entries, -, rfl⟩ := Option.map_eq_some_iff.1 h
    exact ⟨entries, rfl⟩

/-- **The fields of a document are told apart by the relation among their keys**, as long as no number
stands for a key: an accepted document has a field for the mapping that is told apart by its entries.
The document is accepted exactly if its tables have names and lists of fields, and every node of a field
can be read; a mapping can be read if it reads as a relation or as a column. -/
theorem fields_told_apart {text : String} {i j : Nat} {nodes : List (Node × Node)}
    {tag : Option String} (h : fieldNode? text i j = some (.mapping nodes tag)) :
    (∀ d, parse? text = some d → ∃ entries f,
      (Node.mapping nodes tag).value? = some (.mapping entries) ∧ fieldAt? d i j = some f ∧
      ToldApart entries f) ∧
    ((∃ d, parse? text = some d) ↔
      ∃ tables, tableNodes? text = some tables ∧ ∀ n ∈ tables, ∃ name ms,
        tableName? n = some name ∧ fieldNodes? n = some ms ∧ ∀ m ∈ ms, ∃ f, ReadsField m f) ∧
    ((∃ f, ReadsField (.mapping nodes tag) f) ↔ ∃ entries,
      (Node.mapping nodes tag).value? = some (.mapping entries) ∧
      ((∃ r, ReadsRelation entries r) ∨ ∃ c, ReadsColumn entries c)) := by
  refine ⟨fun d hd => ?_, exists_parse?_iff, ?_, ?_⟩
  · obtain ⟨f, hf, v, hv, hfield⟩ := readsField_of_parse? hd h
    obtain ⟨entries, rfl⟩ := value?_mapping hv
    exact ⟨entries, f, hv, hf, told_apart hfield⟩
  · rintro ⟨f, v, hv, hfield⟩
    obtain ⟨entries, rfl⟩ := value?_mapping hv
    refine ⟨entries, hv, ?_⟩
    cases f with
    | relation r => exact .inl ⟨r, field?_eq_relation.1 hfield⟩
    | column c => exact .inr ⟨c, field?_eq_column.1 hfield⟩
  · rintro ⟨entries, hv, ⟨r, hr⟩ | ⟨c, hc⟩⟩
    · exact ⟨_, _, hv, field?_eq_relation.2 hr⟩
    · exact ⟨_, _, hv, field?_eq_column.2 hc⟩

/-- A table with a relation to itself. -/
def namedText : String :=
  "tables: [\x7bname: t, fields: [\x7bname: up, type: INT, relation: \x7btable: t, kind: one-to-one\x7d\x7d]\x7d]"

/-- The same table, with the number of the relation as its key. -/
def numberedText : String :=
  "tables: [\x7bname: t, fields: [\x7bname: up, type: INT, 3: \x7btable: t, kind: one-to-one\x7d\x7d]\x7d]"

/-- The relation of the table to itself. -/
def upward : Relation := ⟨"up", "INT", false, ⟨"t", "id", true, none, none⟩⟩

/-- The texts among the keys of a mapping. -/
def textKeys? (n : Node) : Option (List String) := do
  let _ ← entries? n
  match ← n.value? with
  | .mapping entries => some (entries.filterMap fun e => string? e.1)
  | _ => none

theorem mapping_of_textKeys? {o : Option Node} {keys : List String} (h : o.bind textKeys? = some keys) :
    ∃ nodes tag entries, o = some (.mapping nodes tag) ∧
      (Node.mapping nodes tag).value? = some (.mapping entries) ∧
      ∀ name v, (.string name, v) ∈ entries → name ∈ keys := by
  obtain ⟨n, rfl, hn⟩ := Option.bind_eq_some_iff.1 h
  obtain ⟨_, hentries, hn⟩ := Option.bind_eq_some_iff.1 hn
  obtain ⟨v, hv, hn⟩ := Option.bind_eq_some_iff.1 hn
  match n with
  | .mapping nodes tag =>
    obtain ⟨entries, rfl⟩ := value?_mapping hv
    cases hn
    exact ⟨nodes, tag, entries, rfl, hv, fun name v he => List.mem_filterMap.2 ⟨_, he, rfl⟩⟩

theorem named_relation_read : ∃ nodes tag entries f,
    fieldNode? namedText 0 0 = some (.mapping nodes tag) ∧
    (Node.mapping nodes tag).value? = some (.mapping entries) ∧
    parse? namedText = some ⟨[⟨"t", [f]⟩]⟩ ∧ ToldApart entries f ∧ f = .relation upward := by
  have ⟨hkeys, hparse⟩ :
      (fieldNode? namedText 0 0).bind textKeys? = some ["name", "type", "relation"] ∧
      parse? namedText = some ⟨[⟨"t", [.relation upward]⟩]⟩ := by decide +kernel
  obtain ⟨nodes, tag, -, hnode, -⟩ := mapping_of_textKeys? hkeys
  obtain ⟨entries, f, hvalue, hf, htold⟩ := (fields_told_apart hnode).1 _ hparse
  cases hf
  exact ⟨nodes, tag, entries, _, hnode, hvalue, hparse, htold, rfl⟩

/-- A mapping without a relation among its keys is read as a relation. -/
theorem number_read_as_relation : ∃ nodes tag entries,
    fieldNode? numberedText 0 0 = some (.mapping nodes tag) ∧
    (Node.mapping nodes tag).value? = some (.mapping entries) ∧
    (∀ v, (.string "relation", v) ∉ entries) ∧
    parse? numberedText = some ⟨[⟨"t", [.relation upward]⟩]⟩ := by
  have ⟨hkeys, hparse⟩ : (fieldNode? numberedText 0 0).bind textKeys? = some ["name", "type"] ∧
      parse? numberedText = some ⟨[⟨"t", [.relation upward]⟩]⟩ := by decide +kernel
  obtain ⟨nodes, tag, entries, hnode, hvalue, hall⟩ := mapping_of_textKeys? hkeys
  refine ⟨nodes, tag, entries, hnode, hvalue, fun v hv => ?_, hparse⟩
  exact absurd (hall _ v hv) (by decide)

end TableService.Schema.Document
