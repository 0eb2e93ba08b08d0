/-
  The locales of a service, and the columns that it has for them.

  * `Localization.IsFirsts`: some texts without repeats, in the order in which each is first there;
    `isFirsts_firsts`: this is what a localization keeps of its locales, and `check_again`: it keeps
    all of what it has kept.
  * `nodup_columnNames`: the columns of a localized field have distinct names.
  * `Table.sound_iff`: a table can be compiled exactly if its fields can be and no two of them ask
    for the same column; `refused_iff_collision` says so of a document.
  * `localized_columns`: which locales can be used, what is kept of them, and that a column of a
    localized field is no other field's.  A localized field has no column of its own name, so that
    name is free.
-/
import Mathlib.Data.List.DropRight
import TableService.Proofs.Schema.Faults

namespace TableService

/-! ## Blanks at the ends -/

namespace Text

theorem stripBoth_eq_rdropWhile (p : Char → Bool) (cs : List Char) :
    stripBoth p cs = (cs.dropWhile p).rdropWhile p := rfl

/-- What has no such characters at its ends has none left to drop. -/
theorem stripBoth_stripBoth (p : Char → Bool) (cs : List Char) :
    stripBoth p (stripBoth p cs) = stripBoth p cs := by
  have hfront : ((cs.dropWhile p).rdropWhile p).dropWhile p = (cs.dropWhile p).rdropWhile p := by
    refine List.dropWhile_eq_self_iff.2 fun hl => ?_
    -- the first character is that of the text without what is dropped in front
    have hinit := List.rdropWhile_prefix p (l := cs.dropWhile p)
    rw [hinit.getElem hl]
    exact List.dropWhile_get_zero_not p cs (Nat.lt_of_lt_of_le hl hinit.length_le)
  rw [stripBoth_eq_rdropWhile, stripBoth_eq_rdropWhile, hfront, List.rdropWhile_idempotent]

theorem trim_trim (s : String) : trim (trim s) = trim s := by
  rw [trim, trim, String.toList_ofList, stripBoth_stripBoth]

end Text

namespace Localization

/-! ## Locales -/

/-- These are the texts of a list, each once, in the order in which they are first there. -/
structure IsFirsts (l kept : List String) : Prop where
  mem_iff : ∀ s, s ∈ kept ↔ s ∈ l
  distinct : kept.Nodup
  ordered : kept.Pairwise fun s t => l.idxOf s < l.idxOf t

theorem mem_firsts {s : String} {l : List String} : s ∈ firsts l ↔ s ∈ l := by
  induction l with
  | nil => rfl
  | cons a l ih =>
    rw [firsts, List.mem_cons, List.mem_cons, List.mem_filter, ih]
    by_cases h : s = a <;> simp [h]

/-- **Of equal texts the first is kept.** -/
theorem isFirsts_firsts (l : List String) : IsFirsts l (firsts l) where
  mem_iff _ := mem_firsts
  distinct := nodup_firsts l
  ordered := by
    induction l with
    | nil => exact .nil
    | cons a l ih =>
      rw [firsts, List.pairwise_cons]
      constructor
      · intro t ht
        have hne : a ≠ t := (of_decide_eq_true (List.mem_filter.1 ht).2).symm
        rw [List.idxOf_cons_self, List.idxOf_cons_ne _ hne]
        exact Nat.succ_pos _
      · refine (ih.filter _).imp_of_mem fun {s t} hs ht hlt => ?_
        have hs : a ≠ s := (of_decide_eq_true (List.mem_filter.1 hs).2).symm
        have ht : a ≠ t := (of_decide_eq_true (List.mem_filter.1 ht).2).symm
        rw [List.idxOf_cons_ne _ hs, List.idxOf_cons_ne _ ht]
        exact Nat.succ_lt_succ hlt

theorem firsts_eq_self {l : List String} (h : l.Nodup) : firsts l = l := by
  induction l with
  | nil => rfl
  | cons a l ih =>
    obtain ⟨ha, hl⟩ := List.nodup_cons.1 h
    rw [firsts, ih hl, List.filter_eq_self.2]
    intro s hs
    exact decide_eq_true (ne_of_mem_of_not_mem hs ha)

theorem check_eq_ok {locales : List String} {fallback : String} {l : Localization} :
    check locales fallback = .ok l ↔ "" ∉ locales.map Text.trim ∧
      l.locales = firsts (locales.map Text.trim) ∧ l.fallback = fallback := by
  unfold check
  constructor
  · intro h
    dsimp only at h
    split_ifs at h with hblank hnone hfallback
    cases h
    exact ⟨by simpa using hblank, rfl, rfl⟩
  · rintro ⟨hblank, hlocales, rfl⟩
    have hfallback : l.fallback ∈ firsts (locales.map Text.trim) := hlocales ▸ l.fallback_mem
    have hsome : ¬(firsts (locales.map Text.trim)).isEmpty = true := by
      simpa using List.ne_nil_of_mem hfallback
    dsimp only
    rw [if_neg (by simpa using hblank), if_neg hsome, dif_pos hfallback]
    obtain ⟨kept, fallback, _, _⟩ := l
    obtain rfl : kept = firsts (locales.map Text.trim) := hlocales
    rfl

/-- **Locales can be used** exactly if none is blank, there is one, and one of them is that to fall
back to. -/
theorem check_ok_iff {locales : List String} {fallback : String} :
    (∃ l, check locales fallback = .ok l) ↔ (∀ s ∈ locales, Text.trim s ≠ "") ∧ locales ≠ [] ∧
      ∃ s ∈ locales, Text.trim s = fallback := by
  simp only [check_eq_ok]
  constructor
  · rintro ⟨l, hblank, hlocales, rfl⟩
    have hfallback : l.fallback ∈ firsts (locales.map Text.trim) := hlocales ▸ l.fallback_mem
    obtain ⟨s, hs, htrim⟩ := List.mem_map.1 (mem_firsts.1 hfallback)
    refine ⟨fun s hs hnone => hblank ?_, List.ne_nil_of_mem hs, s, hs, htrim⟩
    exact hnone ▸ List.mem_map_of_mem hs
  · rintro ⟨hblank, -, s, hs, rfl⟩
    refine ⟨⟨_, _, nodup_firsts _, mem_firsts.2 (List.mem_map_of_mem hs)⟩, ?_, rfl, rfl⟩
    rintro hnone
    obtain ⟨x, hx, htrim⟩ := List.mem_map.1 hnone
    exact hblank x hx htrim

/-- **What a localization has kept is kept again.** -/
theorem check_again {locales : List String} {fallback : String} {l : Localization}
    (h : check locales fallback = .ok l) : check l.locales l.fallback = .ok l := by
  obtain ⟨hblank, hlocales, rfl⟩ := check_eq_ok.1 h
  have htrimmed : l.locales.map Text.trim = l.locales := by
    refine (List.map_congr_left fun s hs => ?_).trans (List.map_id _)
    obtain ⟨x, -, rfl⟩ := List.mem_map.1 (mem_firsts.1 (hlocales ▸ hs))
    exact Text.trim_trim x
  refine check_eq_ok.2 ⟨?_, ?_, rfl⟩
  · rwa [htrimmed, hlocales, mem_firsts]
  · rw [htrimmed, firsts_eq_self l.distinct]

/-- The names of the columns of a field are distinct, as its locales are. -/
theorem nodup_columnNames (l : Localization) (field : String) : (l.columnNames field).Nodup := by
  refine l.distinct.map fun a b h => ?_
  simpa using h

end Localization

/-! ## Fields of one name -/

namespace Schema

variable {ctx : Context} {doc : Document}

/-- Two fields of the table ask for the same column. -/
def Table.Collides (ctx : Context) (t : Table) (name : String) : Prop :=
  ∃ (i j : Nat) (f g : Field), i ≠ j ∧ t.fields[i]? = some f ∧ t.fields[j]? = some g ∧
    name ∈ f.columnNames ctx ∧ name ∈ g.columnNames ctx

/-- A field alone does not repeat a column. -/
theorem Field.nodup_columnNames (f : Field) : (f.columnNames ctx).Nodup := by
  cases f with
  | column c =>
    rw [columnNames]
    split_ifs
    · cases ctx.localization with
      | none => exact .nil
      | some l => exact l.nodup_columnNames c.name
    · exact List.nodup_singleton _
  | relation r => exact List.nodup_singleton _

/-- **A table can be compiled** exactly if its fields can be and no two of them ask for the same
column. -/
theorem Table.sound_iff {declared : List String} {t : Table} : t.Sound ctx declared ↔
    (∀ f ∈ t.fields, f.Sound ctx declared) ∧ ∀ name, ¬t.Collides ctx name := by
  constructor
  · refine fun hsound => ⟨hsound.fields, ?_⟩
    have hdisjoint := List.pairwise_iff_getElem.1 (List.nodup_flatMap.1 hsound.distinct).2
    rintro name ⟨i, j, f, g, hne, hi, hj, hf, hg⟩
    obtain ⟨hil, rfl⟩ := List.getElem?_eq_some_iff.1 hi
    obtain ⟨hjl, rfl⟩ := List.getElem?_eq_some_iff.1 hj
    rcases Nat.lt_or_gt_of_ne hne with hlt | hlt
    · exact hdisjoint i j hil hjl hlt hf hg
    · exact hdisjoint j i hjl hil hlt hg hf
  · rintro ⟨hfields, hfree⟩
    refine ⟨hfields, List.nodup_flatMap.2 ⟨fun f _ => f.nodup_columnNames, ?_⟩⟩
    refine List.pairwise_iff_getElem.2 fun i j hil hjl hlt name hf hg => ?_
    exact hfree name ⟨i, j, _, _, Nat.ne_of_lt hlt, List.getElem?_eq_getElem hil,
      List.getElem?_eq_getElem hjl, hf, hg⟩

theorem columnFaults_of_valid {table : String} {e : PlanError} {ns taken : List String}
    (h : ∀ n ∈ ns, Identifier.Valid n) (he : e ∈ columnFaults table taken ns) :
    ∃ n ∈ ns, e = .repeatedField table n := by
  induction ns generalizing taken with
  | nil => exact absurd he List.not_mem_nil
  | cons n ns ih =>
    obtain ⟨hn, hns⟩ := List.forall_mem_cons.1 h
    rw [columnFaults, nameFaults_eq_nil.2 hn, List.nil_append, List.mem_append, mem_flag] at he
    rcases he with ⟨-, rfl⟩ | he
    · exact ⟨n, List.mem_cons_self, rfl⟩
    · obtain ⟨m, hm, rfl⟩ := ih hns he
      exact ⟨m, List.mem_cons_of_mem _ hm, rfl⟩

/-- A field that is sound has no faults but columns that are taken. -/
theorem Field.Sound.faults {declared : List String} {f : Field} (h : f.Sound ctx declared)
    {table : String} {taken : List String} {e : PlanError}
    (he : e ∈ f.faults ctx declared table taken) :
    ∃ n ∈ f.columnNames ctx, e = .repeatedField table n := by
  cases f with
  | column c =>
    obtain ⟨hkey, hlocated, hnames⟩ := Field.sound_column_iff.1 h
    simp only [Field.faults, flag_eq_nil.2 hlocated, List.nil_append, List.mem_append,
      mem_flag] at he
    rcases he with ⟨hc, -⟩ | he
    · exact absurd hc hkey
    · exact columnFaults_of_valid hnames he
  | relation r =>
    obtain ⟨hkey, hknown, hname, htable, hcolumn⟩ := Field.sound_relation_iff.1 h
    simp only [Field.faults, flag_eq_nil.2 hknown, nameFaults_eq_nil.2 hname,
      nameFaults_eq_nil.2 htable, nameFaults_eq_nil.2 hcolumn, List.nil_append, List.mem_append,
      mem_flag] at he
    rcases he with ⟨hr, -⟩ | ⟨-, rfl⟩
    · exact absurd hr hkey
    · exact ⟨r.name, List.mem_singleton_self _, rfl⟩

/-- **A document with fields that ask for the same column is refused.** -/
theorem refused_of_collision {t : Table} (ht : t ∈ doc.tables) {name : String}
    (h : t.Collides ctx name) : ∃ e, doc.plans ctx = .error e := by
  cases hplans : doc.plans ctx with
  | error e => exact ⟨e, rfl⟩
  | ok plans =>
    have hsound := Document.exists_plans_iff.1 ⟨plans, hplans⟩
    exact absurd h ((Table.sound_iff.1 (hsound.tables t ht)).2 name)

/-- **Where nothing else is wrong with a document**, it is refused exactly if fields ask for the
same column, and a repeated field is the reason. -/
theorem refused_iff_collision (hnames : doc.names.Nodup)
    (hfields : ∀ t ∈ doc.tables, ∀ f ∈ t.fields, f.Sound ctx doc.names) :
    ((∃ e, doc.plans ctx = .error e) ↔ ∃ t ∈ doc.tables, ∃ name, t.Collides ctx name) ∧
      ∀ e, doc.plans ctx = .error e → ∃ table name, e = .repeatedField table name := by
  refine ⟨⟨fun ⟨e, he⟩ => ?_, fun ⟨t, ht, name, h⟩ => refused_of_collision ht h⟩, fun e he => ?_⟩
  · by_contra hfree
    have hsound : doc.Sound ctx := ⟨hnames, fun t ht => Table.sound_iff.2
      ⟨hfields t ht, fun name h => hfree ⟨t, ht, name, h⟩⟩⟩
    obtain ⟨plans, hplans⟩ := Document.exists_plans_iff.2 hsound
    cases he.symm.trans hplans
  · cases Document.plans_eq_error.1 he with
    | repeated hne hsorted hmem =>
      obtain ⟨n, hn⟩ := List.exists_mem_of_ne_nil _ hne
      exact absurd ((hmem n).1 hn) (Nat.not_lt.2 (List.nodup_iff_count_le_one.1 hnames n))
    | @field before t after fs f gs _ _ htables hsplit _ _ hfault =>
      have ht : t ∈ doc.tables := by rw [htables]; simp
      have hf : f ∈ t.fields := by rw [hsplit]; simp
      obtain ⟨n, -, he⟩ := (hfields t ht f hf).faults (List.mem_of_mem_head? hfault)
      exact ⟨t.name, n, he⟩

/-- **The columns of a localized field.**  Locales can be used exactly if none is blank, there is
one and the fallback is one of them; each is kept once, where it is first, without the blanks at its
ends, and what is kept is kept again.  A localized field then has one column for each locale, named
by both, and these are distinct.  A document is refused where such a column is that of another field
of its table as well, be that for another locale or not; if nothing else is wrong with it, a
repeated field is the reason. -/
theorem localized_columns (locales : List String) (fallback : String) :
    ((∃ l, Localization.check locales fallback = .ok l) ↔
      (∀ s ∈ locales, Text.trim s ≠ "") ∧ locales ≠ [] ∧ ∃ s ∈ locales, Text.trim s = fallback) ∧
    ∀ l, Localization.check locales fallback = .ok l →
      (Localization.IsFirsts (locales.map Text.trim) l.locales ∧ l.fallback = fallback ∧
        Localization.check l.locales l.fallback = .ok l) ∧
      (∀ field, l.columnNames field = l.locales.map (fun locale => field ++ "_" ++ locale) ∧
        (l.columnNames field).Nodup) ∧
      ∀ (ctx : Context) (doc : Document), ctx.localization = some l → ∀ t ∈ doc.tables,
        ∀ (i j : Nat) (c : Column) (f : Field), i ≠ j → t.fields[i]? = some (.column c) →
          c.localized = true → t.fields[j]? = some f →
          ∀ locale ∈ l.locales, c.name ++ "_" ++ locale ∈ f.columnNames ctx →
            ∃ e, doc.plans ctx = .error e ∧ (doc.names.Nodup →
              (∀ u ∈ doc.tables, ∀ g ∈ u.fields, g.Sound ctx doc.names) →
              ∃ table name, e = .repeatedField table name) := by
  refine ⟨Localization.check_ok_iff, fun l hl => ⟨?_, ?_, ?_⟩⟩
  · obtain ⟨-, hlocales, hfallback⟩ := Localization.check_eq_ok.1 hl
    exact ⟨hlocales ▸ Localization.isFirsts_firsts _, hfallback, Localization.check_again hl⟩
  · exact fun field => ⟨rfl, l.nodup_columnNames field⟩
  · intro ctx doc hctx t ht i j c f hne hi hlocalized hj locale hlocale hf
    have hc : c.name ++ "_" ++ locale ∈ (Field.column c).columnNames ctx := by
      rw [Field.columnNames, if_pos hlocalized, hctx]
      exact List.mem_map_of_mem hlocale
    obtain ⟨e, he⟩ := refused_of_collision ht ⟨i, j, _, f, hne, hi, hj, hc, hf⟩
    exact ⟨e, he, fun hnames hfields => (refused_iff_collision hnames hfields).2 e he⟩

/-- English before French. -/
def englishFrench : Localization := ⟨["en", "fr"], "en", by decide, by decide⟩

/-- A table with a title for each locale and one more English title. -/
def titledTwice : Document :=
  ⟨[⟨"articles", [.column ⟨"title", "TEXT", false, false, true⟩,
    .column ⟨"title_en", "TEXT", false, false, false⟩]⟩]⟩

/-- The locale that is repeated but for a blank is kept once, and the second English title is
refused. -/
theorem second_title_refused :
    Localization.check [" en", "fr ", "en"] "en" = .ok englishFrench ∧
    Localization.IsFirsts ([" en", "fr ", "en"].map Text.trim) ["en", "fr"] ∧
    ∃ table name, titledTwice.plans ⟨[], some englishFrench⟩ =
      .error (.repeatedField table name) := by
  have hcheck : Localization.check [" en", "fr ", "en"] "en" = .ok englishFrench := by rfl
  obtain ⟨-, hok⟩ := localized_columns [" en", "fr ", "en"] "en"
  obtain ⟨⟨hfirsts, -⟩, -, hcollision⟩ := hok englishFrench hcheck
  have hsound : ∀ u ∈ titledTwice.tables, ∀ g ∈ u.fields,
      g.Sound ⟨[], some englishFrench⟩ titledTwice.names := by
    simp only [titledTwice, List.forall_mem_singleton, List.forall_mem_cons,
      Field.sound_column_iff, Identifier.Valid]
    decide +kernel
  obtain ⟨e, he, hwhy⟩ := hcollision ⟨[], some englishFrench⟩ titledTwice rfl _
    List.mem_cons_self 0 1 _ _ Nat.zero_ne_one rfl rfl rfl "en" List.mem_cons_self
    List.mem_cons_self
  obtain ⟨table, name, rfl⟩ := hwhy (List.nodup_singleton _) hsound
  exact ⟨hcheck, hfirsts, table, name, he⟩

end Schema

end TableService
