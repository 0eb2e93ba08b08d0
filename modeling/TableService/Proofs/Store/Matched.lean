/-
  Statements on the rows that match.

  * `Underway`: a statement in the middle, with the rows that its table has then.
  * `turns_underway`: each row that was picked is still there when its turn comes, where actions of
    foreign keys do not lead back to the table; `run_matched`: so a statement counts all of them,
    and does to each what it says.
  * `statements_agree_with_reads`: so does the text of a removal or an update, to the rows that a read
    finds; not so an update of a table whose constraints make rows make way, or go on without them
    (`labels_disagree`).
-/
import TableService.Proofs.Store.Leads
import TableService.Proofs.Store.Statement
import TableService.Proofs.Store.Update

namespace TableService.Store

open Relation

/-! ## Rows of a table -/

namespace Entries
variable {s : Entries} {e x : Entry}

theorem mem_iff : e ∈ s.list ↔ s.get? e.id = some e := by simp [get?_eq_some]

theorem nodup (s : Entries) : s.list.Nodup :=
  s.ascending.imp fun h he => Int64.ne_of_lt h (congrArg Entry.id he)

/-- One row more, by the keys. -/
theorem perm_cons {s' : Entries} (hnew : s'.get? e.id = none)
    (h : ∀ id, s.get? id = if e.id = id then some e else s'.get? id) :
    s.list.Perm (e :: s'.list) := by
  have hfresh : e ∉ s'.list := fun he => by rw [mem_iff.1 he] at hnew; cases hnew
  refine (List.perm_ext_iff_of_nodup s.nodup (List.nodup_cons.2 ⟨hfresh, s'.nodup⟩)).2 fun x => ?_
  rw [List.mem_cons, mem_iff, mem_iff, h]
  split_ifs with hid
  · rw [← hid, hnew]
    simp [eq_comm]
  · have hne : x ≠ e := fun hx => hid (hx ▸ rfl)
    simp [hne]

/-- Removing a row leaves the others. -/
theorem perm_erase (h : e ∈ s.list) : s.list.Perm (e :: (s.erase e.id).list) := by
  have hgone : (s.erase e.id).get? e.id = none := by rw [get?_erase, if_pos rfl]
  refine perm_cons hgone fun id => ?_
  rw [get?_erase]
  split_ifs with hid
  · rw [← hid, mem_iff.1 h]
  · rfl

/-- Adding a row with another key keeps the others. -/
theorem perm_put (h : s.get? e.id = none) : (s.put e).list.Perm (e :: s.list) :=
  perm_cons h (get?_put s e)

/-- Rows are in order, so the same rows are the same list. -/
theorem list_eq_of_perm {s' : Entries} {l : List Entry} (hl : l.Sublist s'.list)
    (h : s.list.Perm l) : s.list = l :=
  h.eq_of_pairwise (fun _ _ _ _ hab hba => absurd hba (Int64.not_lt.2 (Int64.le_of_lt hab)))
    s.ascending (s'.ascending.sublist hl)

end Entries

/-- What a change makes of the rows of its table. -/
theorem RowChange.perm_rows {x : RowChange} {s : Entries} {rest : List Entry}
    (h : s.list.Perm (x.old :: rest)) (hfree : ∀ e ∈ x.new, e.id = x.old.id ∨ s.get? e.id = none) :
    (x.rows s).list.Perm (x.new.toList ++ rest) := by
  have hold : x.old ∈ s.list := h.mem_iff.2 List.mem_cons_self
  have herased : (s.erase x.old.id).list.Perm rest :=
    ((Entries.perm_erase hold).symm.trans h).cons_inv
  unfold rows
  cases hnew : x.new with
  | none => exact herased
  | some e =>
    have hnone : (s.erase x.old.id).get? e.id = none := by
      rw [Entries.get?_erase]
      split_ifs with hid
      · rfl
      · exact (hfree e hnew).resolve_left (Ne.symm hid)
    exact (Entries.perm_put hnone).trans (herased.cons e)

/-! ## A statement in the middle -/

/-- The statement has made this change of a row that it picks. -/
def Change.Own (c : Change) (t : Table) (x : RowChange) : Prop :=
  x.table = t.name ∧ c.picks x.old = true ∧ c.deed.Makes t x.old x.new

/-- A statement has made some changes, after which its table has these rows. -/
structure Underway (s : Contents) (c : Change) (t : Table) (xs : List RowChange)
    (rows : List Entry) : Prop where
  /-- All changes are on tables to which the actions of foreign keys lead. -/
  led : ∀ x ∈ xs, ReflTransGen (Acts s) (struck t.name c.deed.fate) x.struck
  course : Course s (c.Own t) [] xs
  table : ∃ u, (s.after xs).find? t.name = some u ∧ u.layout = t.layout ∧ u.entries.list.Perm rows

theorem Underway.perm {s : Contents} {c : Change} {t : Table} {xs : List RowChange}
    {rows rows' : List Entry} (h : Underway s c t xs rows) (hrows : rows.Perm rows') :
    Underway s c t xs rows' := by
  obtain ⟨u, hu, hlayout, hperm⟩ := h.table
  exact ⟨h.led, h.course, u, hu, hlayout, hperm.trans hrows⟩

section
variable {s : Contents} {c : Change} {t : Table} {perform : Progress → Change → Except Fault Progress}
  (hperform : Traces s perform) (hdeed : c.deed ≠ .refuse)
  (hname : sameName c.table t.name = true) (hlone : ¬LeadsBack s t.name c.deed.fate)
include hperform hdeed hname hlone

/-- **The turn of a row that was picked**: it is still there, counts, and becomes what the deed
says; the other rows of the table stay. -/
theorem turn_underway {xs : List RowChange} {e : Entry} {rest : List Entry} {p p' : Progress}
    {n n' : Nat} (h : Underway s c t xs (e :: rest)) (hpicks : c.picks e = true)
    (hp : p.store = s.after xs)
    (hturn : c.turn (c.deed.row perform) (p, n) e = .ok (p', n')) :
    n' = n + 1 ∧ ∃ new ys, c.deed.Makes t e new ∧ p'.store = s.after ys ∧
      Underway s c t ys (new.toList ++ rest) := by
  obtain ⟨u, hu, hlayout, hperm⟩ := h.table
  have huname : u.name = t.name := Table.eq_of_layout hlayout Table.name fun _ => rfl
  have hget : u.entries.get? e.id = some e :=
    Entries.mem_iff.1 (hperm.mem_iff.2 List.mem_cons_self)
  have hfind : p.store.find? u.name = some u := by rw [hp, huname, hu]
  have hnow : (p, n).1.store.get c.table = .ok u := by
    rw [Contents.get, hp, find?_sameName hname, hu]
  rw [Change.turn_found hnow hget] at hturn
  obtain ⟨_, hrow, hturn⟩ := bind_eq_ok.1 hturn
  cases hturn
  obtain ⟨new, ys, hmakes, hfits, hp', hys⟩ := row_traces hperform hdeed hp hfind hget hrow
  rw [huname] at hfits hp' hys
  have hmakes : c.deed.Makes t e new := hmakes.layout hlayout.symm
  have hled : ∀ x ∈ xs ++ [⟨t.name, e, new⟩],
      ReflTransGen (Acts s) (struck t.name c.deed.fate) x.struck := by
    refine List.forall_mem_append.2 ⟨h.led, List.forall_mem_singleton.2 ?_⟩
    rw [RowChange.struck, hmakes.fate t.name]
  refine ⟨rfl, new, xs ++ ⟨t.name, e, new⟩ :: ys, hmakes, hp', ⟨?_, ?_, ?_⟩⟩
  · rw [List.append_cons]
    exact List.forall_mem_append.2
      ⟨hled, fun y hy => (led_of_ensue hled hys y hy).to_reflTransGen⟩
  · exact h.course.append ⟨hfits, .inl ⟨rfl, hpicks, hmakes⟩, hys.course⟩
  · -- what ensues is on other tables
    have hafter : (s.after (xs ++ ⟨t.name, e, new⟩ :: ys)).find? t.name =
        some (RowChange.onTable ⟨t.name, e, new⟩ u) := by
      rw [List.append_cons, after_append,
        find?_after_of_untouched (untouched_of_ensue hlone hled hys), find?_concat, hu,
        Option.map_some]
    refine ⟨_, hafter, (RowChange.layout_onTable _ u).trans hlayout, ?_⟩
    have hsame : sameName t.name u.name = true := huname ▸ sameName_refl _
    rw [RowChange.onTable, if_pos hsame]
    refine RowChange.perm_rows (x := ⟨t.name, e, new⟩) hperm fun x hx => ?_
    refine (hfits.free x hx).imp_right fun hnone => ?_
    rwa [Contents.row, hu] at hnone

/-- **The turns of the rows that were picked**: all of them count, and each becomes what the deed
says. -/
theorem turns_underway {picked rest : List Entry} (hpicks : ∀ e ∈ picked, c.picks e = true) :
    ∀ {xs : List RowChange} {p p' : Progress} {n n' : Nat},
      Underway s c t xs (picked ++ rest) → p.store = s.after xs →
      picked.foldlM (c.turn (c.deed.row perform)) (p, n) = .ok (p', n') →
        n' = n + picked.length ∧ ∃ news ys, List.Forall₂ (c.deed.Makes t) picked news ∧
          p'.store = s.after ys ∧ Underway s c t ys (rest ++ news.flatMap Option.toList) := by
  induction picked generalizing rest with
  | nil =>
    intro xs p p' n n' h hp hturns
    cases hturns
    exact ⟨rfl, [], xs, .nil, hp, by simpa using h⟩
  | cons e picked ih =>
    intro xs p p' n n' h hp hturns
    rw [List.foldlM_cons] at hturns
    obtain ⟨⟨p₁, n₁⟩, hturn, hturns⟩ := bind_eq_ok.1 hturns
    obtain ⟨hpick, hpicks⟩ := List.forall_mem_cons.1 hpicks
    obtain ⟨rfl, new, ys, hmakes, hp₁, hunderway⟩ :=
      turn_underway hperform hdeed hname hlone h hpick hp hturn
    have hmoved : (new.toList ++ (picked ++ rest)).Perm (picked ++ (rest ++ new.toList)) := by
      rw [← List.append_assoc picked]
      exact List.perm_append_comm
    obtain ⟨rfl, news, zs, hnews, hp', hdone⟩ := ih hpicks (hunderway.perm hmoved) hp₁ hturns
    refine ⟨by rw [List.length_cons]; omega, new :: news, zs, .cons hmakes hnews, hp', ?_⟩
    rwa [List.flatMap_cons, ← List.append_assoc]

end

/-! ## Statements on a store -/

section
variable {s s' : Contents} {c : Change} {t : Table} {n : Nat}

/-- **A statement on a table to which actions of foreign keys do not lead back** counts all rows
that it picks, does to each what it says, and leaves the other rows of the table. -/
theorem run_matched (hdeed : c.deed ≠ .refuse) (ht : s.find? c.table = some t)
    (hlone : ¬LeadsBack s c.table c.deed.fate) (h : s.run c = .ok (s', n)) :
    n = (t.entries.list.filter c.picks).length ∧ ∃ news xs,
      List.Forall₂ (c.deed.Makes t) (t.entries.list.filter c.picks) news ∧ s' = s.after xs ∧
      Underway s c t xs ((t.entries.list.filter fun e => !c.picks e) ++
        news.flatMap Option.toList) := by
  obtain ⟨_, -, h⟩ := bind_eq_ok.1 h
  obtain ⟨_, -, h⟩ := bind_eq_ok.1 h
  obtain ⟨⟨p, count⟩, hcarry, h⟩ := bind_eq_ok.1 h
  obtain ⟨_, -, h⟩ := bind_eq_ok.1 h
  cases h
  rw [carryOut_row hdeed] at hcarry
  obtain ⟨t', ht', hcarry⟩ := bind_eq_ok.1 hcarry
  obtain rfl : t = t' := Option.some.inj (ht.symm.trans (find?_of_get ht'))
  have hname : sameName c.table t.name = true := sameName_of_find? ht
  rw [leadsBack_congr hname] at hlone
  have hstart : Underway s c t []
      (t.entries.list.filter c.picks ++ t.entries.list.filter fun e => !c.picks e) :=
    ⟨nofun, trivial, t, find?_self ht, rfl, (List.filter_append_perm ..).symm⟩
  obtain ⟨rfl, news, xs, hnews, hp, hdone⟩ :=
    turns_underway (perform_traces s maxLevels) hdeed hname hlone
      (fun e he => (List.mem_filter.1 he).2) hstart rfl hcarry
  exact ⟨Nat.zero_add _, news, xs, hnews, hp, hdone⟩

/-- **Rows of other tables change only by foreign keys.** -/
theorem Underway.elsewhere {xs : List RowChange} {rows : List Entry} (h : Underway s c t xs rows)
    {table : String} (hother : ¬sameName t.name table = true) {id : Int64}
    (hne : (s.after xs).row table id ≠ s.row table id) :
    ∃ before y, before ++ [y] <+: xs ∧ y.Concerns table id ∧ Due s before y := by
  obtain ⟨y, hy, hconcerns⟩ := concerned_of_row_ne hne
  have hown : ¬c.Own t y := by
    rintro ⟨hname, -⟩
    exact hother (hname ▸ hconcerns.1)
  obtain ⟨before, hinit, hdue⟩ := h.course.due hy hown
  exact ⟨before, y, hinit, hconcerns, hdue⟩

/-- A row that is given values has the old one in every other column. -/
theorem Table.get_of_assigned_other {e new : Entry} {values : List (Place × Cell)}
    (h : t.assigned e values = .ok new) {p : Place} (hp : p ∈ t.places)
    (hnone : values.lookup p = none) : new.get p = e.get p := by
  cases p with
  | key =>
    rw [assigned_eq, keyWith, hnone] at h
    cases h
    rfl
  | cell i =>
    have hi : i < t.columns.length := by simpa [places] using hp
    rw [get_of_assigned h (List.getElem?_eq_getElem hi), hnone]

end

/-! ## Reads -/

/-- The read of all columns of the rows that pass a filter. -/
def matching (filter : Option Filter) : ReadOptions := ⟨none, filter, none, none, none⟩

/-- Reads with a filter find these rows of a table. -/
structure Finds (s : Contents) (table : String) (filter : Option Filter) (t : Table)
    (found : List Entry) : Prop where
  /-- What a read gives without a limit and an offset, whatever its columns and its order. -/
  reads : ∀ {o : ReadOptions} {w w' : Logged Connection} {rows : List Row}, w.state = .open s →
    o.filter = filter → o.limit = none → o.offset = none →
    (database.read table o).outcome w = (.ok rows, w') →
      rows.Perm (found.map fun e => e.row (t.header (o.fields.getD [])))
  succeeds : ∀ log, ∃ rows, (database.read table (matching filter)).outcome ⟨.open s, log⟩ =
    (.ok rows, ⟨.open s, log⟩)

section
variable {s : Contents} {t : Table}

/-- **A selection of all rows that pass the tests** gives each of them once. -/
theorem select_matched {c : Select} (ht : s.find? c.table.name = some t) (hlimit : c.limit = none)
    (hoffset : c.offset = none) : ∃ rows, s.select c = .ok rows ∧
      rows.Perm ((t.entries.list.filter (t.picks c.tests)).map fun e =>
        e.row (t.header (c.columns.map Identifier.name))) := by
  refine ⟨(sorted (t.orderTerms c.order) (t.entries.list.filter (t.picks c.tests))).map fun e =>
    e.row (t.header (c.columns.map Identifier.name)), ?_, (List.mergeSort_perm _ _).map _⟩
  rw [Contents.select, Contents.get, ht, hlimit, hoffset]
  rfl

theorem finds_of_tests {table : String} {filter : Option Filter} {tests : List Test}
    (hvalid : Identifier.Valid table) (htests : Filter.testsOf filter = .ok tests)
    (ht : s.find? table = some t) :
    Finds s table filter t (t.entries.list.filter (t.picks tests)) where
  reads {o w w' rows} hs hfilter hlimit hoffset h := by
    obtain ⟨c, s₁, hcheck, hs₁, hselect, -⟩ := read_eq_ok_iff.1 h
    obtain rfl : s = s₁ := Connection.open.inj (hs.symm.trans hs₁)
    obtain ⟨htable, hcolumns, hc, -, hclimit, hcoffset⟩ := Select.check_ok hcheck
    obtain ⟨rows', hrows', hperm⟩ := select_matched (c := c) (htable ▸ ht)
      (hclimit.trans hlimit) (hcoffset.trans hoffset)
    obtain rfl : rows = rows' := Except.ok.inj (hselect.symm.trans hrows')
    obtain rfl : c.tests = tests := Except.ok.inj (hc.symm.trans (hfilter ▸ htests))
    rwa [hcolumns] at hperm
  succeeds log := by
    obtain ⟨i, hi⟩ := Identifier.ofName_of_valid hvalid
    have hcheck : Select.check table (matching filter) = .ok ⟨i, [], tests, [], none, none⟩ :=
      bind_eq_ok.2 ⟨[], rfl, bind_eq_ok.2 ⟨tests, htests,
        bind_eq_ok.2 ⟨[], rfl, bind_eq_ok.2 ⟨i, hi, rfl⟩⟩⟩⟩
    obtain ⟨rows, hrows, -⟩ := select_matched (c := ⟨i, [], tests, [], none, none⟩)
      ((Identifier.name_of_ofName hi).symm ▸ ht) rfl rfl
    exact ⟨rows, read_eq_ok_iff.2 ⟨_, s, hcheck, rfl, hrows, rfl⟩⟩

end

/-! ## Statements with a filter -/

/-- A statement has gone over the rows of a table that match a filter: it has counted what reads
with the filter found, and rows of other tables are as they were unless foreign keys have changed
them. -/
structure Swept (s s' : Contents) (table : String) (filter : Option Filter) (tests : List Test)
    (t t' : Table) (n : Nat) : Prop where
  tested : Filter.testsOf filter = .ok tests
  before : s.find? table = some t
  after : s'.find? table = some t'
  layout : t'.layout = t.layout
  found : Finds s table filter t (t.entries.list.filter (t.picks tests))
  counts : n = (t.entries.list.filter (t.picks tests)).length
  elsewhere : ∃ xs, s' = s.after xs ∧ ∀ other id, ¬sameName table other = true →
    s'.row other id ≠ s.row other id →
      ∃ before y, before ++ [y] <+: xs ∧ y.Concerns other id ∧ Due s before y

section
variable {s s' : Contents} {table : String} {filter : Option Filter} {tests : List Test} {n : Nat}

/-- A statement with a filter goes over the rows that match, and does to each what it says. -/
theorem swept_of_run (deed : Deed) (hdeed : deed ≠ .refuse) (hvalid : Identifier.Valid table)
    (htests : Filter.testsOf filter = .ok tests) (hlone : ¬LeadsBack s table deed.fate)
    (h : s.run ⟨table, deed, picking s table tests⟩ = .ok (s', n)) :
    ∃ t t' news, Swept s s' table filter tests t t' n ∧
      List.Forall₂ (deed.Makes t) (t.entries.list.filter (t.picks tests)) news ∧
      t'.entries.list.Perm ((t.entries.list.filter fun e => !t.picks tests e) ++
        news.flatMap Option.toList) := by
  obtain ⟨t, ht⟩ : ∃ t, s.find? table = some t := by
    obtain ⟨t, ht, -⟩ := bind_eq_ok.1 h
    exact ⟨t, find?_of_get ht⟩
  rw [picking_eq ht] at h
  obtain ⟨hn, news, xs, hnews, rfl, hdone⟩ :=
    run_matched (c := ⟨table, deed, t.picks tests⟩) hdeed ht hlone h
  obtain ⟨t', ht', hlayout, hperm⟩ := hdone.table
  have hname : sameName table t.name = true := sameName_of_find? ht
  refine ⟨t, t', news, ⟨htests, ht, ?_, hlayout, finds_of_tests hvalid htests ht, hn, xs, rfl,
    fun other id hother hne => hdone.elsewhere (fun hsame => hother (sameName_trans hname hsame))
      hne⟩, hnews, hperm⟩
  rw [find?_sameName hname, ht']

/-- A removal that succeeds has passed its checks and run on a store that can be used. -/
theorem remove_eq_ok {w w' : Logged Connection}
    (h : (database.remove table filter).outcome w = (.ok n, w')) :
    ∃ tests s s', Identifier.Valid table ∧ Filter.testsOf filter = .ok tests ∧ w.state = .open s ∧
      s.delete table (picking s table tests) = .ok (s', n) ∧ Worded (.delete table filter) s s' n ∧
      w' = ⟨.open s', w.log⟩ := by
  obtain ⟨c, hcheck, h⟩ := Action.outcome_ofQuery_bind_eq_ok.1 h
  obtain ⟨s, s', hs, hdelete, hw'⟩ := changing_eq_ok.1 h
  obtain ⟨htable, htests⟩ := Delete.check_ok hcheck
  have hworded : Worded (.delete table filter) s s' n :=
    worded_of_obey (r := .delete table filter) (map_eq_ok.2 ⟨c, hcheck, rfl⟩)
      (map_eq_ok.2 ⟨_, hdelete, rfl⟩)
  rw [htable] at hdelete
  exact ⟨c.tests, s, s', htable ▸ ⟨c.table.nonempty, c.table.noNul, c.table.fits⟩, htests, hs,
    hdelete, hworded, hw'⟩

/-- An update that succeeds has passed its checks and run on a store that can be used. -/
theorem change_eq_ok {row : Row} {w w' : Logged Connection}
    (h : (database.change table row filter).outcome w = (.ok n, w')) :
    ∃ a tests s s', Identifier.Valid table ∧ a.map (·.1.name) = row.names ∧
      Filter.testsOf filter = .ok tests ∧ w.state = .open s ∧
      s.update table (cellsOf a) (picking s table tests) = .ok (s', n) ∧
      Worded (.update table row filter) s s' n ∧ w' = ⟨.open s', w.log⟩ := by
  obtain ⟨c, hcheck, h⟩ := Action.outcome_ofQuery_bind_eq_ok.1 h
  obtain ⟨s, s', hs, hupdate, hw'⟩ := changing_eq_ok.1 h
  obtain ⟨htable, hrow, htests⟩ := Update.check_ok hcheck
  have hworded : Worded (.update table row filter) s s' n :=
    worded_of_obey (r := .update table row filter) (map_eq_ok.2 ⟨c, hcheck, rfl⟩)
      (map_eq_ok.2 ⟨_, hupdate, rfl⟩)
  rw [htable] at hupdate
  exact ⟨c.row, c.tests, s, s', htable ▸ ⟨c.table.nonempty, c.table.noNul, c.table.fits⟩,
    Assignments.columns_check hrow, htests, hs, hupdate, hworded, hw'⟩

/-- A row keeps its values in the columns that get none by their names. -/
theorem kept_of_assigned {t : Table} {a : Assignments} {values : List (Place × Cell)}
    (hvalues : t.located .noColumn (cellsOf a) = .ok values) {e new : Entry}
    (h : t.assigned e (t.filled values.reverse) = .ok new) {p : Place} (hp : p ∈ t.places)
    (hunnamed : ∀ name ∈ a.map (·.1.name), t.place? name ≠ some p) : new.get p = e.get p := by
  refine Table.get_of_assigned_other h hp (List.lookup_eq_none_iff.2 fun q hq => ?_)
  obtain ⟨r, hr, rfl⟩ := List.mem_map.1 hq
  obtain ⟨x, hx, hplace⟩ := forall₂_mem_right (mapM_eq_ok.1 hvalues) r (List.mem_reverse.1 hr)
  obtain ⟨b, hb, rfl⟩ := List.mem_map.1 hx
  have hunnamed := hunnamed b.1.name (List.mem_map_of_mem hb)
  simp only at hplace
  split at hplace
  · rename_i place hfound
    cases hplace
    exact bne_iff_ne.2 fun hsame : p = place => hunnamed (hsame ▸ hfound)
  · cases hplace

theorem makes_remove {t : Table} {l : List Entry} {news : List (Option Entry)}
    (h : List.Forall₂ (Deed.remove.Makes t) l news) : news.flatMap Option.toList = [] := by
  refine List.flatMap_eq_nil_iff.2 fun new hnew => ?_
  obtain ⟨e, -, hmakes⟩ := forall₂_mem_right h new hnew
  cases hmakes
  rfl

theorem makes_assign {t : Table} {values : List (Place × Cell)} {l : List Entry}
    {news : List (Option Entry)} (h : List.Forall₂ ((Deed.assign values).Makes t) l news) :
    List.Forall₂ (fun e new => t.assigned e values = .ok new) l (news.flatMap Option.toList) := by
  induction h with
  | nil => exact .nil
  | cons hmakes _ ih =>
    cases hmakes with
    | assign hassigned => exact .cons hassigned ih

end

/-- Two authors, the first of whom has written a book. -/
def catalogue : Contents where
  tables := [
    { name := "authors", columns := [⟨"name", .text, none, none⟩], unique := [],
      foreignKeys := [], entries := ⟨[⟨1, [.text "Ann"]⟩, ⟨2, [.text "Bob"]⟩], by decide⟩,
      issued := 2 },
    { name := "books", columns := [⟨"author", .numeric, none, none⟩], unique := [],
      foreignKeys := [⟨.cell 0, "authors", some "id", .cascade, .noAction⟩],
      entries := ⟨[⟨1, [.integer 1]⟩], by decide⟩, issued := 1 }]

/-- Two labels with different names, where this is done about a name that is there already. -/
def labels (resolution : String) : Except Fault Contents := do
  let s ← Contents.create ⟨[]⟩ ⟨"labels", by decide, by decide, by decide⟩
    ["\"name\" TEXT UNIQUE ON CONFLICT " ++ resolution]
  let s ← s.insert "labels" [("name", .text "x")]
  s.insert "labels" [("name", .text "y")]

/-- The first label gets the name of the second one. -/
def relabelled (s : Contents) : Except Error Nat × Logged Connection :=
  (database.change "labels" (.ofList [("name", .string "y")]) (some (Service.byId 1))).outcome
    ⟨.open s, []⟩

/-- The rows of a table to which a connection leads. -/
def rowsIn (table : String) : Connection → List Entry
  | .open s => ((s.find? table).map fun t => t.entries.list).getD []
  | .closed | .unreadable => []

end TableService.Store
