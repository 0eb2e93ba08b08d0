/-
  Statements on the row with a key.

  * `concerned_of_row_ne`: a row that is not as it was is concerned by some change;
    `row_of_ensue`: a key that has gone comes back only if a foreign key on the key of the table
    gives it to another row.
  * `filter_byId`: the tests for a key pick the row with this key, and no other.
  * `select_byId`, `run_byId_none`, `run_byId_some`: so a read finds this row or none, and a change
    or a removal counts none and changes nothing, or does what it says to this row and counts one;
    all else that changes ensues (`DoneTo`).
-/
import TableService.Proofs.Store.Actions

namespace TableService.Store

/-! ## Rows after changes -/

/-- The change concerns the row with a key: it is the row that changes, or the key that it gets. -/
def RowChange.Concerns (x : RowChange) (table : String) (id : Int64) : Prop :=
  sameName x.table table = true ∧ (x.old.id = id ∨ ∃ e ∈ x.new, e.id = id)

section
variable {s : Contents} {table : String} {id : Int64}

/-- The table of a name after a change. -/
theorem find?_concat (xs : List RowChange) (x : RowChange) :
    (s.after (xs ++ [x])).find? table = ((s.after xs).find? table).map x.onTable := by
  have hname : (fun u => sameName table u.name) ∘ x.onTable = fun u => sameName table u.name := by
    funext u
    rw [Function.comp_apply, x.name_onTable]
  rw [after_concat, Contents.find?, List.find?_map, hname]
  rfl

theorem row_concat (xs : List RowChange) (x : RowChange) :
    (s.after (xs ++ [x])).row table id =
      ((s.after xs).find? table).bind fun u => (x.onTable u).entries.get? id := by
  rw [Contents.row, find?_concat, Option.bind_map]
  rfl

/-- What a change does to a row of the table under a key. -/
theorem row_change {xs : List RowChange} {x : RowChange} (h : sameName x.table table = true) :
    (s.after (xs ++ [x])).row table id = ((s.after xs).find? table).bind fun u =>
      (x.rows u.entries).get? id := by
  rw [row_concat]
  cases hfind : (s.after xs).find? table with
  | none => rfl
  | some u =>
    have hsame : sameName x.table u.name = true := sameName_trans h (sameName_of_find? hfind)
    rw [Option.bind_some, Option.bind_some, RowChange.onTable, if_pos hsame]

theorem row_removed {xs : List RowChange} {x : RowChange} (h : sameName x.table table = true)
    (hnew : x.new = none) (hid : x.old.id = id) : (s.after (xs ++ [x])).row table id = none := by
  rw [row_change h]
  cases (s.after xs).find? table with
  | none => rfl
  | some u => rw [Option.bind_some, RowChange.rows, hnew, Entries.get?_erase, if_pos hid]

/-- A row that a change does not concern is as it was. -/
theorem row_unconcerned {xs : List RowChange} {x : RowChange} (h : ¬ x.Concerns table id) :
    (s.after (xs ++ [x])).row table id = (s.after xs).row table id := by
  by_cases hname : sameName x.table table = true
  · rw [row_change hname, Contents.row]
    refine congrArg _ (funext fun u => ?_)
    have hold : x.old.id ≠ id := fun hid => h ⟨hname, .inl hid⟩
    unfold RowChange.rows
    cases hnew : x.new with
    | none => exact (Entries.get?_erase ..).trans (if_neg hold)
    | some e =>
      have hid : e.id ≠ id := fun hid => h ⟨hname, .inr ⟨e, hnew, hid⟩⟩
      exact (Entries.get?_put ..).trans ((if_neg hid).trans
        ((Entries.get?_erase ..).trans (if_neg hold)))
  · rw [row_concat, Contents.row]
    cases hfind : (s.after xs).find? table with
    | none => rfl
    | some u =>
      have hother : ¬ sameName x.table u.name = true := fun hsame =>
        hname (sameName_trans hsame (sameName_symm (sameName_of_find? hfind)))
      rw [Option.bind_some, Option.bind_some, RowChange.onTable, if_neg hother]

/-- **A row that is not as it was is concerned by some change.** -/
theorem concerned_of_row_ne {xs : List RowChange}
    (h : (s.after xs).row table id ≠ s.row table id) : ∃ x ∈ xs, x.Concerns table id := by
  by_contra hnone
  refine h ?_
  clear h
  induction xs using List.reverseRecOn with
  | nil => rfl
  | append_singleton xs x ih =>
    have hx : ¬ x.Concerns table id := fun hx => hnone ⟨x, by simp, hx⟩
    rw [row_unconcerned hx]
    exact ih fun ⟨y, hy, hc⟩ => hnone ⟨y, by simp [hy], hc⟩

/-- A key is given to another row only by a foreign key on the key of its table. -/
theorem key_of_due {past : List RowChange} {y : RowChange} (h : Due s past y) {e : Entry}
    (hnew : y.new = some e) (hid : e.id ≠ y.old.id) :
    ∃ child ∈ s.tables, sameName child.name y.table = true ∧
      ∃ fk ∈ child.foreignKeys, fk.place = .key := by
  obtain ⟨_, -, x, -, c, hasks, -, t, ht, hname, hmakes⟩ := h
  obtain ⟨hrefers, -, -, hreaction⟩ := hasks
  rename_i child parent fk place deed
  have hchild : sameName child.name y.table = true := by
    rw [← hname]
    exact sameName_of_find? ht
  have hkey {v : Cell} {new : Entry} (h : t.assigned y.old [(fk.place, v)] = .ok new)
      (hne : new.id ≠ y.old.id) : fk.place = .key := by
    by_contra hplace
    have hnone : List.lookup Place.key [(fk.place, v)] = none := by
      rw [List.lookup_cons, beq_false_of_ne (Ne.symm hplace)]
      rfl
    rw [Table.assigned, hnone] at h
    cases h
    exact hne rfl
  rw [hnew] at hmakes
  refine ⟨child, hrefers.isTable, hchild, fk, hrefers.declared, ?_⟩
  cases hmakes with
  | assign hassigned =>
    cases hreaction with
    | follow | setNull | setDefault => exact hkey hassigned hid

/-- One of the changes has given the key to another row of the table, which has a foreign key on the
key. -/
structure Regained (s : Contents) (table : String) (id : Int64) (ys : List RowChange) : Prop where
  given : ∃ y ∈ ys, sameName y.table table = true ∧ y.old.id ≠ id ∧ ∃ e, y.new = some e ∧ e.id = id
  foreign : ∃ t ∈ s.tables, sameName t.name table = true ∧ ∃ fk ∈ t.foreignKeys, fk.place = .key

/-- **A row that is not there is there after changes that ensue only if one of them has given its
key to another row.** -/
theorem row_of_ensue {past ys : List RowChange} (h : (s.after past).row table id = none)
    (hys : Ensue s past ys) :
    (s.after (past ++ ys)).row table id = none ∨ Regained s table id ys := by
  induction ys generalizing past with
  | nil =>
    rw [List.append_nil]
    exact .inl h
  | cons y ys ih =>
    obtain ⟨hfits, hdue, hys⟩ := hys
    rw [List.append_cons]
    by_cases hconcerns : y.Concerns table id
    · obtain ⟨hname, hconcerns⟩ := hconcerns
      have hold : y.old.id ≠ id := by
        rintro rfl
        have hfound := hfits.found
        rw [Contents.row, find?_sameName hname] at hfound
        exact Option.some_ne_none _ (hfound.symm.trans h)
      obtain ⟨e, hnew, rfl⟩ := hconcerns.resolve_left hold
      obtain ⟨t, ht, htable, hfk⟩ := key_of_due hdue hnew (Ne.symm hold)
      have hsame : sameName t.name table = true := sameName_trans htable hname
      exact .inr ⟨⟨y, List.mem_cons_self, hname, hold, e, hnew, rfl⟩, t, ht, hsame, hfk⟩
    · rw [← row_unconcerned hconcerns] at h
      refine (ih h hys).imp_right ?_
      rintro ⟨⟨z, hz, hrest⟩, hforeign⟩
      exact ⟨⟨z, List.mem_cons_of_mem _ hz, hrest⟩, hforeign⟩

end

/-! ## The tests for a key -/

/-- The tests for a key. -/
def keyTests (id : Int64) : List Test := [.compare .id .eq (.ofInt64 id)]

theorem testsOf_byId (id : Int64) :
    Filter.testsOf (some (Service.byId id)) = .ok (keyTests id) := by
  have hname : Identifier.ofName Identifier.id.name = .ok .id := by decide +kernel
  have hcondition : Test.ofCondition (Identifier.id.name, .literal (.ofInt64 id)) =
      .ok (keyTests id) := bind_eq_ok.2 ⟨.id, hname, rfl⟩
  have hentries : (Service.byId id).entries = [(Identifier.id.name, .literal (.ofInt64 id))] := rfl
  refine map_eq_ok.2 ⟨[keyTests id], ?_, rfl⟩
  rw [hentries]
  exact mapM_eq_ok.2 (.cons hcondition .nil)

theorem ofJson_ofInt64 (id : Int64) : Cell.ofJson (.ofInt64 id) = .integer id := by
  have hlower : -0x8000000000000000 ≤ id.toInt := id.le_toInt
  have hupper : id.toInt < 0x8000000000000000 := id.toInt_lt
  show Cell.ofInt id.toInt = _
  rw [Cell.ofInt, if_pos ⟨hlower, hupper⟩, Int64.ofInt_toInt]

theorem picks_byId (t : Table) (id : Int64) (e : Entry) :
    t.picks (keyTests id) e = (e.id == id) := by
  have hsubject : t.subject Identifier.id.name = .column .key := by
    have hkey : sameName Identifier.id.name keyName = true := by decide +kernel
    rw [Table.subject, Table.place?, Table.declared?, if_pos hkey]
    rfl
  have hprobe : Probe.ofTest t (.compare .id .eq (.ofInt64 id)) =
      .compare (.column .key) .eq (.integer id) := by
    rw [Probe.ofTest, hsubject, ofJson_ofInt64]
  have hholds : (Probe.compare (.column .key) .eq (.integer id)).holds t e =
      some (compare e.id.toInt id.toInt).isEq := rfl
  rw [Table.picks, keyTests, List.map_singleton, hprobe, Probe.pick, List.all_cons, List.all_nil,
    Bool.and_true, hholds]
  rw [Bool.eq_iff_iff]
  simp [Int64.toInt_inj]

/-- **The tests for a key pick the row with this key**, if there is one. -/
theorem filter_byId (t : Table) (id : Int64) :
    t.entries.list.filter (t.picks (keyTests id)) = (t.entries.get? id).toList := by
  have hpicks : t.picks (keyTests id) = fun e => e.id == id := funext (picks_byId t id)
  have hascending := t.entries.ascending
  rw [hpicks, Entries.get?]
  generalize t.entries.list = l at hascending
  induction l with
  | nil => rfl
  | cons e rest ih =>
    obtain ⟨hfirst, hrest⟩ := List.pairwise_cons.1 hascending
    by_cases he : e.id = id
    · have hothers : rest.filter (fun x => x.id == id) = [] := by
        refine List.filter_eq_nil_iff.2 fun x hx hid => ?_
        have hlt := hfirst x hx
        rw [he, beq_iff_eq.1 hid] at hlt
        exact Int64.lt_irrefl hlt
      rw [List.filter_cons_of_pos (by simpa using he), hothers,
        List.find?_cons_of_pos (by simpa using he)]
      rfl
    · rw [List.filter_cons_of_neg (by simpa using he), List.find?_cons_of_neg (by simpa using he)]
      exact ih hrest

/-! ## Statements on the row with a key -/

/-- A statement has done a deed to the row with a key, and all else that it has changed ensues:
every row that is not as it was is concerned by this change, or by one that foreign keys have asked
for. -/
structure DoneTo (s s' : Contents) (table : String) (id : Int64) (deed : Deed) (x : RowChange)
    (ys : List RowChange) : Prop where
  name : sameName x.table table = true
  key : x.old.id = id
  fits : x.Fits s
  makes : ∃ t, s.find? table = some t ∧ deed.Makes t x.old x.new
  after : s' = s.after (x :: ys)
  ensue : Ensue s [x] ys
  concerned : ∀ u k, s'.row u k ≠ s.row u k → ∃ y ∈ x :: ys, y.Concerns u k

section
variable {s s' : Contents} {table : String} {id : Int64} {n : Nat}

theorem picking_eq {t : Table} (ht : s.find? table = some t) (tests : List Test) :
    picking s table tests = t.picks tests := by
  rw [picking, ht]

theorem picked_byId {t : Table} (ht : s.find? table = some t) {e : Entry}
    (hrow : s.row table id = some e) :
    t.entries.list.filter (picking s table (keyTests id)) = [e] := by
  rw [Contents.row, ht] at hrow
  rw [picking_eq ht, filter_byId, show t.entries.get? id = some e from hrow]
  rfl

/-- **A statement on the row with a key** counts none if there is no such row, and changes
nothing. -/
theorem run_byId_none {deed : Deed} (hdeed : deed ≠ .refuse) (hrow : s.row table id = none)
    (h : s.run ⟨table, deed, picking s table (keyTests id)⟩ = .ok (s', n)) : n = 0 ∧ s' = s := by
  refine run_none hdeed (fun t ht => ?_) h
  have hget : t.entries.get? id = none := by rwa [Contents.row, ht] at hrow
  rw [picking_eq ht, filter_byId, hget]
  rfl

/-- So does an update, whatever the constraints of the table say. -/
theorem update_byId_none {assignments : List (String × Cell)} (hrow : s.row table id = none)
    (h : s.update table assignments (picking s table (keyTests id)) = .ok (s', n)) :
    n = 0 ∧ s' = s := by
  obtain ⟨t, values, p, ht, -, -, hturns, -, rfl⟩ := update_ok h
  have ht := find?_of_get ht
  have hget : t.entries.get? id = none := by rwa [Contents.row, ht] at hrow
  rw [picking_eq ht, filter_byId, hget] at hturns
  cases hturns
  exact ⟨rfl, rfl⟩

/-- **A statement on the row with a key** counts this row if there is one, and does to it what it
says. -/
theorem run_byId_some {deed : Deed} (hdeed : deed ≠ .refuse) {e : Entry}
    (hrow : s.row table id = some e)
    (h : s.run ⟨table, deed, picking s table (keyTests id)⟩ = .ok (s', n)) :
    n = 1 ∧ ∃ x ys, DoneTo s s' table id deed x ys := by
  obtain ⟨t, ht, hget⟩ := Option.bind_eq_some_iff.1 hrow
  have hpicked := picked_byId ht hrow
  obtain ⟨hn, new, ys, hmakes, hfits, hafter, hensue⟩ :=
    run_single (c := ⟨table, deed, picking s table (keyTests id)⟩) hdeed ht hpicked h
  have hname : sameName t.name table = true := sameName_symm (sameName_of_find? ht)
  refine ⟨hn, ⟨t.name, e, new⟩, ys, hname, (Entries.get?_eq_some.1 hget).2, hfits, ⟨t, ht, hmakes⟩,
    hafter, hensue, fun u k hne => ?_⟩
  rw [hafter] at hne
  exact concerned_of_row_ne hne

/-- After the removal of the row with a key, there is no row with this key unless a change that
ensues has given the key to another one. -/
theorem DoneTo.gone {x : RowChange} {ys : List RowChange} (h : DoneTo s s' table id .remove x ys) :
    s'.row table id = none ∨ Regained s table id ys := by
  obtain ⟨t, -, hmakes⟩ := h.makes
  have hnew : x.new = none := by
    cases hx : x.new with
    | none => rfl
    | some e =>
      rw [hx] at hmakes
      cases hmakes
  rw [h.after]
  have hgone : (s.after ([] ++ [x])).row table id = none := row_removed h.name hnew h.key
  exact row_of_ensue hgone h.ensue

/-- **A read of the row with a key** finds it, or nothing if there is none. -/
theorem select_byId {t : Table} (ht : s.find? table = some t) {c : Select}
    (htable : c.table.name = table) (htests : c.tests = keyTests id) (horder : c.order = [])
    (hlimit : c.limit = some 1) (hoffset : c.offset = none) :
    s.select c = .ok ((s.row table id).map fun e =>
      e.row (t.header (c.columns.map Identifier.name))).toList := by
  have hrow : s.row table id = t.entries.get? id := by rw [Contents.row, ht]; rfl
  rw [Contents.select, htable, Contents.get, ht, htests, horder, hlimit, hoffset, hrow]
  show page (some 1) none _ = _
  have hsorted (terms : List (Subject × Bool)) (o : Option Entry) :
      sorted terms o.toList = o.toList := by
    cases o with
    | none => exact List.mergeSort_nil
    | some e => exact List.mergeSort_singleton e
  rw [filter_byId, hsorted]
  cases t.entries.get? id with
  | none => rfl
  | some e => rfl

end

end TableService.Store
