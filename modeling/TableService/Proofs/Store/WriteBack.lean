/-
  Rows that are written back as they were read.

  * `Cell.ofJson_json`: what JSON can carry is the same value again.  Bytes come back as the text of
    their list, from which they can be read (`Cell.ofJson_blob`).
  * `Table.cellsOf_row`: the values of a row that was read are those of the row, under the names of
    their columns.
  * `update_self`: so an update with them leaves the store as it is, unless a foreign key stands in
    the way.
-/
import TableService.Proofs.Json.RoundTrip
import TableService.Proofs.Query.Acceptance
import TableService.Proofs.Store.OwnValues
import TableService.Proofs.Store.RowByKey

namespace TableService.Store

/-! ## Values -/

namespace Cell

/-- JSON carries the value: it is no list of bytes, and finite if it is a double. -/
def Carried : Cell → Prop
  | .real x => x.isFinite = true
  | .blob _ => False
  | .null | .integer _ | .text _ => True

instance : ∀ c : Cell, Decidable c.Carried
  | .real x => inferInstanceAs (Decidable (x.isFinite = true))
  | .blob _ => .isFalse nofun
  | .null | .integer _ | .text _ => .isTrue trivial

/-- **What JSON carries is the same value again.** -/
theorem ofJson_json : ∀ {c : Cell}, c.Carried → ofJson c.json = c
  | .null, _ | .text _, _ => rfl
  | .integer i, _ => ofJson_ofInt64 i
  | .real x, h => by
    rw [json, Json.ofDouble, dif_pos (show x.isFinite = true from h)]
    rfl

/-- **Bytes come back as the text of their list**, from which they can be read. -/
theorem ofJson_blob (bytes : List UInt8) : ∃ text, ofJson (Cell.blob bytes).json = .text text ∧
    Json.parse text = .ok (.ofBytes bytes) :=
  ⟨_, rfl, Json.parse_render (Json.legible_ofBytes bytes)⟩

end Cell

/-! ## Rows that are read -/

namespace Table
variable {t : Table}

theorem mem_places_of_place? {name : String} {p : Place} (h : t.place? name = some p) :
    p ∈ t.places := by
  cases p with
  | key => exact List.mem_cons_self
  | cell i =>
    have hdeclared : t.declared? name = some (.cell i) := by
      unfold place? at h
      cases hd : t.declared? name with
      | some q =>
        rw [hd] at h
        exact h
      | none =>
        rw [hd] at h
        change (if keyAliases.any (sameName name) then some Place.key else none) = _ at h
        split_ifs at h
        cases h
    unfold declared? at hdeclared
    split_ifs at hdeclared
    · cases hdeclared
    · obtain ⟨j, hj, hcell⟩ := Option.map_eq_some_iff.1 hdeclared
      cases hcell
      obtain ⟨hi, -⟩ := List.findIdx?_eq_some_iff_getElem.1 hj
      exact List.mem_cons_of_mem _ (List.mem_map.2 ⟨i, List.mem_range.2 hi, rfl⟩)

/-- Of known columns a result shows the values, under the names of the columns. -/
theorem shows_places {columns : List String} (hknown : ∀ n ∈ columns, (t.place? n).isSome = true)
    {x : String × Subject} (hx : x ∈ t.header columns) :
    ∃ p ∈ t.places, x = (t.nameAt p, .column p) := by
  unfold header at hx
  split_ifs at hx
  · obtain ⟨p, hp, rfl⟩ := List.mem_map.1 hx
    exact ⟨p, hp, rfl⟩
  · obtain ⟨name, hname, rfl⟩ := List.mem_map.1 hx
    obtain ⟨p, hp⟩ := Option.isSome_iff_exists.1 (hknown name hname)
    exact ⟨p, mem_places_of_place? hp, by rw [shown, hp]⟩

theorem header_ne_nil (t : Table) {columns : List String} : t.header columns ≠ [] := by
  unfold header
  split_ifs with h
  · exact List.cons_ne_nil _ _
  · exact fun hnil => h (List.isEmpty_iff.2 (List.map_eq_nil_iff.1 hnil))

/-- Values that a row has under the names of the columns are located in these columns. -/
theorem Named.located_places (ht : t.Named) {e : Entry} {assignments : List (String × Cell)}
    (h : ∀ a ∈ assignments, ∃ p ∈ t.places, a = (t.nameAt p, e.get p)) (fault : String → Fault) :
    ∃ values, t.located fault assignments = .ok values ∧ ∀ x ∈ values, x.2 = e.get x.1 := by
  have hplace : ∀ a ∈ assignments, ∃ p, t.place? a.1 = some p ∧ a.2 = e.get p := by
    intro a ha
    obtain ⟨p, hp, rfl⟩ := h a ha
    exact ⟨p, ht.place? hp, rfl⟩
  obtain ⟨values, hvalues⟩ : ∃ values, t.located fault assignments = .ok values := by
    refine mapM_ok_iff.2 fun a ha => ?_
    obtain ⟨p, hp, -⟩ := hplace a ha
    exact ⟨(p, a.2), by simp only [hp]⟩
  refine ⟨values, hvalues, fun x hx => ?_⟩
  obtain ⟨a, ha, hx⟩ := forall₂_mem_right (mapM_eq_ok.1 hvalues) x hx
  obtain ⟨p, hp, hvalue⟩ := hplace a ha
  simp only [hp] at hx
  cases hx
  exact hvalue

variable {columns : List String} (hknown : ∀ n ∈ columns, (t.place? n).isSome = true) {e : Entry}
  (hcarried : ∀ x ∈ t.header columns, (x.2.value e).Carried)
include hknown hcarried

/-- **The values of a row that was read are those of the row**, under the names of their columns. -/
theorem cellsOf_row {row : Assignments}
    (hrow : Assignments.check .update (e.row (t.header columns)) = .ok row) :
    ∀ a ∈ cellsOf row, ∃ p ∈ t.places, a = (t.nameAt p, e.get p) := by
  intro a ha
  obtain ⟨c, hc, rfl⟩ := List.mem_map.1 ha
  have hentry : (c.1.name, c.2) ∈ (e.row (t.header columns)).entries := by
    rw [← (Assignments.check_ok hrow).2]
    exact List.mem_map_of_mem hc
  obtain ⟨x, hx, hshown⟩ := List.mem_map.1 (Record.mem_entries_ofList hentry)
  obtain ⟨p, hp, rfl⟩ := shows_places hknown hx
  have hvalue : (e.get p).Carried := hcarried _ hx
  obtain ⟨hname, hjson⟩ := Prod.mk.inj hshown
  have hback : Cell.ofJson c.2 = e.get p := by
    rw [← hjson]
    exact Cell.ofJson_json hvalue
  exact ⟨p, hp, Prod.ext hname.symm hback⟩

end Table

/-- A row that was read has the names that are shown, and can be given to an update if these are names
that can be written. -/
theorem check_row {e : Entry} {header : List (String × Subject)} (hne : header ≠ [])
    (hvalid : ∀ x ∈ header, Identifier.Valid x.1) :
    ∃ row, Assignments.check .update (e.row header) = .ok row := by
  have hnames {n : String} : n ∈ (e.row header).names ↔ n ∈ header.map Prod.fst := by
    rw [Entry.row, Record.mem_names_ofList, List.map_map]
    rfl
  refine Assignments.check_ok_iff.2 ⟨?_, fun n hn => ?_⟩
  · obtain ⟨x, hx⟩ := List.exists_mem_of_ne_nil header hne
    exact List.ne_nil_of_mem (hnames.2 (List.mem_map_of_mem hx))
  · obtain ⟨x, hx, rfl⟩ := List.mem_map.1 (hnames.1 hn)
    exact hvalid x hx

/-- The rows of a result are rows of the table. -/
theorem row_of_select {s : Contents} {q : Select} {t : Table} (ht : s.find? q.table.name = some t)
    {rows : List Row} (h : s.select q = .ok rows) {row : Row} (hrow : row ∈ rows) :
    ∃ e ∈ t.entries.list, row = e.row (t.header (q.columns.map Identifier.name)) := by
  obtain ⟨u, hu, h⟩ := bind_eq_ok.1 h
  obtain rfl : t = u := Option.some.inj (ht.symm.trans (find?_of_get hu))
  have hpage : ∀ {limit offset : Option Nat} {l l' : List Row}, page limit offset l = .ok l' →
      ∀ x ∈ l', x ∈ l := by
    intro limit offset l l' h x hx
    unfold page at h
    split_ifs at h
    · cases h
      cases hx
    · cases h
      cases limit with
      | none => exact List.mem_of_mem_drop hx
      | some n => exact List.mem_of_mem_drop (List.mem_of_mem_take hx)
  obtain ⟨e, he, rfl⟩ := List.mem_map.1 (hpage h row hrow)
  exact ⟨e, List.mem_of_mem_filter (List.mem_mergeSort.1 he), rfl⟩

/-- **An update of a row with values of its own** leaves the store as it is and counts one, unless a
foreign key stands in the way. -/
theorem update_self {s : Contents} (hs : Consistent s) {t : Table} {e : Entry}
    (he : e ∈ t.entries.list) {table : String} (ht : s.find? table = some t)
    {assignments : List (String × Cell)}
    (hown : ∀ a ∈ assignments, ∃ p ∈ t.places, a = (t.nameAt p, e.get p)) {tests : List Test}
    (hpicked : t.entries.list.filter (t.picks tests) = [e]) :
    s.update table assignments (picking s table tests) = .ok (s, 1) ∨
      ∃ f, s.update table assignments (picking s table tests) = .error f ∧ f.OfKeys ∧ t.Keyed s := by
  have hnamed : t.Named := (hs.tables t (List.mem_of_find?_eq_some ht)).named
  obtain ⟨values, hlocated, hvalues⟩ := hnamed.located_places hown .noColumn
  have hallows := update_own hs he hvalues ht hlocated hpicked
  rw [picking_eq ht]
  cases hupdate : s.update table assignments (t.picks tests) with
  | ok x =>
    rw [hupdate] at hallows
    exact .inl (congrArg _ hallows)
  | error f =>
    rw [hupdate] at hallows
    exact .inr ⟨f, rfl, hallows⟩

/-- JSON carries all values that a result shows of a row, under names that can be written. -/
def Entry.Portable (e : Entry) (header : List (String × Subject)) : Prop :=
  ∀ x ∈ header, (x.2.value e).Carried ∧ Identifier.Valid x.1

instance (e : Entry) (header : List (String × Subject)) : Decidable (e.Portable header) :=
  inferInstanceAs (Decidable (∀ x ∈ header, (x.2.value e).Carried ∧
    x.1 ≠ "" ∧ '\x00' ∉ x.1.toList ∧ x.1.utf8ByteSize ≤ 128))

/-- A book with a title that looks like a number, a price and no cover. -/
def shelf : Except Fault Contents := do
  let s ← Contents.create ⟨[]⟩ ⟨"books", by decide, by decide, by decide⟩
    ["\"title\" TEXT NOT NULL", "\"price\" REAL", "\"cover\" BLOB"]
  s.insert "books" [("title", .text "7"), ("price", .integer 2)]

/-- A read of all columns of the books. -/
def allBooks : Select := ⟨⟨"books", by decide, by decide, by decide⟩, [], [], [], none, none⟩

/-- The book on the shelf. -/
def book : Entry := ⟨1, [.text "7", .real (Double.ofInt 2), .null]⟩

/-- A rack with crates that refer to its label, which is not known to be the only one. -/
def storeroom : Except Fault Contents := do
  let s ← Contents.create ⟨[]⟩ ⟨"racks", by decide, by decide, by decide⟩ ["\"label\" TEXT"]
  let s ← s.create ⟨"crates", by decide, by decide, by decide⟩
    ["\"rack\" TEXT REFERENCES \"racks\"(\"label\")"]
  s.insert "racks" [("label", .text "top")]

end TableService.Store
