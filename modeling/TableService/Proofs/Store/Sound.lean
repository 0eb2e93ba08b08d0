/-
  What holds of every store that statements lead to.

  * `Table.Sound`: columns and rows of a table are in order.  The names of the columns are distinct,
    every row has a cell for each column that the column holds as it is, none is missing that is
    required, and no two rows have the same unique values.
  * `run_keeps`, `update_keeps`: what is kept when a deed makes something of one row is kept by a
    statement, whatever foreign keys make of other rows and whatever rows make way.
  * `Arises`: the stores that statements lead to, from one without tables; `Arises.consistent`: in
    each of them the names of the tables are distinct and all tables are sound.
  * `maintains_arises`: the embedded database holds such a store, whatever it is asked for.
-/
import TableService.Proofs.Store.Actions
import TableService.Proofs.Store.Affinity
import TableService.Proofs.Store.Stable
import TableService.Store.Statement

namespace TableService.Store

/-! ## Rows -/

namespace Table

/-- A row of the table: every column holds its value as it is, and has one if it needs one. -/
structure Suits (t : Table) (e : Entry) : Prop where
  length : e.cells.length = t.columns.length
  held : ∀ i, (t.affinityAt (.cell i)).store (e.get (.cell i)) = e.get (.cell i)
  required : ∀ {c : Column} {i : Nat}, t.columns[i]? = some c → c.required.isSome = true →
    e.get (.cell i) ≠ .null

/-- Columns and rows of a table are in order. -/
structure Sound (t : Table) : Prop where
  named : t.Named
  suits : ∀ e ∈ t.entries.list, t.Suits e
  distinct : ∀ x ∈ t.entries.list, ∀ e ∈ t.entries.list, x.id ≠ e.id → ¬ t.Clash x e

variable {t : Table} {e x : Entry}

/-! ## Values given to a row -/

/-- The key that a row has with new values. -/
def keyWith (e : Entry) (values : List (Place × Cell)) : Except Fault Int64 :=
  match values.lookup .key with
  | some v => keyOf v
  | none => .ok e.id

/-- The cells that a row has with new values. -/
def cellsWith (t : Table) (e : Entry) (values : List (Place × Cell)) : List Cell :=
  t.columns.zipIdx.map fun (c, i) =>
    match values.lookup (.cell i) with
    | some v => c.affinity.store v
    | none => e.get (.cell i)

theorem assigned_eq (t : Table) (e : Entry) (values : List (Place × Cell)) :
    t.assigned e values = (keyWith e values).map fun id => ⟨id, t.cellsWith e values⟩ := by
  unfold assigned keyWith
  cases values.lookup .key with
  | none => rfl
  | some v => cases h : keyOf v <;> rfl

section
variable {values : List (Place × Cell)} {new : Entry} (h : t.assigned e values = .ok new)
include h

theorem cells_of_assigned : new.cells = t.cellsWith e values := by
  rw [assigned_eq, map_eq_ok] at h
  obtain ⟨id, -, rfl⟩ := h
  rfl

theorem length_of_assigned : new.cells.length = t.columns.length := by
  rw [cells_of_assigned h, cellsWith, List.length_map, List.length_zipIdx]

/-- A column has the value that it is given, or the one that it had. -/
theorem get_of_assigned {c : Column} {i : Nat} (hc : t.columns[i]? = some c) :
    new.get (.cell i) = match values.lookup (.cell i) with
      | some v => c.affinity.store v
      | none => e.get (.cell i) := by
  rw [Entry.get, cells_of_assigned h, cellsWith, List.getD_eq_getElem?_getD, List.getElem?_map,
    List.getElem?_zipIdx, hc, Nat.zero_add]
  rfl

theorem held_of_assigned
    (held : ∀ i, (t.affinityAt (.cell i)).store (e.get (.cell i)) = e.get (.cell i)) (i : Nat) :
    (t.affinityAt (.cell i)).store (new.get (.cell i)) = new.get (.cell i) := by
  cases hc : t.columns[i]? with
  | none => rw [affinityAt, hc]; rfl
  | some c =>
    have haffinity : t.affinityAt (.cell i) = c.affinity := by rw [affinityAt, hc]; rfl
    rw [get_of_assigned h hc, haffinity]
    split
    · exact Affinity.store_store ..
    · exact haffinity ▸ held i

/-- **New values for a row of the table make a row of the table** if its constraints admit it. -/
theorem Suits.of_assigned (he : t.Suits e) {own : Option Int64}
    (hcheck : t.checkRow (Deed.assign values).scope.touches own new = .ok ()) : t.Suits new where
  length := length_of_assigned h
  held := held_of_assigned h he.held
  required {c i} hc hrequired := by
    by_cases hset : (Deed.assign values).scope.touches (.cell i) = true
    · exact (checkRow_ok_iff.1 hcheck).1 c i hc hrequired hset
    · have hlookup : values.lookup (.cell i) = none := by
        refine List.lookup_eq_none_iff.2 fun x hx => bne_iff_ne.2 fun hplace => hset ?_
        exact List.contains_iff_mem.2 (List.mem_map.2 ⟨x, hx, hplace.symm⟩)
      rw [get_of_assigned h hc, hlookup]
      exact he.required hc hrequired

end

/-! ## Rows of a sound table -/

theorem Suits.withRows (h : t.Suits e) (entries : Entries) (issued : Int64) :
    Suits { t with entries, issued } e := ⟨h.length, h.held, h.required⟩

/-- Adding a row to a sound table, in place of one with the same key. -/
theorem Sound.put (h : t.Sound) (he : t.Suits e)
    (hnew : ∀ x ∈ t.entries.list, x.id ≠ e.id → ¬ t.Clash x e) (issued : Int64) :
    Table.Sound { t with entries := t.entries.put e, issued } where
  named := h.named
  suits x hx := by
    refine Suits.withRows ?_ _ issued
    rcases Entries.mem_putEntry hx with rfl | hx
    · exact he
    · exact h.suits x hx
  distinct x hx y hy hid := by
    rcases Entries.mem_putEntry hx with hxe | hxt <;> rcases Entries.mem_putEntry hy with hye | hyt
    · exact absurd (congrArg Entry.id (hxe.trans hye.symm)) hid
    · exact fun hclash => hnew y hyt (hxe ▸ Ne.symm hid) (hxe ▸ Clash.symm hclash)
    · exact fun hclash => hnew x hxt (hye ▸ hid) (hye ▸ hclash)
    · exact h.distinct x hxt y hyt hid

theorem Sound.erase (h : t.Sound) (id : Int64) :
    Table.Sound { t with entries := t.entries.erase id } where
  named := h.named
  suits x hx := (h.suits x (List.mem_of_mem_filter hx)).withRows _ _
  distinct x hx y hy := h.distinct x (List.mem_of_mem_filter hx) y (List.mem_of_mem_filter hy)

/-- **What a deed makes of a row leaves the table sound.** -/
theorem Sound.turn (h : t.Sound) (he : e ∈ t.entries.list) {deed : Deed} {new : Option Entry}
    (hturns : deed.Turns t e new) :
    Table.Sound { t with entries := RowChange.rows ⟨t.name, e, new⟩ t.entries } := by
  obtain ⟨hmakes, hadmitted⟩ := hturns
  cases hmakes with
  | remove => exact h.erase e.id
  | assign hassigned =>
    rename_i values new
    have hcheck := hadmitted new rfl
    have hsuits := (h.suits e he).of_assigned hassigned hcheck
    refine (h.erase e.id).put (hsuits.withRows _ _) ?_ t.issued
    intro x hx _
    obtain ⟨hx, hid⟩ := List.mem_filter.1 hx
    exact (checkRow_ok_iff.1 hcheck).2.2 x hx (by simpa using hid)

end Table

/-! ## Stores -/

/-- All tables are in order, and their names are distinct. -/
structure Consistent (s : Contents) : Prop where
  names : (s.tables.map fun t => Text.lowerAscii t.name).Nodup
  tables : ∀ t ∈ s.tables, t.Sound

namespace Consistent
variable {s : Contents}

/-- A table is the only one of its name. -/
theorem eq_of_find? (h : Consistent s) {name : String} {t u : Table} (ht : s.find? name = some t)
    (hu : u ∈ s.tables) (hname : sameName t.name u.name = true) : u = t :=
  List.inj_on_of_nodup_map h.names hu (List.mem_of_find?_eq_some ht) (beq_iff_eq.1 hname).symm

/-- Changing the table of a name keeps a store in order if the table remains so. -/
theorem changeTable (h : Consistent s) {name : String} {t : Table} (ht : s.find? name = some t)
    {f : Table → Table} (hname : ∀ u, (f u).name = u.name) (hf : (f t).Sound) :
    Consistent ⟨s.tables.map fun u => if sameName t.name u.name then f u else u⟩ where
  names := by
    rw [List.map_map]
    have hsame : (fun u : Table => Text.lowerAscii u.name) ∘
        (fun u => if sameName t.name u.name then f u else u) =
          fun u => Text.lowerAscii u.name := by
      funext u
      rw [Function.comp_apply]
      split_ifs
      · rw [hname]
      · rfl
    rw [hsame]
    exact h.names
  tables := by
    intro u hu
    obtain ⟨v, hv, rfl⟩ := List.mem_map.1 hu
    split_ifs with hsame
    · rw [h.eq_of_find? ht hv hsame]
      exact hf
    · exact h.tables v hv

/-- **What a deed makes of a row leaves a store consistent.** -/
theorem turn (h : Consistent s) {t : Table} (ht : s.find? t.name = some t) {e : Entry}
    (he : t.entries.get? e.id = some e) {deed : Deed} {new : Option Entry}
    (hturns : deed.Turns t e new) : Consistent (s.after [⟨t.name, e, new⟩]) :=
  h.changeTable ht (f := fun u => { u with entries := RowChange.rows ⟨t.name, e, new⟩ u.entries })
    (fun _ => rfl)
    ((h.tables t (List.mem_of_find?_eq_some ht)).turn (Entries.get?_eq_some.1 he).1 hturns)

theorem create (h : Consistent s) {table : Identifier} {definitions : List String} {s' : Contents}
    (hs' : s.create table definitions = .ok s') : Consistent s' := by
  obtain ⟨-, d, hd, rfl⟩ := create_eq_ok.1 hs'
  cases hfind : s.find? table.name with
  | some t => exact h
  | none =>
    have hfresh : (draft s table definitions).Blank := ⟨List.nodup_singleton keyName, rfl⟩
    have hblank : d.Blank := Draft.stable_blank.read hfresh hd
    have hname := name_of_read hfind hd
    refine ⟨?_, fun t ht => ?_⟩
    · rw [if_neg (by simp), List.map_append, List.nodup_append]
      refine ⟨h.names, List.nodup_singleton _, ?_⟩
      rintro a ha b hb rfl
      obtain ⟨u, hu, hlower⟩ := List.mem_map.1 ha
      have hsame : Text.lowerAscii d.table.name = Text.lowerAscii u.name :=
        (List.mem_singleton.1 hb).symm.trans hlower.symm
      rw [hname] at hsame
      exact List.find?_eq_none.1 hfind u hu (beq_iff_eq.2 hsame)
    · rw [if_neg (by simp)] at ht
      rcases List.mem_append.1 ht with ht | ht
      · exact h.tables t ht
      · obtain rfl := List.mem_singleton.1 ht
        refine ⟨hblank.named, ?_, ?_⟩ <;> rw [hblank.rows] <;> exact nofun

end Consistent

/-! ## Statements -/

/-- The property of stores is kept when a deed makes something of one row. -/
def Kept (P : Contents → Prop) : Prop :=
  ∀ {s : Contents} {t : Table} {e : Entry} {deed : Deed} {new : Option Entry}, P s →
    s.find? t.name = some t → t.entries.get? e.id = some e → deed.Turns t e new →
      P (s.after [⟨t.name, e, new⟩])

section
variable {P : Contents → Prop} (hP : Kept P)
include hP

section
variable {perform : Progress → Change → Except Fault Progress}
  (hperform : ∀ {p p' : Progress} {c : Change}, P p.store → perform p c = .ok p' → P p'.store)
  {p p' : Progress}
include hperform

theorem row_keeps {deed : Deed} (hdeed : deed ≠ .refuse) {t : Table} {e : Entry} (hp : P p.store)
    (ht : p.store.find? t.name = some t) (he : t.entries.get? e.id = some e)
    (h : deed.row perform t p e = .ok p') : P p'.store := by
  obtain ⟨new, p₁, m, hturns, -, hp₁, -, -, h⟩ := row_ok hdeed ht he h
  refine foldlM_keeps (P := fun p : Progress => P p.store) (fun _ _ _ _ => hperform) ?_ h
  rw [hp₁]
  exact hP hp ht he hturns

theorem carryOut_keeps {c : Change} {n : Nat} (hp : P p.store)
    (h : c.carryOut perform p = .ok (p', n)) : P p'.store := by
  by_cases hdeed : c.deed = .refuse
  · obtain rfl := carryOut_refuse hdeed h
    exact hp
  rw [carryOut_row hdeed] at h
  obtain ⟨t, -, h⟩ := bind_eq_ok.1 h
  refine foldlM_keeps (P := fun x : Progress × Nat => P x.1.store) ?_ hp h
  intro e _ state state' hstate hturn
  obtain ⟨now, hnow, hturn⟩ := bind_eq_ok.1 hturn
  cases hget : now.entries.get? e.id with
  | none =>
    rw [hget] at hturn
    cases hturn
    exact hstate
  | some x =>
    rw [hget] at hturn
    obtain ⟨_, hrow, hturn⟩ := bind_eq_ok.1 hturn
    cases hturn
    have hid : x.id = e.id := (Entries.get?_eq_some.1 hget).2
    exact row_keeps hP hperform hdeed hstate (find?_self (find?_of_get hnow)) (hid ▸ hget) hrow

end

theorem perform_keeps : ∀ (depth : Nat) {p p' : Progress} {c : Change}, P p.store →
    perform depth p c = .ok p' → P p'.store
  | 0, _, _, _, _, h => by cases h
  | depth + 1, _, _, _, hp, h => by
    obtain ⟨_, hcarry, h⟩ := bind_eq_ok.1 h
    cases h
    exact carryOut_keeps hP (perform_keeps depth) hp hcarry

/-- **What is kept when a deed makes something of one row is kept by a statement**, whatever foreign
keys make of other rows. -/
theorem run_keeps {s s' : Contents} {c : Change} {n : Nat} (hs : P s) (h : s.run c = .ok (s', n)) :
    P s' := by
  obtain ⟨_, -, h⟩ := bind_eq_ok.1 h
  obtain ⟨_, -, h⟩ := bind_eq_ok.1 h
  obtain ⟨⟨p, count⟩, hcarry, h⟩ := bind_eq_ok.1 h
  obtain ⟨_, -, h⟩ := bind_eq_ok.1 h
  cases h
  exact carryOut_keeps hP (perform_keeps hP maxLevels) hs hcarry

theorem makeWay_keeps {t : Table} {own : Option Int64} {e : Entry} {p p' : Progress}
    (hp : P p.store) (h : makeWay t own e p = .ok p') : P p'.store :=
  foldlM_keeps (P := fun p : Progress => P p.store) (fun _ _ _ _ hp h => perform_keeps hP _ hp h)
    hp h

/-- **What a statement makes of a row that it gives new values**, with the rows that make way, keeps
this too. -/
theorem revise_keeps {values : List (Place × Cell)} {t : Table} {state state' : Progress × Nat}
    {e : Entry} (hstate : P state.1.store) (h : reviseRow values t state e = .ok state') :
    P state'.1.store := by
  cases revised_of_ok h with
  | passed => exact hstate
  | gone hway => exact makeWay_keeps hP hstate hway
  | assigned hway hnow hstays hrow =>
    have hdeed : Deed.assign (t.filled values) ≠ .refuse := nofun
    exact row_keeps hP (fun {_ _ _} => perform_keeps hP maxLevels) hdeed
      (makeWay_keeps hP hstate hway) (find?_self (find?_of_get hnow)) hstays hrow

theorem update_keeps {s s' : Contents} {table : String} {assignments : List (String × Cell)}
    {picks : Entry → Bool} {n : Nat} (hs : P s)
    (h : s.update table assignments picks = .ok (s', n)) : P s' := by
  obtain ⟨t, values, p, -, -, -, hturns, -, rfl⟩ := update_ok h
  refine foldlM_keeps (P := fun x : Progress × Nat => P x.1.store) ?_ hs hturns
  intro e _ state state' hstate hvisit
  rcases Change.visit_ok hvisit with rfl | ⟨now, x, -, -, hrow⟩
  · exact hstate
  · exact revise_keeps hP hstate hrow

end

/-! ## Insertion -/

/-- What rows have nothing to do with is kept. -/
theorem kept_layout (s : Contents) :
    Kept fun s' => s'.tables.map Table.layout = s.tables.map Table.layout :=
  fun h _ _ _ => layout_after.trans h

theorem Consistent.kept : Kept Consistent := fun hs ht he hturns => hs.turn ht he hturns

/-- The columns hold what a new row has in them. -/
theorem Table.held_blank (t : Table) (id : Int64) (i : Nat) :
    (t.affinityAt (.cell i)).store ((t.blank id).get (.cell i)) = (t.blank id).get (.cell i) := by
  cases hc : t.columns[i]? with
  | none =>
    rw [affinityAt, hc]
    rfl
  | some c =>
    have hcell : (t.blank id).get (.cell i) = c.affinity.store (c.initial.getD .null) := by
      rw [Entry.get, blank, List.getD_eq_getElem?_getD, List.getElem?_map, hc]
      rfl
    rw [hcell, affinityAt, hc]
    exact Affinity.store_store ..

/-- Giving out a key changes no column. -/
theorem layout_issue {s : Contents} (t : Table) (id : Int64) :
    (s.issue t id).tables.map Table.layout = s.tables.map Table.layout := by
  rw [Contents.issue, List.map_map]
  refine List.map_congr_left fun u _ => ?_
  rw [Function.comp_apply]
  split_ifs <;> rfl

/-- **A row that is added** is put into its table, and others may have made way for it; or the
statement goes on without it. -/
theorem add_ok {s s' : Contents} {t : Table} {e : Entry} (h : s.add t e = .ok s') :
    s' = s ∨ ∃ p now, makeWay t none e ⟨s, 0⟩ = .ok p ∧ p.store.get t.name = .ok now ∧
      now.checkRow (fun _ => true) none e = .ok () ∧ s' = p.store.putEntry now e := by
  unfold Contents.add at h
  split at h
  · split_ifs at h
    cases h
    exact .inl rfl
  · obtain ⟨p, hway, h⟩ := bind_eq_ok.1 h
    obtain ⟨now, hnow, h⟩ := bind_eq_ok.1 h
    obtain ⟨_, hcheck, h⟩ := bind_eq_ok.1 h
    obtain ⟨_, -, h⟩ := bind_eq_ok.1 h
    obtain ⟨q, harrive, h⟩ := bind_eq_ok.1 h
    obtain ⟨_, -, h⟩ := bind_eq_ok.1 h
    cases h
    rw [Progress.arrive_store harrive]
    exact .inr ⟨p, now, hway, hnow, hcheck, rfl⟩

namespace Consistent
variable {s : Contents}

theorem issue (h : Consistent s) {name : String} {t : Table} (ht : s.find? name = some t)
    (id : Int64) : Consistent (s.issue t id) := by
  obtain ⟨hnamed, hsuits, hdistinct⟩ := h.tables t (List.mem_of_find?_eq_some ht)
  exact h.changeTable ht (f := fun u => { u with issued := max u.issued id }) (fun _ => rfl)
    ⟨hnamed, fun e he => (hsuits e he).withRows t.entries _, hdistinct⟩

theorem insert (h : Consistent s) {table : String} {assignments : List (String × Cell)}
    {s' : Contents} (hs' : s.insert table assignments = .ok s') : Consistent s' := by
  obtain ⟨t, ht, hs'⟩ := bind_eq_ok.1 hs'
  obtain ⟨values, -, hs'⟩ := bind_eq_ok.1 hs'
  obtain ⟨_, -, hs'⟩ := bind_eq_ok.1 hs'
  obtain ⟨id, -, hs'⟩ := bind_eq_ok.1 hs'
  obtain ⟨e, he, hs'⟩ := bind_eq_ok.1 hs'
  have hissued := h.issue (find?_of_get ht) id
  rcases add_ok hs' with rfl | ⟨p, now, hway, hnow, hcheck, rfl⟩
  · exact hissued
  have hp : Consistent p.store := makeWay_keeps kept hissued hway
  -- the table has the same columns once others have made way
  have hlayout : p.store.tables.map Table.layout = s.tables.map Table.layout :=
    (makeWay_keeps (kept_layout _) rfl hway).trans (layout_issue t id)
  obtain ⟨t', ht', hsame⟩ := find?_layout hlayout (find?_of_get hnow)
  obtain rfl : t = t' := Option.some.inj ((find?_self (find?_of_get ht)).symm.trans ht')
  have hadmitted := Table.checkRow_ok_iff.1 hcheck
  have hsuits : now.Suits e := by
    refine ⟨?_, ?_, fun hc hrequired => hadmitted.1 _ _ hc hrequired rfl⟩
    · rw [← Table.eq_of_layout hsame Table.columns fun _ => rfl]
      exact Table.length_of_assigned he
    · rw [← Table.eq_of_layout hsame Table.affinityAt fun _ => rfl]
      exact Table.held_of_assigned he (t.held_blank id)
  have hname := find?_self (find?_of_get hnow)
  exact hp.changeTable hname (fun _ => rfl) ((hp.tables now (List.mem_of_find?_eq_some hname)).put
    hsuits (fun x hx _ => hadmitted.2.2 x hx nofun) now.issued)

end Consistent

/-- The stores that statements lead to, from one without tables. -/
inductive Arises : Contents → Prop
  | empty : Arises ⟨[]⟩
  | create {s s' : Contents} {table : Identifier} {definitions : List String} (hs : Arises s)
    (h : s.create table definitions = .ok s') : Arises s'
  | insert {s s' : Contents} {table : String} {assignments : List (String × Cell)} (hs : Arises s)
    (h : s.insert table assignments = .ok s') : Arises s'
  | update {s s' : Contents} {table : String} {assignments : List (String × Cell)}
    {picks : Entry → Bool} {n : Nat} (hs : Arises s)
    (h : s.update table assignments picks = .ok (s', n)) : Arises s'
  | delete {s s' : Contents} {table : String} {picks : Entry → Bool} {n : Nat} (hs : Arises s)
    (h : s.delete table picks = .ok (s', n)) : Arises s'

namespace Arises
variable {s s' : Contents}

/-- **Every store that statements lead to is consistent.** -/
theorem consistent (h : Arises s) : Consistent s := by
  induction h with
  | empty => exact ⟨.nil, nofun⟩
  | create _ h ih => exact ih.create h
  | insert _ h ih => exact ih.insert h
  | update _ h ih => exact update_keeps Consistent.kept ih h
  | delete _ h ih => exact run_keeps Consistent.kept ih h

/-- So do statements that are given as texts. -/
theorem request (hs : Arises s) {sql : String} {params : List Json} {x : Answer}
    (h : Request.run s sql params = .ok (s', x)) : Arises s' := by
  obtain ⟨request, -, h⟩ := bind_eq_ok.1 h
  cases request with
  | nothing | pragma | literals =>
    obtain ⟨_, -, h⟩ := bind_eq_ok.1 h
    cases h
    exact hs
  | select =>
    obtain ⟨_, -, h⟩ := bind_eq_ok.1 h
    obtain ⟨_, -, h⟩ := bind_eq_ok.1 h
    obtain ⟨_, -, h⟩ := bind_eq_ok.1 h
    obtain ⟨_, -, h⟩ := bind_eq_ok.1 h
    obtain ⟨_, -, h⟩ := bind_eq_ok.1 h
    obtain ⟨_, -, h⟩ := bind_eq_ok.1 h
    cases h
    exact hs
  | insert =>
    obtain ⟨_, -, h⟩ := bind_eq_ok.1 h
    obtain ⟨_, -, h⟩ := bind_eq_ok.1 h
    obtain ⟨_, -, h⟩ := bind_eq_ok.1 h
    obtain ⟨_, hinsert, h⟩ := bind_eq_ok.1 h
    cases h
    exact hs.insert hinsert
  | update =>
    obtain ⟨_, -, h⟩ := bind_eq_ok.1 h
    obtain ⟨_, -, h⟩ := bind_eq_ok.1 h
    obtain ⟨_, -, h⟩ := bind_eq_ok.1 h
    obtain ⟨_, -, h⟩ := bind_eq_ok.1 h
    obtain ⟨_, hupdate, h⟩ := bind_eq_ok.1 h
    cases h
    exact hs.update hupdate
  | delete =>
    obtain ⟨_, -, h⟩ := bind_eq_ok.1 h
    obtain ⟨_, -, h⟩ := bind_eq_ok.1 h
    obtain ⟨_, -, h⟩ := bind_eq_ok.1 h
    obtain ⟨_, hdelete, h⟩ := bind_eq_ok.1 h
    cases h
    exact hs.delete hdelete

end Arises

/-! ## The embedded database -/

/-- Whatever a database is asked for, it keeps what holds of its state. -/
structure Maintains {σ : Type} (I : σ → Prop) (db : Database σ) : Prop where
  createTable : ∀ table definitions, Keeps I (db.createTable table definitions)
  insert : ∀ c, Keeps I (db.insert c)
  select : ∀ c, Keeps I (db.select c)
  update : ∀ c, Keeps I (db.update c)
  delete : ∀ c, Keeps I (db.delete c)
  execute : ∀ s, Keeps I (db.execute s)
  fetch : ∀ s, Keeps I (db.fetch s)
  tableExists : ∀ table, Keeps I (db.tableExists table)
  disconnect : Keeps I db.disconnect

/-- The store of a connection, if it has one, is one that statements lead to. -/
def Connection.Arises : Connection → Prop
  | .open s => Store.Arises s
  | .closed | .unreadable => True

theorem keeps_changing {α : Type} {f : Contents → Except Fault (Contents × α)}
    (hf : ∀ {s s' a}, Arises s → f s = .ok (s', a) → Arises s') :
    Keeps Connection.Arises (changing f) := by
  rintro ⟨c, log⟩ hc
  rcases changing_outcome f c with ⟨e, h⟩ | ⟨s, s', a, rfl, hs'⟩
  · rw [h log]
    exact hc
  · rw [changing_ok hs' log]
    exact hf hc hs'

/-- **The embedded database stays one that statements lead to**, whatever it is asked for. -/
theorem maintains_arises : Maintains Connection.Arises database where
  createTable table definitions := by
    refine Keeps.bind (fun _ h => h) fun table => keeps_changing fun hs h => ?_
    obtain ⟨_, hcreate, h⟩ := bind_eq_ok.1 h
    cases h
    exact hs.create hcreate
  insert c := keeps_changing fun hs h => by
    obtain ⟨_, hinsert, h⟩ := bind_eq_ok.1 h
    cases h
    exact hs.insert hinsert
  select c := by
    intro w h
    rw [select_state]
    exact h
  update c := keeps_changing fun hs h => hs.update h
  delete c := keeps_changing fun hs h => hs.delete h
  execute statement := keeps_changing fun hs h => by
    obtain ⟨_, hrequest, h⟩ := bind_eq_ok.1 h
    cases h
    exact hs.request hrequest
  fetch statement := keeps_changing fun hs h => by
    obtain ⟨_, hrequest, h⟩ := bind_eq_ok.1 h
    cases h
    exact hs.request hrequest
  tableExists table := by
    rintro ⟨_ | _ | _, log⟩ h <;> exact h
  disconnect := by
    rintro ⟨_ | _ | _, log⟩ h
    · trivial
    · exact h
    · trivial

end TableService.Store
