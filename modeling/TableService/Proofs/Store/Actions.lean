/-
  What foreign keys do to other rows when a row changes.

  * A `RowChange` is what happens to one row; `Contents.after` is a store after some of them.
  * `Asks`: after the change of a row, a foreign key that referred to a value of it asks for a
    change of the rows that refer to that value.
  * `Ensue`: every one of a list of changes is asked for by a foreign key after an earlier change.
  * `perform_traces`: what foreign keys do is a list of changes that ensue, however deep they act on
    each other; `run_single`: so a statement that picks one row changes this row, and all other
    changes ensue.
-/
import TableService.Proofs.Schema.Actual
import TableService.Proofs.Store.Constraint

namespace TableService.Store

/-! ## Changes of rows -/

/-- The change of a row of a table; without new values the row is removed. -/
structure RowChange where
  table : String
  old : Entry
  new : Option Entry

namespace RowChange

/-- The rows of the table after the change. -/
def rows (x : RowChange) (entries : Entries) : Entries :=
  match x.new with
  | none => entries.erase x.old.id
  | some e => (entries.erase x.old.id).put e

/-- A table after the change. -/
def onTable (x : RowChange) (u : Table) : Table :=
  if sameName x.table u.name then { u with entries := x.rows u.entries } else u

end RowChange

namespace Contents

/-- A store after changes of rows, one after the other. -/
def after (s : Contents) (xs : List RowChange) : Contents :=
  xs.foldl (fun s x => ⟨s.tables.map x.onTable⟩) s

/-- The row with a key in a table of this name. -/
def row (s : Contents) (table : String) (id : Int64) : Option Entry :=
  (s.find? table).bind fun t => t.entries.get? id

end Contents

/-- The row is there as it was, and a new key that it gets is not taken. -/
structure RowChange.Fits (s : Contents) (x : RowChange) : Prop where
  found : s.row x.table x.old.id = some x.old
  free : ∀ e ∈ x.new, e.id = x.old.id ∨ s.row x.table e.id = none

/-! ## Foreign keys -/

/-- The foreign key of a table refers to a column of another one. -/
structure Refers (s : Contents) (child : Table) (fk : ForeignKey) (parent : Table) (place : Place) :
    Prop where
  isTable : child ∈ s.tables
  declared : fk ∈ child.foreignKeys
  found : s.find? fk.target = some parent
  column : fk.column.elim (some .key) parent.declared? = some place

/-- What a foreign key does when a row that it refers to changes: the action for its removal, or for
its update. -/
def RowChange.action (x : RowChange) (fk : ForeignKey) : KeyAction :=
  if x.new.isNone then fk.onDelete else fk.onUpdate

/-- What an action of a foreign key does to a row after the change of a row that it referred to. -/
inductive Reaction (x : RowChange) (child : Table) (fk : ForeignKey) (place : Place) : Deed → Prop
  | remove (h : x.action fk = .cascade) (hnew : x.new = none) : Reaction x child fk place .remove
  | follow (h : x.action fk = .cascade) {e : Entry} (hnew : x.new = some e) :
    Reaction x child fk place (.assign [(fk.place, e.get place)])
  | setNull (h : x.action fk = .setNull) : Reaction x child fk place (.assign [(fk.place, .null)])
  | setDefault (h : x.action fk = .setDefault) :
    Reaction x child fk place (.assign [(fk.place, child.initialAt fk.place)])

/-- After the change of a row that took away a value, a foreign key that referred to this value has
its action done to the rows that refer to it. -/
inductive Asks (s : Contents) (x : RowChange) : Change → Prop
  | intro {child parent : Table} {fk : ForeignKey} {place : Place} {deed : Deed}
    (refers : Refers s child fk parent place) (target : sameName fk.target x.table = true)
    (lost : ∀ e ∈ x.new, (e.get place).order (x.old.get place) ≠ .eq)
    (reaction : Reaction x child fk place deed) :
    Asks s x ⟨child.name, deed, fun e => compareWith
      (.between (parent.affinityAt place) (child.affinityAt fk.place)) (x.old.get place)
      (e.get fk.place) == some .eq⟩

/-- The deed makes this of a row of the table. -/
inductive Deed.Makes (t : Table) (e : Entry) : Deed → Option Entry → Prop
  | remove : Makes t e .remove none
  | assign {values : List (Place × Cell)} {new : Entry} (h : t.assigned e values = .ok new) :
    Makes t e (.assign values) (some new)

/-- The change of a row is asked for by a foreign key, at a moment after an earlier change at which
the row was one of those that the foreign key picks. -/
def Due (s : Contents) (past : List RowChange) (y : RowChange) : Prop :=
  ∃ moment, moment <+: past ∧ ∃ x ∈ moment, ∃ c, Asks s x c ∧
    (∃ e, (s.after moment).row c.table y.old.id = some e ∧ c.picks e = true) ∧
    ∃ t, s.find? c.table = some t ∧ t.name = y.table ∧ c.deed.Makes t y.old y.new

/-- All changes are asked for by foreign keys, each after an earlier one. -/
def Ensue (s : Contents) : List RowChange → List RowChange → Prop
  | _, [] => True
  | past, y :: ys => y.Fits (s.after past) ∧ Due s past y ∧ Ensue s (past ++ [y]) ys

theorem Ensue.append {s : Contents} {ys zs : List RowChange} : ∀ {past : List RowChange},
    Ensue s past ys → Ensue s (past ++ ys) zs → Ensue s past (ys ++ zs) := by
  induction ys with
  | nil =>
    intro past _ h
    rwa [List.append_nil] at h
  | cons y ys ih =>
    rintro past ⟨hfits, hdue, hys⟩ h
    refine ⟨hfits, hdue, ih hys ?_⟩
    rwa [List.append_assoc]

/-! ## Stores after changes -/

section
variable {s : Contents} {xs ys : List RowChange}

theorem after_append : s.after (xs ++ ys) = (s.after xs).after ys := List.foldl_append

theorem after_concat {x : RowChange} :
    s.after (xs ++ [x]) = ⟨(s.after xs).tables.map x.onTable⟩ := after_append

/-- A table without its rows, which is all of it that no change of a row concerns. -/
def Table.layout (t : Table) : Table := { t with entries := .empty, issued := 0 }

/-- What does not depend on the rows is the same for tables that differ in their rows only. -/
theorem Table.eq_of_layout {β : Type} {t u : Table} (h : t.layout = u.layout) (f : Table → β)
    (hf : ∀ t : Table, f t.layout = f t) : f t = f u := by
  rw [← hf t, h, hf u]

theorem RowChange.layout_onTable (x : RowChange) (u : Table) : (x.onTable u).layout = u.layout := by
  unfold onTable
  split_ifs <;> rfl

theorem RowChange.name_onTable (x : RowChange) (u : Table) : (x.onTable u).name = u.name :=
  Table.eq_of_layout (x.layout_onTable u) Table.name fun _ => rfl

theorem layout_after : (s.after xs).tables.map Table.layout = s.tables.map Table.layout := by
  induction xs generalizing s with
  | nil => rfl
  | cons x xs ih =>
    refine (ih (s := ⟨s.tables.map x.onTable⟩)).trans ?_
    rw [List.map_map]
    exact List.map_congr_left fun u _ => x.layout_onTable u

theorem find?_layout {s s' : Contents} (h : s.tables.map Table.layout = s'.tables.map Table.layout)
    {name : String} {t : Table} (ht : s.find? name = some t) :
    ∃ t', s'.find? name = some t' ∧ t'.layout = t.layout := by
  have hfind (s : Contents) : (s.tables.map Table.layout).find? (fun u => sameName name u.name) =
      (s.find? name).map Table.layout := by
    rw [List.find?_map]
    rfl
  have hboth := (hfind s).symm.trans ((congrArg _ h).trans (hfind s'))
  rw [ht] at hboth
  obtain ⟨t', ht', hlayout⟩ := Option.map_eq_some_iff.1 hboth.symm
  exact ⟨t', ht', hlayout⟩

theorem Refers.layout {s s' : Contents} (h : s.tables.map Table.layout = s'.tables.map Table.layout)
    {child parent : Table} {fk : ForeignKey} {place : Place} (hr : Refers s child fk parent place) :
    ∃ child' parent', Refers s' child' fk parent' place ∧ child'.layout = child.layout ∧
      parent'.layout = parent.layout := by
  have hmem : child.layout ∈ s'.tables.map Table.layout := h ▸ List.mem_map_of_mem hr.isTable
  obtain ⟨child', hchild', hlayout⟩ := List.mem_map.1 hmem
  obtain ⟨parent', hparent', hlayout'⟩ := find?_layout h hr.found
  refine ⟨child', parent', ⟨hchild', ?_, hparent', ?_⟩, hlayout, hlayout'⟩
  · rw [Table.eq_of_layout hlayout Table.foreignKeys fun _ => rfl]
    exact hr.declared
  · rw [Table.eq_of_layout hlayout' Table.declared? fun _ => rfl]
    exact hr.column

theorem Deed.Makes.layout {t t' : Table} (h : t'.layout = t.layout) {e : Entry} {deed : Deed}
    {new : Option Entry} (hm : deed.Makes t e new) : deed.Makes t' e new := by
  cases hm with
  | remove => exact .remove
  | assign hassigned =>
    refine .assign ?_
    rwa [Table.eq_of_layout h Table.assigned fun _ => rfl]

/-- The table that a foreign key refers to is found, as is the column. -/
theorem Refers.of_parent {child parent : Table} {fk : ForeignKey} {place : Place}
    (hchild : child ∈ s.tables) (hfk : fk ∈ child.foreignKeys)
    (h : fk.parent s child = .ok (parent, place)) : Refers s child fk parent place := by
  unfold ForeignKey.parent at h
  split at h
  · cases h
  · rename_i p hfound
    split at h
    · rename_i q hcolumn
      split_ifs at h
      cases h
      exact ⟨hchild, hfk, hfound, hcolumn⟩
    · cases h

end

/-! ## What is asked after the change of a row -/

/-- The change of a row by a deed is as wide as the deed. -/
def RowChange.Spans (x : RowChange) : Scope → Prop
  | .row => x.new = none
  | .columns _ => ∃ e, x.new = some e

theorem RowChange.action_eq {x : RowChange} {scope : Scope} (h : x.Spans scope) (fk : ForeignKey) :
    x.action fk = fk.action scope := by
  unfold action
  cases scope with
  | row => rw [show x.new = none from h]; rfl
  | columns places =>
    obtain ⟨e, he⟩ := h
    rw [he]
    rfl

theorem incoming_mem {s : Contents} {t child : Table} {scope : Scope} {fk : ForeignKey}
    (h : (child, fk) ∈ t.incomingKeys s scope) :
    child ∈ s.tables ∧ fk ∈ child.foreignKeys ∧ sameName fk.target t.name = true := by
  obtain ⟨child', hchild, hmem⟩ := List.mem_flatMap.1 (List.mem_filter.1 h).1
  obtain ⟨fk', hfk, hpair⟩ := List.mem_map.1 hmem
  cases hpair
  exact ⟨List.mem_reverse.1 hchild, List.mem_filter.1 hfk⟩

/-- **What is demanded after the change of a row is what foreign keys ask for**, unless it is to be
refused. -/
theorem asks_of_consequences {s : Contents} {t : Table} {old : Entry} {new : Option Entry}
    {scope : Scope} (hspans : RowChange.Spans ⟨t.name, old, new⟩ scope) {c : Change}
    (hc : c ∈ consequences s t old new scope) : c.deed = .refuse ∨ Asks s ⟨t.name, old, new⟩ c := by
  obtain ⟨⟨child, fk⟩, hincoming, hc⟩ := List.mem_filterMap.1 hc
  obtain ⟨hchild, hfk, htarget⟩ := incoming_mem hincoming
  obtain ⟨⟨parent, place⟩, hparent, hc⟩ := Option.bind_eq_some_iff.1 hc
  have hparent : fk.parent s child = .ok (parent, place) := by
    cases hp : fk.parent s child with
    | error e => rw [hp] at hparent; cases hparent
    | ok x => rw [hp] at hparent; cases hparent; rfl
  -- what the action of the foreign key comes to
  have ask {deed : Deed} (hreaction : Reaction ⟨t.name, old, new⟩ child fk place deed)
      (h : (if (new.any fun e => (e.get place).order (old.get place) == .eq) = true then none
        else some (Change.mk child.name deed fun e => compareWith
          (.between (parent.affinityAt place) (child.affinityAt fk.place)) (old.get place)
          (e.get fk.place) == some .eq)) = some c) : Asks s ⟨t.name, old, new⟩ c := by
    split_ifs at h with hunchanged
    cases h
    have hlost : ∀ e ∈ new, (e.get place).order (old.get place) ≠ .eq := by
      rintro e rfl
      simpa using hunchanged
    exact .intro (.of_parent hchild hfk hparent) htarget hlost hreaction
  have haction := RowChange.action_eq hspans fk
  cases hact : fk.action scope with
  | noAction =>
    simp only [hact] at hc
    cases hc
  | restrict =>
    simp only [hact] at hc
    obtain ⟨_, ⟨rfl⟩, hc⟩ := Option.bind_eq_some_iff.1 hc
    split_ifs at hc
    cases hc
    exact .inl rfl
  | setNull =>
    simp only [hact] at hc
    exact .inr (ask (.setNull (haction.trans hact)) hc)
  | setDefault =>
    simp only [hact] at hc
    exact .inr (ask (.setDefault (haction.trans hact)) hc)
  | cascade =>
    simp only [hact] at hc
    cases new with
    | none => exact .inr (ask (.remove (haction.trans hact) rfl) hc)
    | some e => exact .inr (ask (.follow (haction.trans hact) rfl) hc)

theorem Reaction.layout {x : RowChange} {child child' : Table} (h : child'.layout = child.layout)
    {fk : ForeignKey} {place : Place} {deed : Deed} (hr : Reaction x child fk place deed) :
    Reaction x child' fk place deed := by
  cases hr with
  | remove hact hnew => exact .remove hact hnew
  | follow hact hnew => exact .follow hact hnew
  | setNull hact => exact .setNull hact
  | setDefault hact =>
    rw [← Table.eq_of_layout h Table.initialAt fun _ => rfl]
    exact .setDefault hact

/-- What is asked for does not depend on the rows. -/
theorem Asks.layout {s s' : Contents} (h : s.tables.map Table.layout = s'.tables.map Table.layout)
    {x : RowChange} {c : Change} (hasks : Asks s x c) : Asks s' x c := by
  obtain ⟨hrefers, htarget, hlost, hreaction⟩ := hasks
  obtain ⟨child', parent', hrefers', hchild, hparent⟩ := hrefers.layout h
  rw [← Table.eq_of_layout hchild Table.name fun _ => rfl,
    ← Table.eq_of_layout hchild Table.affinityAt fun _ => rfl,
    ← Table.eq_of_layout hparent Table.affinityAt fun _ => rfl]
  exact .intro hrefers' htarget hlost (hreaction.layout hchild)

/-! ## The change of one row -/

namespace Progress
variable {p p' : Progress} {t : Table} {scope : Scope} {e : Entry}

theorem leave_store (h : p.leave t scope e = .ok p') : p'.store = p.store := by
  obtain ⟨_, -, h⟩ := bind_eq_ok.1 h
  obtain ⟨_, -, h⟩ := bind_eq_ok.1 h
  cases h
  rfl

theorem arrive_store (h : p.arrive t scope e = .ok p') : p'.store = p.store := by
  obtain ⟨_, -, h⟩ := bind_eq_ok.1 h
  obtain ⟨_, -, h⟩ := bind_eq_ok.1 h
  cases h
  rfl

end Progress

/-- What a deed does to one row, with what follows from it. -/
def Deed.row (perform : Progress → Change → Except Fault Progress) :
    Deed → Table → Progress → Entry → Except Fault Progress
  | .remove => removeRow perform
  | .assign values => fun t => assignRow perform t values
  | .refuse => fun _ p _ => .ok p

/-- Putting a row in the place of another one is one change. -/
theorem putEntry_eraseEntry (s : Contents) (t : Table) (e new : Entry) :
    (s.eraseEntry t e.id).putEntry t new = s.after [⟨t.name, e, some new⟩] := by
  refine congrArg Contents.mk ?_
  rw [Contents.eraseEntry, List.map_map]
  refine List.map_congr_left fun u _ => ?_
  simp only [Function.comp_apply, RowChange.onTable, RowChange.rows]
  split_ifs <;> rfl

/-- A new row does not have the key of another one. -/
theorem free_of_checkRow {t : Table} {isSet : Place → Bool} {id : Int64} {e : Entry}
    (h : t.checkRow isSet (some id) e = .ok ()) : e.id = id ∨ t.entries.get? e.id = none := by
  by_cases hid : e.id = id
  · exact .inl hid
  · exact .inr ((Table.checkRow_ok_iff.1 h).2.1 fun hsame => hid (Option.some.inj hsame))

/-- The deed makes this of a row of the table, whose constraints admit it. -/
structure Deed.Turns (deed : Deed) (t : Table) (e : Entry) (new : Option Entry) : Prop where
  makes : deed.Makes t e new
  admitted : ∀ x ∈ new, t.checkRow deed.scope.touches (some e.id) x = .ok ()

/-- **The change of one row** makes of it what the deed says and leaves the store with it; then what
foreign keys demand is carried out. -/
theorem row_ok {perform : Progress → Change → Except Fault Progress} {deed : Deed}
    (hdeed : deed ≠ .refuse) {t : Table} {p p' : Progress} {e : Entry}
    (ht : p.store.find? t.name = some t) (he : t.entries.get? e.id = some e)
    (h : deed.row perform t p e = .ok p') :
    ∃ new p₁ m, deed.Turns t e new ∧ RowChange.Fits p.store ⟨t.name, e, new⟩ ∧
      p₁.store = p.store.after [⟨t.name, e, new⟩] ∧
      m.tables.map Table.layout = p.store.tables.map Table.layout ∧
      RowChange.Spans ⟨t.name, e, new⟩ deed.scope ∧
      (consequences m t e new deed.scope).foldlM perform p₁ = .ok p' := by
  have hfound : p.store.row t.name e.id = some e := by rw [Contents.row, ht]; exact he
  cases deed with
  | refuse => exact absurd rfl hdeed
  | remove =>
    obtain ⟨p₁, hleave, h⟩ := bind_eq_ok.1 h
    have hstore := Progress.leave_store hleave
    refine ⟨none, _, p.store, ⟨.remove, nofun⟩, ⟨hfound, nofun⟩, ?_, rfl, rfl, h⟩
    rw [hstore]
    rfl
  | assign values =>
    obtain ⟨new, hnew, h⟩ := bind_eq_ok.1 h
    obtain ⟨_, ht', h⟩ := bind_eq_ok.1 h
    rw [Contents.get, ht] at ht'
    cases ht'
    obtain ⟨_, hcheck, h⟩ := bind_eq_ok.1 h
    obtain ⟨p₁, hleave, h⟩ := bind_eq_ok.1 h
    obtain ⟨p₂, harrive, h⟩ := bind_eq_ok.1 h
    have hstore : p₂.store = p.store.eraseEntry t e.id := by
      rw [Progress.arrive_store harrive, Progress.leave_store hleave]
    have hafter : p₂.store.putEntry t new = p.store.after [⟨t.name, e, some new⟩] := by
      rw [hstore]
      exact putEntry_eraseEntry p.store t e new
    have hfree : new.id = e.id ∨ p.store.row t.name new.id = none := by
      rw [Contents.row, ht]
      exact free_of_checkRow hcheck
    refine ⟨some new, _, p₂.store.putEntry t new, ⟨.assign hnew, ?_⟩, ⟨hfound, ?_⟩, hafter, ?_,
      ⟨new, rfl⟩, h⟩
    · rintro _ ⟨rfl⟩
      exact hcheck
    · rintro _ ⟨rfl⟩
      exact hfree
    · rw [hafter]
      exact layout_after

/-! ## Everything that follows -/

theorem Entries.get?_eq_some {s : Entries} {id : Int64} {e : Entry} :
    s.get? id = some e ↔ e ∈ s.list ∧ e.id = id := by
  constructor
  · exact fun h => ⟨List.mem_of_find?_eq_some h, by simpa using List.find?_some h⟩
  · rintro ⟨he, rfl⟩
    obtain ⟨x, hx⟩ := get?_of_mem he
    have hnodup : (s.list.map Entry.id).Nodup :=
      List.pairwise_map.2 (s.ascending.imp fun h => Int64.ne_of_lt h)
    have hid : x.id = e.id := by simpa using List.find?_some hx
    rw [hx, List.inj_on_of_nodup_map hnodup (List.mem_of_find?_eq_some hx) he hid]

theorem find?_of_get {s : Contents} {name : String} {t : Table} (h : s.get name = .ok t) :
    s.find? name = some t := by
  unfold Contents.get at h
  split at h <;> cases h
  assumption

/-- A table is found under its own name. -/
theorem find?_self {s : Contents} {name : String} {t : Table} (h : s.find? name = some t) :
    s.find? t.name = some t := by
  rw [← find?_sameName (sameName_of_find? h), h]

theorem carryOut_row {perform : Progress → Change → Except Fault Progress} {c : Change}
    (hdeed : c.deed ≠ .refuse) {p : Progress} :
    c.carryOut perform p = p.store.get c.table >>= fun t =>
      (t.entries.list.filter c.picks).foldlM (c.turn (c.deed.row perform)) (p, 0) := by
  obtain ⟨table, deed, picks⟩ := c
  cases deed with
  | refuse => exact absurd rfl hdeed
  | remove => rfl
  | assign values => rfl

/-- Where there must be no rows, nothing is changed. -/
theorem carryOut_refuse {perform : Progress → Change → Except Fault Progress} {c : Change}
    (hdeed : c.deed = .refuse) {p p' : Progress} {n : Nat}
    (h : c.carryOut perform p = .ok (p', n)) : p' = p := by
  rw [Change.carryOut_eq, hdeed] at h
  obtain ⟨_, -, h⟩ := bind_eq_ok.1 h
  obtain ⟨_, -, h⟩ := bind_eq_ok.1 h
  cases h
  rfl

/-- The change is refused, or a foreign key asks for it after one of the changes. -/
def Asked (s : Contents) (xs : List RowChange) (c : Change) : Prop :=
  c.deed = .refuse ∨ ∃ x ∈ xs, Asks s x c

/-- What carries out changes that are asked for makes changes of rows that ensue. -/
def Traces (s : Contents) (perform : Progress → Change → Except Fault Progress) : Prop :=
  ∀ {xs : List RowChange} {p p' : Progress} {c : Change}, p.store = s.after xs → Asked s xs c →
    perform p c = .ok p' → ∃ ys, p'.store = s.after (xs ++ ys) ∧ Ensue s xs ys

section
variable {s : Contents} {perform : Progress → Change → Except Fault Progress}
  (hperform : Traces s perform)
include hperform

theorem follow_traces {cs : List Change} : ∀ {xs : List RowChange} {p p' : Progress},
    p.store = s.after xs → (∀ c ∈ cs, Asked s xs c) → cs.foldlM perform p = .ok p' →
      ∃ ys, p'.store = s.after (xs ++ ys) ∧ Ensue s xs ys := by
  induction cs with
  | nil =>
    intro xs p p' hp _ h
    cases h
    exact ⟨[], by rw [List.append_nil, hp], trivial⟩
  | cons c cs ih =>
    intro xs p p' hp hasked h
    rw [List.foldlM_cons] at h
    obtain ⟨p₁, hc, h⟩ := bind_eq_ok.1 h
    obtain ⟨ys, hp₁, hys⟩ := hperform hp (hasked c List.mem_cons_self) hc
    have hlater : ∀ c ∈ cs, Asked s (xs ++ ys) c := fun c hc =>
      (hasked c (List.mem_cons_of_mem _ hc)).imp_right fun ⟨x, hx, h⟩ =>
        ⟨x, List.mem_append_left _ hx, h⟩
    obtain ⟨zs, hp', hzs⟩ := ih hp₁ hlater h
    exact ⟨ys ++ zs, by rw [hp', List.append_assoc], hys.append hzs⟩

variable {xs : List RowChange} {p p' : Progress}

/-- **The change of one row with what follows** is the change that the deed says, and changes that
ensue. -/
theorem row_traces {deed : Deed} (hdeed : deed ≠ .refuse) {t : Table} {e : Entry}
    (hp : p.store = s.after xs) (ht : p.store.find? t.name = some t)
    (he : t.entries.get? e.id = some e) (h : deed.row perform t p e = .ok p') :
    ∃ new ys, deed.Makes t e new ∧ RowChange.Fits (s.after xs) ⟨t.name, e, new⟩ ∧
      p'.store = s.after (xs ++ ⟨t.name, e, new⟩ :: ys) ∧
      Ensue s (xs ++ [⟨t.name, e, new⟩]) ys := by
  obtain ⟨new, p₁, m, ⟨hmakes, -⟩, hfits, hp₁, hm, hspans, h⟩ := row_ok hdeed ht he h
  rw [hp] at hfits hp₁ hm
  rw [← after_append] at hp₁
  have hasked : ∀ c ∈ consequences m t e new deed.scope, Asked s (xs ++ [⟨t.name, e, new⟩]) c :=
    fun c hc => (asks_of_consequences hspans hc).imp_right fun h =>
      ⟨_, List.mem_append_right _ List.mem_cons_self, h.layout (hm.trans layout_after)⟩
  obtain ⟨ys, hp', hys⟩ := follow_traces hperform hp₁ hasked h
  exact ⟨new, ys, hmakes, hfits, by rw [hp', List.append_assoc, List.singleton_append], hys⟩

/-- The turn of a row that a change has picked makes changes that ensue, if a foreign key has asked
for the change. -/
theorem turn_traces {c : Change} (hdeed : c.deed ≠ .refuse) (hasked : ∃ x ∈ xs, Asks s x c)
    {e : Entry} (he : (s.after xs).row c.table e.id = some e) (hpicks : c.picks e = true)
    {ys : List RowChange} (hp : p.store = s.after (xs ++ ys)) {n n' : Nat}
    (h : c.turn (c.deed.row perform) (p, n) e = .ok (p', n')) :
    ∃ zs, p'.store = s.after (xs ++ ys ++ zs) ∧ Ensue s (xs ++ ys) zs := by
  obtain ⟨now, hnow, h⟩ := bind_eq_ok.1 h
  have hfind : p.store.find? c.table = some now := find?_of_get hnow
  cases hget : now.entries.get? e.id with
  | none =>
    rw [hget] at h
    cases h
    exact ⟨[], by rw [List.append_nil, hp], trivial⟩
  | some e' =>
    rw [hget] at h
    obtain ⟨_, hrow, h⟩ := bind_eq_ok.1 h
    cases h
    have hid : e'.id = e.id := (Entries.get?_eq_some.1 hget).2
    obtain ⟨new, zs, hmakes, hfits, hp', hzs⟩ :=
      row_traces hperform hdeed hp (find?_self hfind) (hid ▸ hget) hrow
    refine ⟨_ :: zs, hp', hfits, ?_, hzs⟩
    -- the row is one of those that the foreign key picked when it asked
    obtain ⟨x, hx, hasks⟩ := hasked
    have hlayout : p.store.tables.map Table.layout = s.tables.map Table.layout := by
      rw [hp, layout_after]
    obtain ⟨t, ht, hsame⟩ := find?_layout hlayout hfind
    exact ⟨xs, List.prefix_append xs ys, x, hx, c, hasks, ⟨e, hid ▸ he, hpicks⟩, t, ht,
      Table.eq_of_layout hsame Table.name fun _ => rfl, hmakes.layout hsame⟩

/-- The turns of rows that a change has picked go on with changes that ensue. -/
theorem turns_traces {c : Change} (hdeed : c.deed ≠ .refuse) (hasked : ∃ x ∈ xs, Asks s x c)
    {picked : List Entry}
    (hpicked : ∀ e ∈ picked, (s.after xs).row c.table e.id = some e ∧ c.picks e = true) {n' : Nat} :
    ∀ (ys : List RowChange) {p : Progress} {n : Nat}, p.store = s.after (xs ++ ys) →
      Ensue s xs ys → picked.foldlM (c.turn (c.deed.row perform)) (p, n) = .ok (p', n') →
        ∃ zs, p'.store = s.after (xs ++ zs) ∧ Ensue s xs zs := by
  induction picked with
  | nil =>
    intro ys p n hp hys h
    cases h
    exact ⟨ys, hp, hys⟩
  | cons e picked ih =>
    intro ys p n hp hys h
    rw [List.foldlM_cons] at h
    obtain ⟨⟨p₁, n₁⟩, hturn, h⟩ := bind_eq_ok.1 h
    obtain ⟨he, hpicks⟩ := hpicked e List.mem_cons_self
    obtain ⟨zs, hp₁, hzs⟩ := turn_traces hperform hdeed hasked he hpicks hp hturn
    rw [List.append_assoc] at hp₁
    exact ih (fun e he => hpicked e (List.mem_cons_of_mem _ he)) (ys ++ zs) hp₁ (hys.append hzs) h

/-- **A change that a foreign key asks for** makes changes that ensue. -/
theorem carryOut_traces {c : Change} (hp : p.store = s.after xs) (hasked : Asked s xs c) {n : Nat}
    (h : c.carryOut perform p = .ok (p', n)) :
    ∃ ys, p'.store = s.after (xs ++ ys) ∧ Ensue s xs ys := by
  have hstart : p.store = s.after (xs ++ []) := by rw [List.append_nil, hp]
  by_cases hdeed : c.deed = .refuse
  · obtain rfl := carryOut_refuse hdeed h
    exact ⟨[], hstart, trivial⟩
  rw [carryOut_row hdeed] at h
  obtain ⟨t, ht, h⟩ := bind_eq_ok.1 h
  refine turns_traces hperform hdeed (hasked.resolve_left hdeed) (fun e he => ?_) [] hstart
    trivial h
  obtain ⟨he, hpicks⟩ := List.mem_filter.1 he
  rw [Contents.row, ← hp, find?_of_get ht]
  exact ⟨Entries.get?_eq_some.2 ⟨he, rfl⟩, hpicks⟩

end

/-- **What foreign keys do is a list of changes that ensue**, to whatever depth they act. -/
theorem perform_traces (s : Contents) : ∀ depth, Traces s (perform depth)
  | 0 => fun _ _ h => by cases h
  | depth + 1 => fun hp hasked h => by
    obtain ⟨⟨p₁, n⟩, hcarry, h⟩ := bind_eq_ok.1 h
    cases h
    exact carryOut_traces (perform_traces s depth) hp hasked hcarry

/-! ## Statements -/

/-- **A statement that picks one row** makes of this row what it says, and counts it; all else that
changes ensues. -/
theorem run_single {s s' : Contents} {c : Change} {n : Nat} (hdeed : c.deed ≠ .refuse) {t : Table}
    (ht : s.find? c.table = some t) {e : Entry} (hpicked : t.entries.list.filter c.picks = [e])
    (h : s.run c = .ok (s', n)) :
    n = 1 ∧ ∃ new ys, c.deed.Makes t e new ∧ RowChange.Fits s ⟨t.name, e, new⟩ ∧
      s' = s.after (⟨t.name, e, new⟩ :: ys) ∧ Ensue s [⟨t.name, e, new⟩] ys := by
  obtain ⟨_, -, h⟩ := bind_eq_ok.1 h
  obtain ⟨_, -, h⟩ := bind_eq_ok.1 h
  obtain ⟨⟨p, count⟩, hcarry, h⟩ := bind_eq_ok.1 h
  obtain ⟨_, -, h⟩ := bind_eq_ok.1 h
  cases h
  rw [carryOut_row hdeed] at hcarry
  obtain ⟨t', ht', hcarry⟩ := bind_eq_ok.1 hcarry
  obtain rfl : t = t' := Option.some.inj (ht.symm.trans (find?_of_get ht'))
  have hmem : e ∈ t.entries.list.filter c.picks := by
    rw [hpicked]
    exact List.mem_cons_self
  have hget : t.entries.get? e.id = some e :=
    Entries.get?_eq_some.2 ⟨List.mem_of_mem_filter hmem, rfl⟩
  rw [hpicked, List.foldlM_cons] at hcarry
  obtain ⟨⟨q, m⟩, hturn, hcarry⟩ := bind_eq_ok.1 hcarry
  cases hcarry
  obtain ⟨now, hnow, hturn⟩ := bind_eq_ok.1 hturn
  obtain rfl : t = now := Option.some.inj (ht.symm.trans (find?_of_get hnow))
  rw [hget] at hturn
  obtain ⟨_, hrow, hturn⟩ := bind_eq_ok.1 hturn
  cases hturn
  have hstart : (⟨s, 0⟩ : Progress).store = s.after [] := rfl
  exact ⟨rfl, row_traces (perform_traces s maxLevels) hdeed hstart (find?_self ht) hget hrow⟩

/-- A statement that picks no row counts none. -/
theorem run_none {s s' : Contents} {c : Change} {n : Nat} (hdeed : c.deed ≠ .refuse)
    (hpicked : ∀ t, s.find? c.table = some t → t.entries.list.filter c.picks = [])
    (h : s.run c = .ok (s', n)) : n = 0 ∧ s' = s := by
  obtain ⟨_, -, h⟩ := bind_eq_ok.1 h
  obtain ⟨_, -, h⟩ := bind_eq_ok.1 h
  obtain ⟨⟨p, count⟩, hcarry, h⟩ := bind_eq_ok.1 h
  obtain ⟨_, -, h⟩ := bind_eq_ok.1 h
  cases h
  rw [carryOut_row hdeed] at hcarry
  obtain ⟨t, ht, hcarry⟩ := bind_eq_ok.1 hcarry
  rw [hpicked t (find?_of_get ht)] at hcarry
  cases hcarry
  exact ⟨rfl, rfl⟩

end TableService.Store
