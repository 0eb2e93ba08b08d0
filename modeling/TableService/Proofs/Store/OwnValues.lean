/-
  Rows that are given values of their own.

  * `Table.Suits.assigned`: such a row is the same row, and the constraints of its table admit it.
  * `Allows`: a result has a property, unless a foreign key stands in the way.  Where the table
    neither has foreign keys nor is referred to, nothing does.
  * `update_own`: an update of one row with its own values leaves the store as it is and counts one,
    unless a foreign key stands in the way; no row makes way, since no other one has its values.
-/
import TableService.Proofs.Store.Update

namespace TableService.Store

/-! ## A row with its own values -/

namespace Table
variable {t : Table} {e : Entry}

/-- **A row that is given values of its own is the same row.** -/
theorem Suits.assigned (h : t.Suits e) {values : List (Place × Cell)}
    (hvalues : ∀ x ∈ values, x.2 = e.get x.1) : t.assigned e values = .ok e := by
  have hlookup {p : Place} {v : Cell} (hv : values.lookup p = some v) : v = e.get p := by
    obtain ⟨before, after, rfl, -⟩ := List.lookup_eq_some_iff.1 hv
    exact hvalues (p, v) (by simp)
  have hkey : keyWith e values = .ok e.id := by
    unfold keyWith
    split
    · rename_i v hv
      rw [hlookup hv]
      rfl
    · rfl
  have hcells : t.cellsWith e values = e.cells := by
    refine List.ext_getElem (by simp [cellsWith, h.length]) fun i hi hi' => ?_
    have hget : e.get (.cell i) = e.cells[i] := by
      rw [Entry.get, List.getD_eq_getElem?_getD, List.getElem?_eq_getElem hi']
      rfl
    have hcolumn : i < t.columns.length := h.length ▸ hi'
    simp only [cellsWith, List.getElem_map, List.getElem_zipIdx, Nat.zero_add]
    split
    · rename_i v hv
      have hheld := h.held i
      rw [affinityAt, List.getElem?_eq_getElem hcolumn] at hheld
      rw [hlookup hv, ← hget]
      exact hheld
    · exact hget
  rw [assigned_eq, hkey, hcells]
  rfl

/-- No value of a row of its own becomes an initial one. -/
theorem Suits.filled (h : t.Suits e) {values : List (Place × Cell)}
    (hvalues : ∀ x ∈ values, x.2 = e.get x.1) : t.filled values = values := by
  refine (List.map_congr_left fun x hx => ?_).trans (List.map_id _)
  obtain ⟨place, v⟩ := x
  have hv : v = e.get place := hvalues _ hx
  refine Prod.ext rfl (if_neg fun hmissing => ?_)
  rw [Bool.and_eq_true, beq_iff_eq, hv] at hmissing
  obtain ⟨hnull, hreplaces⟩ := hmissing
  cases place with
  | key => cases hreplaces
  | cell i =>
    obtain ⟨c, hc, hrequired⟩ := (Option.any_eq_true _ _).1 hreplaces
    have hrequired : c.required = some .replace := by simpa using hrequired
    exact h.required hc (hrequired ▸ rfl) hnull

/-- The constraints of a sound table admit its own rows. -/
theorem Sound.admits (h : t.Sound) (he : e ∈ t.entries.list) (isSet : Place → Bool) :
    t.checkRow isSet (some e.id) e = .ok () := by
  refine checkRow_ok_iff.2 ⟨fun c i hc hrequired _ => (h.suits e he).required hc hrequired,
    fun hne => absurd rfl hne, fun x hx hid => h.distinct x hx e he ?_⟩
  exact fun hsame => hid (congrArg some hsame)

end Table

/-- A row that is removed and added again is where it was. -/
theorem Entries.put_erase {s : Entries} {e : Entry} (h : e ∈ s.list) :
    (s.erase e.id).put e = s := by
  obtain ⟨l, ascending⟩ := s
  have hlist : putEntry e (l.filter (·.id ≠ e.id)) = l := by
    induction l with
    | nil => cases h
    | cons x rest ih =>
      obtain ⟨hfirst, hrest⟩ := List.pairwise_cons.1 ascending
      rcases List.mem_cons.1 h with rfl | he
      · have hothers : rest.filter (·.id ≠ e.id) = rest := List.filter_eq_self.2 fun x hx =>
          decide_eq_true (Int64.ne_of_lt (hfirst x hx)).symm
        rw [List.filter_cons_of_neg (by simp), hothers]
        cases rest with
        | nil => rfl
        | cons x rest => exact if_pos (hfirst x List.mem_cons_self)
      · have hlt : x.id < e.id := hfirst e he
        have hne : x.id ≠ e.id := Int64.ne_of_lt hlt
        rw [List.filter_cons_of_pos (by simpa using hne), putEntry,
          if_neg (Int64.not_lt.2 (Int64.le_of_lt hlt)), if_neg (Ne.symm hne), ih hrest he]
  simp only [put, erase, hlist]

/-- A row that becomes itself leaves the store as it is. -/
theorem Consistent.after_self {s : Contents} (h : Consistent s) {name : String} {t : Table}
    (ht : s.find? name = some t) {e : Entry} (he : e ∈ t.entries.list) :
    s.after [⟨t.name, e, some e⟩] = s := by
  refine congrArg Contents.mk ((List.map_congr_left fun u hu => ?_).trans (List.map_id _))
  unfold RowChange.onTable
  split_ifs with hname
  · obtain rfl := h.eq_of_find? ht hu hname
    show { u with entries := (u.entries.erase e.id).put e } = u
    rw [Entries.put_erase he]
  · rfl

/-! ## What may stand in the way -/

/-- A foreign key stands in the way: it refers to nothing, a reference would be broken, or what it may
do is left out. -/
def Fault.OfKeys : Fault → Prop
  | .noTable _ | .mismatch .. | .foreignKey | .leftOut _ => True
  | _ => False

/-- The table has foreign keys, or is referred to by some. -/
def Table.Keyed (s : Contents) (t : Table) : Prop :=
  t.foreignKeys ≠ [] ∨
    ∃ child ∈ s.tables, ∃ fk ∈ child.foreignKeys, sameName fk.target t.name = true

/-- The result has the property, unless a foreign key stands in the way of the table. -/
def Allows {α : Type} (s : Contents) (t : Table) (P : α → Prop) : Except Fault α → Prop
  | .ok a => P a
  | .error f => f.OfKeys ∧ t.Keyed s

section
variable {α β : Type} {s : Contents} {t : Table} {P : α → Prop} {Q : β → Prop}

theorem Allows.bind {x : Except Fault α} {f : α → Except Fault β} (hx : Allows s t P x)
    (hf : ∀ a, P a → Allows s t Q (f a)) : Allows s t Q (x >>= f) := by
  cases x with
  | error e => exact hx
  | ok a => exact hf a hx

theorem allows_forM {l : List α} {f : α → Except Fault Unit}
    (h : ∀ a ∈ l, Allows s t (fun _ => True) (f a)) : Allows s t (fun _ => True) (l.forM f) := by
  induction l with
  | nil => trivial
  | cons a l ih =>
    exact (h a List.mem_cons_self).bind fun _ _ => ih fun x hx => h x (List.mem_cons_of_mem _ hx)

theorem allows_foldlM {l : List α} {f : β → α → Except Fault β}
    (h : ∀ b, ∀ a ∈ l, Allows s t (fun _ => True) (f b a)) (b : β) :
    Allows s t (fun _ => True) (l.foldlM f b) := by
  induction l generalizing b with
  | nil => trivial
  | cons a l ih =>
    rw [List.foldlM_cons]
    exact (h b a List.mem_cons_self).bind fun c _ =>
      ih (fun b x hx => h b x (List.mem_cons_of_mem _ hx)) c

theorem allows_parent (hkeyed : t.Keyed s) (m : Contents) (child : Table) (fk : ForeignKey) :
    Allows s t (fun _ => True) (fk.parent m child) := by
  unfold ForeignKey.parent
  repeat' split
  all_goals trivial

theorem not_keyed_iff : ¬ t.Keyed s ↔ t.foreignKeys = [] ∧ s.referring t = [] := by
  simp [Table.Keyed, Contents.referring]

end

/-! ### Checks before a statement -/

section
variable {s : Contents} {t : Table} (scope : Scope)

theorem Table.ownKeys_free (h : t.foreignKeys = []) (m : Contents) : t.ownKeys m scope = [] := by
  rw [ownKeys, h]
  rfl

theorem Table.incomingKeys_free (h : s.referring t = []) : t.incomingKeys s scope = [] := by
  rw [incomingKeys, h]
  rfl

theorem closure_free {found : List Touched} (h : ∀ x ∈ found, effects s x = []) :
    ∀ rounds, closure s rounds found = found
  | 0 => rfl
  | rounds + 1 => by
    have hnone : found.flatMap (effects s) = [] := List.flatMap_eq_nil_iff.2 h
    simp only [closure, hnone]
    exact (congrArg (closure s rounds) (List.append_nil _)).trans (closure_free h rounds)

theorem allows_checkParents (hkeyed : t.Keyed s) (keys : List (Table × ForeignKey)) :
    Allows s t (fun _ => True) (checkParents s keys) :=
  allows_forM fun x _ => (allows_parent hkeyed s x.1 x.2).bind fun _ _ => trivial

theorem allows_checkTouched (hkeyed : t.Keyed s) (x : Touched) :
    Allows s t (fun _ => True) (Table.checkTouched s x) :=
  (allows_checkParents hkeyed _).bind fun _ _ => (allows_checkParents hkeyed _).bind fun _ _ =>
    allows_checkParents hkeyed _

theorem allows_checkKeys (hkeyed : t.Keyed s) (x : Touched) :
    Allows s t (fun _ => True) (Table.checkKeys s x) := by
  refine (allows_checkTouched hkeyed x).bind fun _ _ => ?_
  split_ifs
  · exact allows_checkParents hkeyed _
  · trivial

/-- Where no foreign key is concerned, there is nothing to check. -/
theorem checkTouched_free (h : ¬ t.Keyed s) : Table.checkTouched s (t, scope) = .ok () := by
  obtain ⟨hkeys, hreferring⟩ := not_keyed_iff.1 h
  simp only [Table.checkTouched, Table.ownKeys_free scope hkeys,
    Table.incomingKeys_free scope hreferring]
  rfl

theorem isConcerned_free (h : ¬ t.Keyed s) : t.isConcerned s scope = false := by
  obtain ⟨hkeys, hreferring⟩ := not_keyed_iff.1 h
  rw [Table.isConcerned, hkeys, hreferring]
  rfl

theorem checkKeys_free (h : ¬ t.Keyed s) : Table.checkKeys s (t, scope) = .ok () := by
  simp only [Table.checkKeys, checkTouched_free scope h, isConcerned_free scope h]
  rfl

/-- The foreign keys that a statement may have to do with are in order, or one of them stands in the
way. -/
theorem allows_checks :
    Allows s t (fun _ => True) ((reach s (t, scope)).forM (Table.checkKeys s)) := by
  by_cases hkeyed : t.Keyed s
  · exact allows_forM fun x _ => allows_checkKeys hkeyed x
  · have heffects : ∀ x ∈ [(t, scope)], effects s x = [] := by
      intro x hx
      obtain rfl := List.mem_singleton.1 hx
      rw [effects, Table.incomingKeys_free scope (not_keyed_iff.1 hkeyed).2]
      rfl
    rw [reach, closure_free heffects]
    refine allows_forM fun x hx => ?_
    obtain rfl := List.mem_singleton.1 hx
    rw [checkKeys_free scope hkeyed]
    trivial

/-- So are those that rows which make way may have to do with. -/
theorem allows_checkWay : Allows s t (fun _ => True) (t.checkWay s scope) := by
  have hrefuse (condition : Bool) (what : String) (h : condition = true → t.Keyed s) :
      Allows s t (fun _ => True) (refuseIf condition (.leftOut what)) := by
    cases condition with
    | false => trivial
    | true => exact ⟨trivial, h rfl⟩
  unfold Table.checkWay
  split_ifs
  · have htouched : Allows s t (fun _ => True) (Table.checkTouched s (t, scope)) := by
      by_cases hkeyed : t.Keyed s
      · exact allows_checkTouched hkeyed _
      · rw [checkTouched_free scope hkeyed]
        trivial
    refine htouched.bind fun _ _ => (allows_checks .row).bind fun _ _ =>
      (hrefuse _ _ fun hlose => ?_).bind fun _ _ => hrefuse _ _ fun hseveral => ?_
    · obtain ⟨fk, hfk, -⟩ := List.any_eq_true.1 hlose
      exact .inl (List.ne_nil_of_mem hfk)
    · by_contra hkeyed
      rw [isConcerned_free .row hkeyed] at hseveral
      simp at hseveral
  · trivial

end

/-! ### References -/

/-- Removing a row does not change what refers to what. -/
theorem Table.Keyed.of_erase {s : Contents} {t u : Table} {id : Int64}
    (h : t.Keyed (s.eraseEntry u id)) : t.Keyed s := by
  refine h.imp_right ?_
  rintro ⟨child, hchild, fk, hfk, htarget⟩
  obtain ⟨v, hv, rfl⟩ := List.mem_map.1 hchild
  refine ⟨v, hv, fk, ?_, htarget⟩
  split_ifs at hfk <;> exact hfk

namespace Progress
variable {s : Contents} {t : Table} (p : Progress) (scope : Scope) (e : Entry)

theorem allows_ownReference (hkeyed : t.Keyed s) (fk : ForeignKey) (self : Bool) :
    Allows s t (fun _ => True) (p.ownReference t e fk self) := by
  unfold ownReference
  dsimp only
  split_ifs
  · trivial
  · exact (allows_parent hkeyed ..).bind fun _ _ => trivial

/-- The store is as it was, and so is the count of broken references where no foreign key is
concerned. -/
def Same (s : Contents) (t : Table) (p p' : Progress) : Prop :=
  p'.store = p.store ∧ (¬ t.Keyed s → p'.broken = p.broken)

variable (hkeyed : t.Keyed p.store → t.Keyed s)
include hkeyed

theorem keys_free (h : ¬ t.Keyed s) :
    t.ownKeys p.store scope = [] ∧ t.incomingKeys p.store scope = [] := by
  obtain ⟨hkeys, hreferring⟩ := not_keyed_iff.1 (mt hkeyed h)
  exact ⟨Table.ownKeys_free scope hkeys p.store, Table.incomingKeys_free scope hreferring⟩

theorem allows_leave : Allows s t (p.Same s t) (p.leave t scope e) := by
  by_cases h : t.Keyed s
  · refine (allows_foldlM (fun n fk _ => ?_) _).bind fun own _ =>
      (allows_foldlM (fun n x _ => ?_) _).bind fun broken _ => ⟨rfl, fun hnot => absurd h hnot⟩
    · split_ifs
      · trivial
      · exact (allows_ownReference p e h fk false).bind fun _ _ => trivial
    · exact (allows_parent h ..).bind fun _ _ => trivial
  · obtain ⟨hown, hincoming⟩ := p.keys_free scope hkeyed h
    rw [leave, hown, hincoming]
    exact ⟨rfl, fun _ => rfl⟩

theorem allows_arrive : Allows s t (p.Same s t) (p.arrive t scope e) := by
  by_cases h : t.Keyed s
  · refine (allows_foldlM (fun n fk _ => ?_) _).bind fun own _ =>
      (allows_foldlM (fun n x _ => ?_) _).bind fun broken _ => ⟨rfl, fun hnot => absurd h hnot⟩
    · exact (allows_ownReference p e h fk true).bind fun _ _ => trivial
    · split_ifs
      · trivial
      · exact (allows_parent h ..).bind fun _ _ => trivial
  · obtain ⟨hown, hincoming⟩ := p.keys_free scope hkeyed h
    rw [arrive, hown, hincoming]
    exact ⟨rfl, fun _ => rfl⟩

end Progress

/-- No foreign key acts on other rows after a row has become itself. -/
theorem consequences_self (s : Contents) (t : Table) (e : Entry) (scope : Scope) :
    consequences s t e (some e) scope = [] := by
  refine List.filterMap_eq_nil_iff.2 fun ⟨child, fk⟩ _ => ?_
  cases hparent : (fk.parent s child).toOption with
  | none => simp [hparent]
  | some x => cases haction : fk.action scope <;> simp [hparent, haction, Cell.order_self]

/-! ## The statement -/

section
variable {s : Contents} (hs : Consistent s) {t : Table} {e : Entry} (he : e ∈ t.entries.list)
  {values : List (Place × Cell)} (hvalues : ∀ x ∈ values, x.2 = e.get x.1)
include hs he hvalues

/-- **Giving a row its own values** leaves the store as it is. -/
theorem allows_assignRow (perform : Progress → Change → Except Fault Progress)
    (ht : s.find? t.name = some t) :
    Allows s t (Progress.Same s t ⟨s, 0⟩) (assignRow perform t values ⟨s, 0⟩ e) := by
  have hsound : t.Sound := hs.tables t (List.mem_of_find?_eq_some ht)
  have hassigned : t.assigned e values = .ok e := (hsound.suits e he).assigned hvalues
  have hget : s.get t.name = .ok t := by rw [Contents.get, ht]
  have hcheck := hsound.admits he (Scope.columns (values.map Prod.fst)).touches
  rw [assignRow, hassigned]
  show Allows s t _ (s.get t.name >>= _)
  rw [hget]
  show Allows s t _ (t.checkRow _ (some e.id) e >>= _)
  rw [hcheck]
  refine (Progress.allows_leave ⟨s, 0⟩ _ e id).bind ?_
  rintro p ⟨hp, hbroken⟩
  have hkeyed : t.Keyed (p.store.eraseEntry t e.id) → t.Keyed s := by
    rw [hp]
    exact Table.Keyed.of_erase
  refine (Progress.allows_arrive { p with store := p.store.eraseEntry t e.id } _ e hkeyed).bind ?_
  rintro q ⟨hq, hbroken'⟩
  have hstore : q.store.putEntry t e = s := by
    rw [hq, hp]
    exact (putEntry_eraseEntry s t e e).trans (hs.after_self ht he)
  simp only [consequences_self]
  exact ⟨hstore, fun h => (hbroken' h).trans (hbroken h)⟩

/-- **What a statement makes of a row that it gives its own values** is the same row: none of them
becomes an initial one, and no other row has them and would make way. -/
theorem allows_reviseRow (ht : s.find? t.name = some t) :
    Allows s t (fun x => Progress.Same s t ⟨s, 0⟩ x.1 ∧ x.2 = 1)
      (reviseRow values t (⟨s, 0⟩, 0) e) := by
  have hsound : t.Sound := hs.tables t (List.mem_of_find?_eq_some ht)
  have hget : s.get t.name = .ok t := by rw [Contents.get, ht]
  have hrow : t.entries.get? e.id = some e := Entries.get?_eq_some.2 ⟨he, rfl⟩
  have hfilled : t.filled values = values := (hsound.suits e he).filled hvalues
  have hassigned : t.assigned e values = .ok e := (hsound.suits e he).assigned hvalues
  have hobstacle : t.obstacle? (Scope.columns (values.map Prod.fst)).touches (some e.id) e =
      none := by
    rw [Table.obstacle?, Table.checkRow_eq_ok.1 (hsound.admits he _)]
    rfl
  have hway : makeWay t (some e.id) e ⟨s, 0⟩ = .ok ⟨s, 0⟩ := by
    refine makeWay_idle ht fun k hk x hx => Bool.eq_false_iff.2 fun hrepeats => ?_
    obtain ⟨hid, hsame⟩ := UniqueKey.repeats_iff.1 hrepeats
    exact hsound.distinct x hx e he (fun h => hid (congrArg some h))
      ⟨k, List.mem_of_mem_filter hk, hsame⟩
  have hrevise : reviseRow values t (⟨s, 0⟩, 0) e =
      assignRow (perform maxLevels) t values ⟨s, 0⟩ e >>= fun p => pure (p, 1) := by
    unfold reviseRow
    simp only [hfilled, hassigned, bind, Except.bind, hobstacle, hway, hget, hrow, refuseIf]
    simp
  rw [hrevise]
  exact (allows_assignRow hs he hvalues _ ht).bind fun p hp => ⟨hp, rfl⟩

end

/-- **An update of one row with its own values** leaves the store as it is and counts one, unless a
foreign key stands in the way. -/
theorem update_own {s : Contents} (hs : Consistent s) {t : Table} {e : Entry}
    (he : e ∈ t.entries.list) {values : List (Place × Cell)}
    (hvalues : ∀ x ∈ values, x.2 = e.get x.1) {table : String} (ht : s.find? table = some t)
    {assignments : List (String × Cell)} (hlocated : t.located .noColumn assignments = .ok values)
    {picks : Entry → Bool} (hpicked : t.entries.list.filter picks = [e]) :
    Allows s t (· = (s, 1)) (s.update table assignments picks) := by
  have hget : s.get table = .ok t := by rw [Contents.get, ht]
  have hrow : t.entries.get? e.id = some e := Entries.get?_eq_some.2 ⟨he, rfl⟩
  have hreverse : ∀ x ∈ values.reverse, x.2 = e.get x.1 :=
    fun x hx => hvalues x (List.mem_reverse.1 hx)
  have hturns : Allows s t (fun x => Progress.Same s t ⟨s, 0⟩ x.1 ∧ x.2 = 1)
      ((t.entries.list.filter picks).foldlM
        (Change.visit ⟨table, .assign values.reverse, picks⟩ (reviseRow values.reverse))
        (⟨s, 0⟩, 0)) := by
    have hvisit : Change.visit ⟨table, .assign values.reverse, picks⟩ (reviseRow values.reverse)
        (⟨s, 0⟩, 0) e = reviseRow values.reverse t (⟨s, 0⟩, 0) e := by
      simp only [Change.visit, hget, bind, Except.bind, hrow]
    rw [hpicked, List.foldlM_cons, hvisit]
    exact (allows_reviseRow hs he hreverse (find?_self ht)).bind fun x hx =>
      show Allows s t _ (.ok x) from hx
  unfold Contents.update
  rw [hget]
  show Allows s t _ (t.located .noColumn assignments >>= _)
  rw [hlocated]
  refine (allows_checkWay _).bind fun _ _ => (allows_checks _).bind fun _ _ => hturns.bind ?_
  rintro ⟨p, n⟩ ⟨⟨hp, hbroken⟩, rfl⟩
  by_cases hcount : 0 < p.broken
  · have hkeyed : t.Keyed s := by
      by_contra hnot
      exact absurd (hbroken hnot) (Int.ne_of_gt hcount)
    simp only [refuseIf, hcount]
    exact ⟨trivial, hkeyed⟩
  · simp only [refuseIf, hcount]
    exact congrArg (·, 1) hp

end TableService.Store
