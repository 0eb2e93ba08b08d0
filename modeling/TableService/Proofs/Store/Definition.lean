/-
  What is read of the definition of a table.

  * `Ensures`: what a step results in, if it succeeds; its rules follow the parts of `Draft.advance`.
  * `step_reached`: a step keeps the name of the table and the columns that were begun, and begins
    one with a name where an item is expected; `read_reached` is the same of all tokens.
-/
import TableService.Proofs.Results
import TableService.Store.Definition

namespace TableService.Store.Draft

/-- What is a result of the step, if it has one, has the property. -/
def Ensures {α : Type} (P : α → Prop) (s : Except Fault α) : Prop := ∀ a, s = .ok a → P a

section
variable {α β : Type} {P : α → Prop} {Q : β → Prop}

theorem ensures_ok {a : α} (h : P a) : Ensures P (.ok a) := by
  rintro _ ⟨rfl⟩
  exact h

theorem ensures_error (f : Fault) : Ensures P (.error f) := by
  rintro _ ⟨⟩

theorem Ensures.bind {s : Except Fault α} {f : α → Except Fault β} (h : Ensures P s)
    (hf : ∀ a, P a → Ensures Q (f a)) : Ensures Q (s >>= f) := by
  intro b hb
  obtain ⟨a, ha, hb⟩ := bind_eq_ok.1 hb
  exact hf a (h a ha) b hb

end

variable {P : Draft × Expected → Prop} {d : Draft} {t : Token}

theorem ensures_misfit : Ensures P (d.misfit t) := ensures_error _

theorem ensures_require {fits : Bool} {next : Expected} (h : fits = true → P (d, next)) :
    Ensures P (d.require t fits next) := by
  unfold require
  split_ifs with hfits
  · exact ensures_ok (h hfits)
  · exact ensures_misfit

theorem ensures_named {next : String → Step} (h : ∀ n, t.name? = some n → Ensures P (next n)) :
    Ensures P (d.named t next) := by
  unfold named
  split
  · rename_i n hn
    exact h n hn
  · exact ensures_misfit

/-! ## Names -/

/-- The names of the columns besides the key. -/
def columnNames (d : Draft) : List String := d.table.columns.map Column.name

/-- The name of the column whose type is being read. -/
def Expected.pending : Expected → List String
  | .type name _ | .size name _ _ | .signedSize name _ _ | .sizeEnd name _ _ | .typed name _ =>
    [name]
  | _ => []

/-- The name of the column that a token begins. -/
def Expected.begun (e : Expected) (t : Token) : List String :=
  match e with
  | .item false => if (tableConstraint? t).isNone then t.name?.toList else []
  | _ => []

/-- Reading a new table of this name has begun columns with these names. -/
structure Reached (name : String) (names : List String) (x : Draft × Expected) : Prop where
  isNew : x.1.isKnown = false
  name : x.1.table.name = name
  names : x.1.columnNames ++ x.2.pending = names

/-- A draft of the same table, with columns of the same names. -/
structure Keeps (d d' : Draft) : Prop where
  isKnown : d'.isKnown = d.isKnown
  name : d'.table.name = d.table.name
  columns : d'.columnNames = d.columnNames

theorem Keeps.refl (d : Draft) : Keeps d d := ⟨rfl, rfl, rfl⟩

theorem keeps_addUnique (d : Draft) (places : List Place) : Keeps d (d.addUnique places) :=
  ⟨rfl, rfl, rfl⟩

theorem keeps_changeLast (d : Draft) {f : Column → Column} (hf : ∀ c, (f c).name = c.name) :
    Keeps d (d.changeLast f) := by
  refine ⟨rfl, rfl, ?_⟩
  have hmap : ∀ (l : List Column) (i : Nat), (l.modify i f).map Column.name = l.map Column.name := by
    intro l
    induction l with
    | nil => simp
    | cons c l ih =>
      rintro (_ | i)
      · simp [hf]
      · simp [ih]
  exact hmap _ _

theorem keeps_addForeignKey (d : Draft) (place : Place) (target : String) (column : Option String) :
    Keeps d (d.addForeignKey place target column) := ⟨rfl, rfl, rfl⟩

theorem keeps_setAction (d : Draft) (onDelete : Bool) (a : KeyAction) :
    Keeps d (d.setAction onDelete a) := ⟨rfl, rfl, rfl⟩

/-- Saying what is done about a conflict changes only the unique keys. -/
theorem eq_of_resolveUnique {d d' : Draft} {r : Resolution} (h : d.resolveUnique r = .ok d') :
    ∃ unique, d' = { d with table := { d.table with unique } } := by
  unfold resolveUnique at h
  dsimp only at h
  split at h
  · cases h
    exact ⟨d.table.unique, rfl⟩
  · split_ifs at h
    all_goals
      cases h
      exact ⟨_, rfl⟩

theorem ensures_resolve (d : Draft) (demand : Demand) (r : Resolution) :
    Ensures (Keeps d) (d.resolve demand r) := by
  cases demand with
  | nothing => exact ensures_ok (.refl d)
  | value => exact ensures_ok (keeps_changeLast d fun _ => rfl)
  | unique =>
    intro d' h
    obtain ⟨unique, rfl⟩ := eq_of_resolveUnique h
    exact ⟨rfl, rfl, rfl⟩

/-- A draft of the same table from which no column is pending. -/
theorem Keeps.reached {d' : Draft} {e : Expected} (h : Keeps d d') (hd : d.isKnown = false)
    (he : e.pending = []) : Reached d.table.name d.columnNames (d', e) :=
  ⟨h.isKnown.trans hd, h.name, by rw [he, List.append_nil, h.columns]⟩

theorem pending_tableConstraint {e : Expected} (h : tableConstraint? t = some e) :
    e.pending = [] := by
  unfold tableConstraint? at h
  split_ifs at h <;> cases h <;> rfl

theorem keeps_columnConstraint {y : Draft × Expected} (h : columnConstraint? d t = some y) :
    Keeps d y.1 ∧ y.2.pending = [] := by
  unfold columnConstraint? at h
  split_ifs at h <;> cases h <;> first
    | exact ⟨.refl d, rfl⟩
    | exact ⟨keeps_addUnique d _, rfl⟩

theorem ensures_afterConstraint (hd : d.isKnown = false) (owner : Owner) (supplement : Supplement) :
    Ensures (Reached d.table.name d.columnNames) (d.afterConstraint owner supplement t) := by
  unfold afterConstraint
  split_ifs
  · exact ensures_ok ((Keeps.refl d).reached hd rfl)
  · exact ensures_ok ((Keeps.refl d).reached hd rfl)
  · cases supplement with
    | event => exact ensures_ok ((Keeps.refl d).reached hd rfl)
    | conflict => exact ensures_ok ((Keeps.refl d).reached hd rfl)
    | none => exact ensures_misfit
  · dsimp only
    split
    · rename_i y hy
      cases owner with
      | column =>
        obtain ⟨hkeeps, hpending⟩ := keeps_columnConstraint hy
        exact ensures_ok (hkeeps.reached hd hpending)
      | table =>
        obtain ⟨e, he, rfl⟩ := Option.map_eq_some_iff.1 hy
        exact ensures_ok ((Keeps.refl d).reached hd (pending_tableConstraint he))
    · exact ensures_misfit

theorem ensures_afterType (hd : d.isKnown = false) (name : String) (type : List Token) :
    Ensures (Reached d.table.name (d.columnNames ++ [name])) (d.afterType name type t) := by
  unfold afterType
  split
  · rename_i d' hadd
    unfold addColumn at hadd
    rw [if_neg (by rw [hd]; exact Bool.false_ne_true)] at hadd
    split_ifs at hadd
    cases hadd
    have hafter := ensures_afterConstraint (d := { d with table := { d.table with
      columns := d.table.columns ++ [⟨name, .ofType (typeText type), none, none⟩] } })
      (t := t) hd .column .none
    simpa [columnNames] using hafter
  · rename_i f _
    rintro y hy
    obtain ⟨-, -, hy⟩ := bind_eq_ok.1 hy
    cases hy

/-- What is read of a column's type keeps the columns, the pending one included. -/
theorem advance_pending {e : Expected} {name : String} (hd : d.isKnown = false)
    (he : e.pending = [name]) :
    Ensures (Reached d.table.name (d.columnNames ++ [name])) (advance (d, e) t) := by
  have hsame {e : Expected} (he : e.pending = [name]) :
      Reached d.table.name (d.columnNames ++ [name]) (d, e) := ⟨hd, rfl, by rw [he]⟩
  cases e with
  | type name' type =>
    cases he
    unfold advance
    dsimp only
    split_ifs
    · exact ensures_ok (hsame rfl)
    · exact ensures_ok (hsame rfl)
    · exact ensures_afterType hd name type
  | size name' type further =>
    cases he
    unfold advance
    dsimp only
    split_ifs
    · exact ensures_ok (hsame rfl)
    · exact ensures_require fun _ => hsame rfl
  | signedSize name' type further =>
    cases he
    exact ensures_require fun _ => hsame rfl
  | sizeEnd name' type further =>
    cases he
    unfold advance
    dsimp only
    split_ifs
    · exact ensures_ok (hsame rfl)
    · exact ensures_require fun _ => hsame rfl
  | typed name' type =>
    cases he
    exact ensures_afterType hd name type
  | _ => cases he

/-- What is read besides a column's type and its begin keeps the columns. -/
theorem advance_settled {e : Expected} (hd : d.isKnown = false) (he : e.pending = [])
    (hitem : e ≠ .item false) : Ensures (Reached d.table.name d.columnNames) (advance (d, e) t) := by
  have hkeeps {d' : Draft} {e : Expected} (h : Keeps d d') (he : e.pending = []) :
      Reached d.table.name d.columnNames (d', e) := h.reached hd he
  have hsame {e : Expected} (he : e.pending = []) :
      Reached d.table.name d.columnNames (d, e) := hkeeps (.refl d) he
  cases e with
  | type | size | signedSize | sizeEnd | typed => cases he
  | item columnsDone =>
    cases columnsDone with
    | false => exact absurd rfl hitem
    | true =>
      unfold advance
      dsimp only
      split
      · rename_i e he
        exact ensures_ok (hsame (pending_tableConstraint he))
      · exact ensures_misfit
  | constraint owner supplement => exact ensures_afterConstraint hd owner supplement
  | conflict | namesOpen | foreignKey | foreignOpen | references | event =>
    exact ensures_require fun _ => hsame rfl
  | resolution owner demand =>
    unfold advance
    dsimp only
    split
    · rename_i r _
      exact (ensures_resolve d demand r).bind fun d' h => ensures_ok (hkeeps h rfl)
    · exact ensures_misfit
  | notNull => exact ensures_require fun _ => hkeeps (keeps_changeLast d fun _ => rfl) rfl
  | primaryKey owner =>
    unfold advance
    dsimp only
    split_ifs
    · exact ensures_misfit
    · exact ensures_ok (hsame rfl)
    · exact ensures_ok (hsame rfl)
    · exact ensures_error _
  | default =>
    unfold advance
    dsimp only
    split
    · exact ensures_ok (hkeeps (keeps_changeLast d fun _ => rfl) rfl)
    · exact ensures_require fun _ => hsame rfl
  | defaultNumber negative =>
    unfold advance
    dsimp only
    split
    · exact ensures_ok (hkeeps (keeps_changeLast d fun _ => rfl) rfl)
    · exact ensures_misfit
  | constraintName | nextName | foreignName | target | targetColumn | option =>
    exact ensures_named fun _ _ => ensures_ok (hsame rfl)
  | namesNext isKey names =>
    unfold advance
    dsimp only
    split_ifs
    · exact ensures_ok (hsame rfl)
    · exact ensures_misfit
    · exact ensures_error _
    · exact ensures_ok (hsame rfl)
    · refine Ensures.bind (P := fun _ => True) (fun _ _ => trivial) fun places _ => ?_
      exact ensures_ok (hkeeps (keeps_addUnique d places) rfl)
  | foreignClose name =>
    unfold advance
    dsimp only
    split_ifs
    · refine Ensures.bind (P := fun _ => True) (fun _ _ => trivial) fun places _ => ?_
      exact ensures_ok (hsame rfl)
    · exact ensures_misfit
  | targetOpen owner place target =>
    unfold advance
    dsimp only
    split_ifs
    · exact ensures_ok (hsame rfl)
    · exact ensures_afterConstraint (d := d.addForeignKey place target none) hd owner .event
  | targetClose owner place target column =>
    exact ensures_require fun _ => hkeeps (keeps_addForeignKey d place target (some column)) rfl
  | action owner onDelete =>
    unfold advance
    dsimp only
    split_ifs
    · exact ensures_ok (hkeeps (keeps_setAction d onDelete _) rfl)
    · exact ensures_ok (hkeeps (keeps_setAction d onDelete _) rfl)
    · exact ensures_ok (hsame rfl)
    · exact ensures_require fun _ => hsame rfl
  | setAction owner onDelete =>
    unfold advance
    dsimp only
    split_ifs
    · exact ensures_ok (hkeeps (keeps_setAction d onDelete _) rfl)
    · exact ensures_ok (hkeeps (keeps_setAction d onDelete _) rfl)
    · exact ensures_misfit
  | noAction owner onDelete =>
    exact ensures_require fun _ => hkeeps (keeps_setAction d onDelete _) rfl
  | afterOption name =>
    unfold advance
    dsimp only
    split_ifs
    · exact ensures_error _
    · exact ensures_misfit
  | nothing =>
    unfold advance
    dsimp only
    split_ifs
    · exact ensures_ok (hsame rfl)
    · exact ensures_ok (hsame rfl)
    · exact ensures_named fun _ _ => ensures_ok (hsame rfl)

theorem advance_item (hd : d.isKnown = false) :
    Ensures (Reached d.table.name (d.columnNames ++ Expected.begun (.item false) t))
      (advance (d, .item false) t) := by
  unfold advance Expected.begun
  dsimp only
  cases hconstraint : tableConstraint? t with
  | some e =>
    rw [Option.isNone_some, if_neg Bool.false_ne_true, List.append_nil]
    exact ensures_ok ((Keeps.refl d).reached hd (pending_tableConstraint hconstraint))
  | none =>
    refine ensures_named fun n hn => ensures_ok ⟨hd, rfl, ?_⟩
    rw [hn]
    rfl

/-- What is covered keeps the name of the table and the columns that were begun, and begins one with a
name where an item is expected. -/
theorem advance_reached {x : Draft × Expected} {name : String} {names : List String}
    (h : Reached name names x) : Ensures (Reached name (names ++ x.2.begun t)) (advance x t) := by
  obtain ⟨d, e⟩ := x
  obtain ⟨hd, rfl, rfl⟩ := h
  dsimp only at hd ⊢
  by_cases hitem : e = .item false
  · subst hitem
    rw [show (Expected.item false).pending = [] from rfl, List.append_nil]
    exact advance_item hd
  · have hbegun : e.begun t = [] := by
      unfold Expected.begun
      split
      · exact absurd rfl hitem
      · rfl
    rw [hbegun, List.append_nil]
    have hpending : e.pending = [] ∨ ∃ name, e.pending = [name] := by
      cases e with
      | type name | size name | signedSize name | sizeEnd name | typed name => exact .inr ⟨name, rfl⟩
      | _ => exact .inl rfl
    rcases hpending with he | ⟨name, he⟩
    · rw [he, List.append_nil]
      exact advance_settled hd he hitem
    · rw [he]
      exact advance_pending hd he

/-- **A step keeps the name of the table and the columns that were begun**, and begins one with a name
where an item is expected. -/
theorem step_reached {x : Draft × Expected} {name : String} {names : List String}
    (h : Reached name names x) : Ensures (Reached name (names ++ x.2.begun t)) (step x t) := by
  unfold step
  split_ifs
  · exact ensures_error _
  · exact advance_reached h

/-- **Reading keeps the name of the table**, and the columns that were begun come first. -/
theorem read_reached {ts : List Token} {x y : Draft × Expected} {name : String}
    {names : List String} (h : Reached name names x) (hy : ts.foldlM step x = .ok y) :
    ∃ more, Reached name (names ++ more) y := by
  induction ts generalizing x names with
  | nil =>
    cases hy
    exact ⟨[], by rwa [List.append_nil]⟩
  | cons t ts ih =>
    rw [List.foldlM_cons] at hy
    obtain ⟨z, hz, hy⟩ := bind_eq_ok.1 hy
    obtain ⟨more, hmore⟩ := ih (step_reached h z hz) hy
    exact ⟨x.2.begun t ++ more, by rwa [← List.append_assoc]⟩

/-- What has been read is complete. -/
theorem read_eq_ok {d d' : Draft} {ts : List Token} :
    d.read ts = .ok d' ↔ ts.foldlM step (d, .constraint .column .none) = .ok (d', .nothing) := by
  unfold read
  rw [bind_eq_ok]
  constructor
  · rintro ⟨⟨d'', e⟩, hfold, h⟩
    rw [hfold]
    dsimp only at h
    split at h
    · cases h
      rfl
    · cases h
    · cases h
  · intro h
    exact ⟨_, h, rfl⟩

end TableService.Store.Draft
