/-
  Creating a table that exists.

  * `Follows`: a step of reading the definition of a table that exists succeeds if that of a new
    table does, and expects the same; `step_follows` shows it of every step.
  * `create_again`: so what has created a table succeeds again, on any store that has more tables,
    and leaves that as it is.
-/
import TableService.Proofs.Store.Definition

namespace TableService.Store

namespace Draft

/-! ## Steps -/

/-- The same is expected, but for the place of a column. -/
inductive Alike : Expected → Expected → Prop
  | refl (e : Expected) : Alike e e
  | references (p p' : Place) : Alike (.references p) (.references p')
  | target (owner : Owner) (p p' : Place) : Alike (.target owner p) (.target owner p')
  | targetOpen (owner : Owner) (p p' : Place) (target : String) :
    Alike (.targetOpen owner p target) (.targetOpen owner p' target)
  | targetColumn (owner : Owner) (p p' : Place) (target : String) :
    Alike (.targetColumn owner p target) (.targetColumn owner p' target)
  | targetClose (owner : Owner) (p p' : Place) (target column : String) :
    Alike (.targetClose owner p target column) (.targetClose owner p' target column)

/-- If the first step succeeds, then so does the second, which is that of a table that exists; they
expect the same. -/
def Follows (s s' : Step) : Prop :=
  ∀ x, s = .ok x → ∃ x', s' = .ok x' ∧ x'.1.isKnown = true ∧ Alike x.2 x'.2

variable {d k : Draft} {e e' : Expected} {t : Token} {s s' : Step}

theorem follows_ok (hd : k.isKnown = true) (he : Alike e e') :
    Follows (.ok (d, e)) (.ok (k, e')) := by
  rintro _ ⟨rfl⟩
  exact ⟨_, rfl, hd, he⟩

theorem follows_error (f : Fault) : Follows (.error f) s' := by
  rintro _ ⟨⟩

theorem follows_misfit : Follows (d.misfit t) s' := follows_error _

theorem follows_bind {α : Type} {a : Except Fault α} {f : α → Step}
    (h : ∀ x, a = .ok x → Follows (f x) s') : Follows (a >>= f) s' := by
  intro y hy
  obtain ⟨x, hx, hy⟩ := bind_eq_ok.1 hy
  exact h x hx y hy

theorem follows_require {fits : Bool} (hd : k.isKnown = true) (he : Alike e e') :
    Follows (d.require t fits e) (k.require t fits e') := by
  unfold require
  split_ifs
  · exact follows_ok hd he
  · exact follows_misfit

theorem follows_named {next next' : String → Step} (h : ∀ n, Follows (next n) (next' n)) :
    Follows (d.named t next) (k.named t next') := by
  unfold named
  split
  · exact h _
  · exact follows_misfit

theorem isKnown_addUnique (d : Draft) (places : List Place) :
    (d.addUnique places).isKnown = d.isKnown :=
  (keeps_addUnique d places).isKnown

theorem placesOf_known (hd : d.isKnown = true) (names : List String) (fault : String → Fault) :
    d.placesOf names fault = .ok [] := by
  rw [placesOf, if_pos hd]

theorem follows_columnConstraint (hd : k.isKnown = true) {y : Draft × Expected}
    (h : columnConstraint? d t = some y) :
    ∃ y', columnConstraint? k t = some y' ∧ y'.1.isKnown = true ∧ Alike y.2 y'.2 := by
  unfold columnConstraint? at h ⊢
  split_ifs at h ⊢ <;> cases h
  · exact ⟨_, rfl, hd, .refl _⟩
  · exact ⟨_, rfl, hd, .refl _⟩
  · exact ⟨_, rfl, (isKnown_addUnique k _).trans hd, .refl _⟩
  · exact ⟨_, rfl, hd, .refl _⟩
  · exact ⟨_, rfl, hd, .refl _⟩
  · exact ⟨_, rfl, hd, .target _ _ _⟩
  · exact ⟨_, rfl, hd, .refl _⟩

theorem follows_afterConstraint (hd : k.isKnown = true) (owner : Owner)
    (supplement : Supplement) :
    Follows (d.afterConstraint owner supplement t) (k.afterConstraint owner supplement t) := by
  unfold afterConstraint
  split_ifs
  · exact follows_ok hd (.refl _)
  · exact follows_ok hd (.refl _)
  · cases supplement with
    | event => exact follows_ok hd (.refl _)
    | conflict => exact follows_ok hd (.refl _)
    | none => exact follows_misfit
  · cases owner with
    | column =>
      dsimp only
      cases h : columnConstraint? d t with
      | none => exact follows_misfit
      | some y =>
        obtain ⟨y', hy', hknown, halike⟩ := follows_columnConstraint hd h
        rw [hy']
        exact follows_ok hknown halike
    | table =>
      dsimp only
      cases tableConstraint? t with
      | none => exact follows_misfit
      | some e => exact follows_ok hd (.refl e)

theorem follows_afterType (hd : k.isKnown = true) (name : String) (type : List Token) :
    Follows (d.afterType name type t) (k.afterType name type t) := by
  have hadd : k.addColumn name (typeText type) = .ok k := by
    rw [addColumn, if_pos hd]
  unfold afterType
  rw [hadd]
  dsimp only
  split
  · exact follows_afterConstraint hd .column .none
  · exact follows_bind fun _ _ => follows_error _

theorem resolve_known (hd : k.isKnown = true) (demand : Demand) (r : Resolution) :
    ∃ k', k.resolve demand r = .ok k' ∧ k'.isKnown = true := by
  cases demand with
  | nothing => exact ⟨k, rfl, hd⟩
  | value => exact ⟨_, rfl, hd⟩
  | unique => exact ⟨k, by rw [resolve, resolveUnique, if_pos hd], hd⟩

/-- What is covered and admitted of a new table is admitted of one that exists. -/
theorem advance_follows (hd : k.isKnown = true) (he : Alike e e') :
    Follows (advance (d, e) t) (advance (k, e') t) := by
  cases he with
  | references => exact follows_require hd (.target _ _ _)
  | target => exact follows_named fun _ => follows_ok hd (.targetOpen _ _ _ _)
  | targetOpen owner =>
    unfold advance
    dsimp only
    split_ifs
    · exact follows_ok hd (.targetColumn _ _ _ _)
    · exact follows_afterConstraint (k := k.addForeignKey _ _ _) hd owner .event
  | targetColumn => exact follows_named fun _ => follows_ok hd (.targetClose _ _ _ _ _)
  | targetClose => exact follows_require (k := k.addForeignKey _ _ _) hd (.refl _)
  | refl e =>
    have hsame {d : Draft} (e : Expected) : Follows (.ok (d, e)) (.ok (k, e)) :=
      follows_ok hd (.refl e)
    have hrequire {fits : Bool} (e : Expected) :
        Follows (d.require t fits e) (k.require t fits e) := follows_require hd (.refl e)
    cases e with
    | item columnsDone =>
      unfold advance
      dsimp only
      split
      · exact hsame _
      · split_ifs
        · exact follows_misfit
        · exact follows_named fun _ => hsame _
    | type name type =>
      unfold advance
      dsimp only
      split_ifs
      · exact hsame _
      · exact hsame _
      · exact follows_afterType hd name type
    | size =>
      unfold advance
      dsimp only
      split_ifs
      · exact hsame _
      · exact hrequire _
    | sizeEnd =>
      unfold advance
      dsimp only
      split_ifs
      · exact hsame _
      · exact hrequire _
    | typed name type => exact follows_afterType hd name type
    | constraint owner supplement => exact follows_afterConstraint hd owner supplement
    | signedSize | conflict | namesOpen | foreignKey | foreignOpen | event => exact hrequire _
    | resolution owner demand =>
      unfold advance
      dsimp only
      split
      · rename_i r _
        obtain ⟨k', hresolve, hknown⟩ := resolve_known hd demand r
        rw [hresolve]
        exact follows_bind fun _ _ => follows_ok hknown (.refl _)
      · exact follows_misfit
    | notNull => exact follows_require (k := k.changeLast _) hd (.refl _)
    | primaryKey owner =>
      unfold advance
      dsimp only
      split_ifs
      · exact follows_misfit
      · exact hsame _
      · exact hsame _
      · exact follows_error _
    | default =>
      unfold advance
      dsimp only
      split
      · exact follows_ok (k := k.changeLast _) hd (.refl _)
      · exact hrequire _
    | defaultNumber =>
      unfold advance
      dsimp only
      split
      · exact follows_ok (k := k.changeLast _) hd (.refl _)
      · exact follows_misfit
    | constraintName | nextName | foreignName | option => exact follows_named fun _ => hsame _
    | target => exact follows_named fun _ => follows_ok hd (.targetOpen _ _ _ _)
    | targetColumn => exact follows_named fun _ => follows_ok hd (.targetClose _ _ _ _ _)
    | references => exact follows_require hd (.target _ _ _)
    | namesNext isKey names =>
      unfold advance
      dsimp only
      have hknown : ¬(isKey && !k.isKnown) = true := by simp [hd]
      rw [placesOf_known hd, if_neg hknown]
      split_ifs
      · exact hsame _
      · exact follows_misfit
      · exact follows_error _
      · exact follows_error _
      · exact hsame _
      · exact follows_bind fun _ _ => follows_ok ((isKnown_addUnique k _).trans hd) (.refl _)
    | foreignClose name =>
      unfold advance
      dsimp only
      rw [placesOf_known hd]
      split_ifs
      · exact follows_bind fun _ _ => follows_ok hd (.references _ _)
      · exact follows_misfit
    | targetOpen owner place target =>
      unfold advance
      dsimp only
      split_ifs
      · exact hsame _
      · exact follows_afterConstraint (k := k.addForeignKey _ _ _) hd owner .event
    | targetClose => exact follows_require (k := k.addForeignKey _ _ _) hd (.refl _)
    | action owner onDelete =>
      unfold advance
      dsimp only
      split_ifs
      · exact follows_ok (k := k.setAction _ _) hd (.refl _)
      · exact follows_ok (k := k.setAction _ _) hd (.refl _)
      · exact hsame _
      · exact hrequire _
    | setAction owner onDelete =>
      unfold advance
      dsimp only
      split_ifs
      · exact follows_ok (k := k.setAction _ _) hd (.refl _)
      · exact follows_ok (k := k.setAction _ _) hd (.refl _)
      · exact follows_misfit
    | noAction => exact follows_require (k := k.setAction _ _) hd (.refl _)
    | afterOption name =>
      unfold advance
      dsimp only
      split_ifs
      · exact follows_error _
      · exact follows_misfit
    | nothing =>
      unfold advance
      dsimp only
      split_ifs
      · exact hsame _
      · exact hsame _
      · exact follows_named fun _ => hsame _

/-- What is left out does not depend on the places of columns. -/
theorem Alike.leavesOut_eq (h : Alike e e') : leavesOut e t = leavesOut e' t := by
  cases h <;> rfl

/-- **What a step of reading a new table admits, it admits of one that exists.** -/
theorem step_follows (hd : k.isKnown = true) (he : Alike e e') :
    Follows (step (d, e) t) (step (k, e') t) := by
  unfold step
  dsimp only
  rw [he.leavesOut_eq]
  split_ifs
  · exact follows_error _
  · exact advance_follows hd he

theorem foldlM_follows {x z y : Draft × Expected} (hd : z.1.isKnown = true) (he : Alike x.2 z.2)
    {ts : List Token} (hy : ts.foldlM step x = .ok y) :
    ∃ y', ts.foldlM step z = .ok y' ∧ Alike y.2 y'.2 := by
  induction ts generalizing x z with
  | nil =>
    cases hy
    exact ⟨z, rfl, he⟩
  | cons t ts ih =>
    rw [List.foldlM_cons] at hy
    obtain ⟨x₁, hx, hy⟩ := bind_eq_ok.1 hy
    obtain ⟨z₁, hz, hknown, halike⟩ := step_follows hd he x₁ hx
    obtain ⟨y', hy', halike⟩ := ih hknown halike hy
    refine ⟨y', ?_, halike⟩
    rw [List.foldlM_cons]
    exact bind_eq_ok.2 ⟨z₁, hz, hy'⟩

/-- **What can be read of a new table can be read of one that exists.** -/
theorem read_again (hd : k.isKnown = true) {ts : List Token} {r : Draft} (h : d.read ts = .ok r) :
    ∃ r', k.read ts = .ok r' := by
  have hstart : Alike (.constraint .column .none) (.constraint .column .none) := .refl _
  obtain ⟨⟨r', e⟩, hfold, halike⟩ := foldlM_follows (x := (d, _)) (z := (k, _)) hd hstart
    (read_eq_ok.1 h)
  cases halike
  exact ⟨r', read_eq_ok.2 hfold⟩

end Draft

/-! ## Creation -/

/-- The second store has the tables of the first, and then perhaps more. -/
def Extends (s s' : Contents) : Prop := s.tables <+: s'.tables

theorem Extends.refl (s : Contents) : Extends s s := List.prefix_refl _

theorem Extends.trans {s s' s'' : Contents} (h : Extends s s') (h' : Extends s' s'') :
    Extends s s'' :=
  List.IsPrefix.trans h h'

/-- A table that is found is found in a store with more tables. -/
theorem Extends.find? {s s' : Contents} (h : Extends s s') {name : String} {t : Table}
    (ht : s.find? name = some t) : s'.find? name = some t := by
  obtain ⟨more, hmore⟩ := h
  rw [Contents.find?, ← hmore, List.find?_append, ← Contents.find?, ht]
  rfl

theorem sameName_refl (name : String) : sameName name name = true := by simp [sameName]

/-- A table with this name and nothing else. -/
def fresh (table : Identifier) : Table := ⟨table.name, [], [], [], .empty, 0⟩

/-- The draft from which the definition of a table is read. -/
def draft (s : Contents) (table : Identifier) (definitions : List String) : Draft :=
  ⟨createTableSql .sqlite table definitions, (s.find? table.name).isSome, fresh table, []⟩

/-- The tokens of the definitions of a table. -/
def definitionTokens (table : Identifier) (definitions : List String) : List Token :=
  (tokens (createTableSql .sqlite table definitions)).drop tokensBefore

section
variable {s s' : Contents} {table : Identifier} {definitions : List String}

/-- **What creating a table does**: its definition can be read, and either it exists, or it is put at
the end as it has been read. -/
theorem create_eq_ok : s.create table definitions = .ok s' ↔
    isReserved table.name = false ∧
      ∃ d, (draft s table definitions).read (definitionTokens table definitions) = .ok d ∧
        s' = if (s.find? table.name).isSome then s else ⟨s.tables ++ [d.table]⟩ := by
  unfold Contents.create
  dsimp only
  by_cases hreserved : isReserved table.name = true
  · rw [if_pos hreserved]
    constructor
    · intro h
      obtain ⟨_, h, -⟩ := bind_eq_ok.1 h
      cases h
    · rintro ⟨h, -⟩
      cases hreserved.symm.trans h
  · rw [if_neg hreserved]
    constructor
    · intro h
      obtain ⟨d, hd, h⟩ := bind_eq_ok.1 h
      cases h
      exact ⟨Bool.eq_false_iff.2 hreserved, d, hd, rfl⟩
    · rintro ⟨-, d, hd, rfl⟩
      exact bind_eq_ok.2 ⟨d, hd, rfl⟩

/-- A table that is created has the name that was asked for. -/
theorem name_of_read {d : Draft} (hs : s.find? table.name = none)
    (h : (draft s table definitions).read (definitionTokens table definitions) = .ok d) :
    d.table.name = table.name := by
  have hnew : (draft s table definitions).isKnown = false := by
    rw [draft, hs]
    rfl
  obtain ⟨_, hreached⟩ := Draft.read_reached (x := (draft s table definitions, _))
    ⟨hnew, rfl, rfl⟩ (Draft.read_eq_ok.1 h)
  exact hreached.name

/-- Creating a table keeps those that exist, and afterwards there is one of its name. -/
theorem create_extends (h : s.create table definitions = .ok s') :
    Extends s s' ∧ (s'.find? table.name).isSome = true := by
  obtain ⟨-, d, hd, rfl⟩ := create_eq_ok.1 h
  split_ifs with hfound
  · exact ⟨.refl s, hfound⟩
  · have hnone : s.find? table.name = none := by simpa using hfound
    refine ⟨List.prefix_append _ _, ?_⟩
    rw [Contents.find?, List.find?_append, ← Contents.find?, hnone, Option.none_or,
      List.find?_singleton, name_of_read hnone hd, if_pos (sameName_refl _)]
    rfl

/-- **Creating a table again succeeds and changes nothing**, whatever tables have been added. -/
theorem create_again (h : s.create table definitions = .ok s') {s'' : Contents}
    (hs : Extends s' s'') : s''.create table definitions = .ok s'' := by
  obtain ⟨t, ht⟩ := Option.isSome_iff_exists.1 (create_extends h).2
  have hfound : (s''.find? table.name).isSome = true := by
    rw [hs.find? ht]
    rfl
  obtain ⟨hreserved, d, hd, -⟩ := create_eq_ok.1 h
  obtain ⟨d', hd'⟩ := Draft.read_again (k := draft s'' table definitions) hfound hd
  exact create_eq_ok.2 ⟨hreserved, d', hd', by rw [if_pos hfound]⟩

end

end TableService.Store
