/-
  The columns that a definition declares.

  * `Declares`: tokens go on in the definition of a column, inside brackets or not, and then define
    columns with these names up to the bracket that ends the table.  Commas inside brackets do not
    end a column.
  * `step_nests`: a step in the definition of a column keeps count of the brackets;
    `read_declares`: so the columns that are read of a new table are those that are declared.
-/
import TableService.Proofs.Store.Definition

namespace TableService.Store

/-- The token is a bracket or a comma. -/
def Token.separates (t : Token) : Bool := t.isSign "(" || t.isSign ")" || t.isSign ","

/-- The tokens go on with the definition of a column, inside brackets if `nested`, and then define
columns with these names up to the end of the table. -/
inductive Declares : Bool → List String → List Token → Prop
  | close {t : Token} : t.isSign ")" = true → Declares false [] [t]
  | column {t u : Token} {name : String} {names : List String} {ts : List Token} :
    t.isSign "," = true → u.kind = .name name → Declares false names ts →
      Declares false (name :: names) (t :: u :: ts)
  | enter {t : Token} {names : List String} {ts : List Token} :
    t.isSign "(" = true → Declares true names ts → Declares false names (t :: ts)
  | leave {t : Token} {names : List String} {ts : List Token} :
    t.isSign ")" = true → Declares false names ts → Declares true names (t :: ts)
  | comma {t : Token} {names : List String} {ts : List Token} :
    t.isSign "," = true → Declares true names ts → Declares true names (t :: ts)
  | other {t : Token} {nested : Bool} {names : List String} {ts : List Token} :
    t.separates = false → Declares nested names ts → Declares nested names (t :: ts)

namespace Draft

/-- What is expected in the definition of a column, and whether that is inside brackets. -/
def Expected.nested? : Expected → Option Bool
  | .type _ _ | .typed _ _ | .constraint .column _ | .conflict .column _ | .resolution .column _
  | .notNull | .primaryKey .column | .default | .defaultNumber _ | .constraintName .column
  | .target .column _ | .targetOpen .column _ _ | .event .column | .action .column _
  | .setAction .column _ | .noAction .column _ => some false
  | .size _ _ _ | .signedSize _ _ _ | .sizeEnd _ _ _ | .targetColumn .column _ _
  | .targetClose .column _ _ _ => some true
  | _ => none

/-- What is expected after a token in the definition of a column. -/
structure Nests (nested : Bool) (t : Token) (e : Expected) : Prop where
  enter : t.isSign "(" = true → nested = false ∧ e.nested? = some true
  leave : t.isSign ")" = true → if nested then e.nested? = some false else e = .nothing
  comma : t.isSign "," = true → if nested then e.nested? = some true else e = .item false
  other : t.separates = false → e.nested? = some nested

variable {d : Draft} {e : Expected} {t : Token} {nested : Bool}

theorem isSign_of_kind {s : String} (h : t.kind ≠ .sign) : t.isSign s = false := by
  simp [Token.isSign, h]

theorem isSign_unique {s s' : String} (h : t.isSign s = true) (hs : s ≠ s') :
    t.isSign s' = false := by
  simp only [Token.isSign, Bool.and_eq_true, beq_iff_eq] at h
  simp [Token.isSign, h.2, hs]

/-- After a token that is no bracket and no comma, the number of brackets is the same. -/
theorem nests_other (h : t.separates = false) (he : e.nested? = some nested) : Nests nested t e := by
  simp only [Token.separates, Bool.or_eq_false_iff] at h
  obtain ⟨⟨henter, hleave⟩, hcomma⟩ := h
  constructor
  · intro hs
    cases henter.symm.trans hs
  · intro hs
    cases hleave.symm.trans hs
  · intro hs
    cases hcomma.symm.trans hs
  · exact fun _ => he

theorem nests_of_kind (h : t.kind ≠ .sign) (he : e.nested? = some nested) : Nests nested t e :=
  nests_other (by simp [Token.separates, isSign_of_kind h]) he

/-- The sign of a number is no bracket and no comma. -/
theorem nests_plus (h : (t.isSign "+" || t.isSign "-") = true) (he : e.nested? = some nested) :
    Nests nested t e := by
  refine nests_other ?_ he
  rcases Bool.or_eq_true_iff.1 h with h | h
  all_goals
    rw [Token.separates, isSign_unique h (by decide), isSign_unique h (by decide),
      isSign_unique h (by decide)]
    rfl

theorem nests_enter (h : t.isSign "(" = true) (he : e.nested? = some true) : Nests false t e where
  enter _ := ⟨rfl, he⟩
  leave hs := by cases hs.symm.trans (isSign_unique h (by decide))
  comma hs := by cases hs.symm.trans (isSign_unique h (by decide))
  other hs := by simp [Token.separates, h] at hs

theorem nests_leave (h : t.isSign ")" = true)
    (he : if nested then e.nested? = some false else e = .nothing) : Nests nested t e where
  enter hs := by cases hs.symm.trans (isSign_unique h (by decide))
  leave _ := he
  comma hs := by cases hs.symm.trans (isSign_unique h (by decide))
  other hs := by simp [Token.separates, h] at hs

theorem nests_comma (h : t.isSign "," = true)
    (he : if nested then e.nested? = some true else e = .item false) : Nests nested t e where
  enter hs := by cases hs.symm.trans (isSign_unique h (by decide))
  leave hs := by cases hs.symm.trans (isSign_unique h (by decide))
  comma _ := he
  other hs := by simp [Token.separates, h] at hs

theorem nests_word {w : String} (h : t.isWord w = true) (he : e.nested? = some nested) :
    Nests nested t e := by
  refine nests_of_kind ?_ he
  intro hk
  simp [Token.isWord, hk] at h

theorem nests_name {n : String} (h : t.name? = some n) (he : e.nested? = some nested) :
    Nests nested t e := by
  refine nests_of_kind ?_ he
  intro hk
  simp [Token.name?, hk] at h

theorem nests_typeWord (h : t.isTypeWord = true) (he : e.nested? = some nested) :
    Nests nested t e := by
  refine nests_of_kind ?_ he
  intro hk
  simp [Token.isTypeWord, Token.name?, hk] at h

theorem nests_literal {c : Cell} (h : literal? t = some c) (he : e.nested? = some nested) :
    Nests nested t e := by
  refine nests_of_kind ?_ he
  intro hk
  simp [literal?, hk] at h

theorem nests_resolution {r : Resolution} (h : resolution? t = some r) (he : e.nested? = some nested) :
    Nests nested t e := by
  obtain ⟨x, hx, -⟩ := Option.map_eq_some_iff.1 h
  have hword : t.isWord x.1 = true := by simpa using List.find?_some hx
  exact nests_word hword he

/-- What a step results in, if it succeeds, is expected after the token. -/
abbrev StepNests (nested : Bool) (t : Token) (s : Step) : Prop :=
  Ensures (fun x => Nests nested t x.2) s

theorem nests_columnConstraint {x : Draft × Expected} (h : columnConstraint? d t = some x) :
    Nests false t x.2 := by
  unfold columnConstraint? at h
  split_ifs at h with hnot hnull hunique hprimary hdefault hreferences hconstraint
  · cases h
    exact nests_word hnot rfl
  · cases h
    exact nests_word hnull rfl
  · cases h
    exact nests_word hunique rfl
  · cases h
    exact nests_word hprimary rfl
  · cases h
    exact nests_word hdefault rfl
  · cases h
    exact nests_word hreferences rfl
  · cases h
    exact nests_word hconstraint rfl

theorem nests_afterConstraint (supplement : Supplement) :
    StepNests false t (d.afterConstraint .column supplement t) := by
  unfold afterConstraint
  split_ifs with hcomma hend hon
  · exact ensures_ok (nests_comma hcomma rfl)
  · exact ensures_ok (nests_leave hend rfl)
  · cases supplement with
    | event => exact ensures_ok (nests_word hon rfl)
    | conflict => exact ensures_ok (nests_word hon rfl)
    | none => exact ensures_misfit
  · dsimp only
    split
    · rename_i x hx
      exact ensures_ok (nests_columnConstraint hx)
    · exact ensures_misfit

theorem nests_afterType (name : String) (type : List Token) :
    StepNests false t (d.afterType name type t) := by
  unfold afterType
  split
  · exact nests_afterConstraint .none
  · rintro x hx
    obtain ⟨-, -, hx⟩ := bind_eq_ok.1 hx
    cases hx

theorem nests_requireWord {w : String} (he : e.nested? = some false) :
    StepNests false t (d.require t (t.isWord w) e) :=
  ensures_require fun h => nests_word h he

theorem nests_requireNumber (he : e.nested? = some true) :
    StepNests true t (d.require t (t.kind == .number) e) := by
  refine ensures_require fun h => nests_of_kind ?_ he
  rw [beq_iff_eq.1 h]
  decide

/-- What is covered keeps count of the brackets in the definition of a column. -/
theorem advance_nests (he : e.nested? = some nested) : StepNests nested t (advance (d, e) t) := by
  cases e with
  | type name type =>
    cases he
    unfold advance
    dsimp only
    split_ifs with hword hsize
    · exact ensures_ok (nests_typeWord hword rfl)
    · exact ensures_ok (nests_enter (Bool.and_eq_true_iff.1 hsize).1 rfl)
    · exact nests_afterType name type
  | typed name type =>
    cases he
    exact nests_afterType name type
  | size name type further =>
    cases he
    unfold advance
    dsimp only
    split_ifs with hsign
    · exact ensures_ok (nests_plus hsign rfl)
    · exact nests_requireNumber rfl
  | signedSize =>
    cases he
    exact nests_requireNumber rfl
  | sizeEnd name type further =>
    cases he
    unfold advance
    dsimp only
    split_ifs with hcomma
    · exact ensures_ok (nests_comma (Bool.and_eq_true_iff.1 hcomma).2 rfl)
    · exact ensures_require fun hend => nests_leave hend rfl
  | constraint owner supplement =>
    cases owner with
    | table => cases he
    | column =>
      cases he
      exact nests_afterConstraint supplement
  | conflict owner =>
    cases owner with
    | table => cases he
    | column =>
      cases he
      exact nests_requireWord rfl
  | resolution owner demand =>
    cases owner with
    | table => cases he
    | column =>
      cases he
      unfold advance
      dsimp only
      split
      · rename_i r hr
        exact (ensures_resolve d demand r).bind fun _ _ => ensures_ok (nests_resolution hr rfl)
      · exact ensures_misfit
  | notNull =>
    cases he
    exact nests_requireWord rfl
  | primaryKey owner =>
    cases owner with
    | table => cases he
    | column =>
      cases he
      unfold advance
      dsimp only
      split_ifs with hkey howner
      · exact ensures_misfit
      · cases howner
      · have hword : t.isWord "key" = true := by simpa using hkey
        exact ensures_ok (nests_word hword rfl)
      · exact ensures_error _
  | default =>
    cases he
    unfold advance
    dsimp only
    split
    · rename_i v hv
      exact ensures_ok (nests_literal hv rfl)
    · exact ensures_require fun h => nests_plus h rfl
  | defaultNumber negative =>
    cases he
    unfold advance
    dsimp only
    split
    · rename_i v hv
      exact ensures_ok (nests_literal hv rfl)
    · exact ensures_misfit
  | constraintName owner =>
    cases owner with
    | table => cases he
    | column =>
      cases he
      exact ensures_named fun n hn => ensures_ok (nests_name hn rfl)
  | target owner place =>
    cases owner with
    | table => cases he
    | column =>
      cases he
      exact ensures_named fun n hn => ensures_ok (nests_name hn rfl)
  | targetOpen owner place target =>
    cases owner with
    | table => cases he
    | column =>
      cases he
      unfold advance
      dsimp only
      split_ifs with hopen
      · exact ensures_ok (nests_enter hopen rfl)
      · exact nests_afterConstraint .event
  | targetColumn owner place target =>
    cases owner with
    | table => cases he
    | column =>
      cases he
      exact ensures_named fun n hn => ensures_ok (nests_name hn rfl)
  | targetClose owner place target column =>
    cases owner with
    | table => cases he
    | column =>
      cases he
      exact ensures_require fun hend => nests_leave hend rfl
  | event owner =>
    cases owner with
    | table => cases he
    | column =>
      cases he
      refine ensures_require fun h => ?_
      rcases Bool.or_eq_true_iff.1 h with h | h
      · exact nests_word h rfl
      · exact nests_word h rfl
  | action owner onDelete =>
    cases owner with
    | table => cases he
    | column =>
      cases he
      unfold advance
      dsimp only
      split_ifs with hcascade hrestrict hset
      · exact ensures_ok (nests_word hcascade rfl)
      · exact ensures_ok (nests_word hrestrict rfl)
      · exact ensures_ok (nests_word hset rfl)
      · exact nests_requireWord rfl
  | setAction owner onDelete =>
    cases owner with
    | table => cases he
    | column =>
      cases he
      unfold advance
      dsimp only
      split_ifs with hnull hdefault
      · exact ensures_ok (nests_word hnull rfl)
      · exact ensures_ok (nests_word hdefault rfl)
      · exact ensures_misfit
  | noAction owner onDelete =>
    cases owner with
    | table => cases he
    | column =>
      cases he
      exact nests_requireWord rfl
  | item | namesOpen | nextName | namesNext | foreignKey | foreignOpen | foreignName | foreignClose
  | references | option | afterOption | nothing => cases he

/-- **A step in the definition of a column keeps count of the brackets.** -/
theorem step_nests (he : e.nested? = some nested) : StepNests nested t (step (d, e) t) := by
  unfold step
  split_ifs
  · exact ensures_error _
  · exact advance_nests he

/-! ## Reading -/

theorem begun_of_nested (he : e.nested? = some nested) : e.begun t = [] := by
  cases e with
  | item => cases he
  | _ => rfl

/-- The first token in the definition of a column begins no other column. -/
theorem read_nested {x y : Draft × Expected} {name : String} {names : List String} {ts : List Token}
    (hx : Reached name names x) (he : x.2.nested? = some nested)
    (hy : (t :: ts).foldlM step x = .ok y) :
    ∃ z, Reached name names z ∧ Nests nested t z.2 ∧ ts.foldlM step z = .ok y := by
  rw [List.foldlM_cons] at hy
  obtain ⟨z, hz, hy⟩ := bind_eq_ok.1 hy
  have hreached := step_reached hx z hz
  rw [begun_of_nested he, List.append_nil] at hreached
  exact ⟨z, hreached, step_nests he z hz, hy⟩

/-- A name in quotes begins a column. -/
theorem step_name {name : String} (ht : t.kind = .name name) :
    step (d, .item false) t = .ok (d, .type name []) := by
  have hword : ∀ w, t.isWord w = false := fun w => by simp [Token.isWord, ht]
  have hname : t.name? = some name := by rw [Token.name?, ht]
  simp [step, leavesOut, advance, tableConstraint?, hword, named, hname]

/-- **The columns that are read are those that are declared.** -/
theorem read_declares {names : List String} {ts : List Token} (h : Declares nested names ts)
    {x y : Draft × Expected} {name : String} {before : List String}
    (hx : Reached name before x) (he : x.2.nested? = some nested)
    (hy : ts.foldlM step x = .ok y) : Reached name (before ++ names) y ∧ y.2 = .nothing := by
  induction h generalizing x before with
  | close ht =>
    obtain ⟨z, hreached, hnests, hy⟩ := read_nested hx he hy
    cases hy
    exact ⟨by rwa [List.append_nil], hnests.leave ht⟩
  | @column t u n names ts ht hu _ ih =>
    obtain ⟨⟨d, e⟩, hreached, hnests, hy⟩ := read_nested hx he hy
    obtain rfl : e = .item false := hnests.comma ht
    rw [List.foldlM_cons, step_name hu] at hy
    have hbegun : Reached name (before ++ [n]) (d, .type n []) :=
      ⟨hreached.isNew, hreached.name, by rw [← hreached.names, List.append_assoc]; rfl⟩
    obtain ⟨hread, hend⟩ := ih hbegun rfl hy
    exact ⟨by rwa [List.append_assoc] at hread, hend⟩
  | enter ht _ ih =>
    obtain ⟨z, hreached, hnests, hy⟩ := read_nested hx he hy
    exact ih hreached (hnests.enter ht).2 hy
  | leave ht _ ih =>
    obtain ⟨z, hreached, hnests, hy⟩ := read_nested hx he hy
    exact ih hreached (hnests.leave ht) hy
  | comma ht _ ih =>
    obtain ⟨z, hreached, hnests, hy⟩ := read_nested hx he hy
    exact ih hreached (hnests.comma ht) hy
  | other ht _ ih =>
    obtain ⟨z, hreached, hnests, hy⟩ := read_nested hx he hy
    exact ih hreached (hnests.other ht) hy

end Draft

end TableService.Store
