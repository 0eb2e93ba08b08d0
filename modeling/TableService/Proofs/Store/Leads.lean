/-
  Where the actions of foreign keys lead.

  * `Acts`: what happens to the rows of one table makes something happen to rows of another one, by
    the action of a foreign key; `LeadsBack`: such actions lead from a table to itself.
  * `Course`: every one of a list of changes is a statement's own or due, which means asked for by a
    foreign key after an earlier one.
  * `untouched_of_ensue`: where actions do not lead back to a table, no change that ensues is on it,
    so the table is as it was (`find?_after_of_untouched`).
-/
import Mathlib.Logic.Relation
import TableService.Proofs.Store.RowByKey

namespace TableService.Store

open Relation

/-! ## Actions -/

/-- What happens to a row: it goes, or it gets values. -/
inductive Fate where
  | removed
  | assigned
  deriving DecidableEq

/-- What a deed means for the rows that it is done to. -/
def Deed.fate : Deed → Fate
  | .remove | .refuse => .removed
  | .assign _ => .assigned

/-- What a change means for its row. -/
def RowChange.fate (x : RowChange) : Fate := if x.new.isNone then .removed else .assigned

/-- What a foreign key does when this happens to a row that it refers to. -/
def ForeignKey.actionOn (fk : ForeignKey) : Fate → KeyAction
  | .removed => fk.onDelete
  | .assigned => fk.onUpdate

/-- What an action makes happen to the referring rows; a refusal makes nothing happen. -/
def passedOn : KeyAction → Fate → Option Fate
  | .cascade, fate => some fate
  | .setNull, _ | .setDefault, _ => some .assigned
  | .restrict, _ | .noAction, _ => none

/-- A table, whatever the case of its name, with what happens to rows of it. -/
abbrev Struck := String × Fate

/-- This happens to rows of the table. -/
def struck (table : String) (fate : Fate) : Struck := (Text.lowerAscii table, fate)

/-- What happens to rows of a table makes something happen to rows of a table that refers to it. -/
inductive Acts (s : Contents) : Struck → Struck → Prop
  | intro {child : Table} {fk : ForeignKey} {fate fate' : Fate} (isTable : child ∈ s.tables)
    (declared : fk ∈ child.foreignKeys) (passes : passedOn (fk.actionOn fate) fate = some fate') :
    Acts s (struck fk.target fate) (struck child.name fate')

/-- What happens to rows of the table makes something happen to rows of the same table, by one
action of a foreign key or by several. -/
def LeadsBack (s : Contents) (table : String) (fate : Fate) : Prop :=
  ∃ fate', TransGen (Acts s) (struck table fate) (struck table fate')

/-- The change of a row, as it strikes its table. -/
def RowChange.struck (x : RowChange) : Struck := Store.struck x.table x.fate

theorem struck_congr {a b : String} (h : sameName a b = true) (fate : Fate) :
    struck a fate = struck b fate := by
  rw [struck, sameName_iff.1 h, struck]

theorem leadsBack_congr {a b : String} (h : sameName a b = true) {s : Contents} {fate : Fate} :
    LeadsBack s a fate ↔ LeadsBack s b fate := by
  simp only [LeadsBack, struck_congr h]

theorem RowChange.action_eq_actionOn (x : RowChange) (fk : ForeignKey) :
    x.action fk = fk.actionOn x.fate := by
  unfold action fate
  split_ifs <;> rfl

theorem Deed.Makes.fate {t : Table} {e : Entry} {deed : Deed} {new : Option Entry}
    (h : deed.Makes t e new) (table : String) : RowChange.fate ⟨table, e, new⟩ = deed.fate := by
  cases h <;> rfl

theorem Reaction.passes {x : RowChange} {child : Table} {fk : ForeignKey} {place : Place}
    {deed : Deed} (h : Reaction x child fk place deed) :
    passedOn (fk.actionOn x.fate) x.fate = some deed.fate := by
  rw [← x.action_eq_actionOn]
  cases h with
  | remove hact hnew => rw [hact, RowChange.fate, hnew]; rfl
  | follow hact hnew => rw [hact, RowChange.fate, hnew]; rfl
  | setNull hact => rw [hact]; rfl
  | setDefault hact => rw [hact]; rfl

/-- **A change that is due** is where the action of a foreign key leads from an earlier change. -/
theorem Due.acts {s : Contents} {past : List RowChange} {y : RowChange} (h : Due s past y) :
    ∃ x ∈ past, Acts s x.struck y.struck := by
  obtain ⟨moment, hmoment, x, hx, c, hasks, -, t, ht, hname, hmakes⟩ := h
  obtain ⟨hrefers, htarget, -, hreaction⟩ := hasks
  rename_i child parent fk place deed
  have hchild : sameName child.name y.table = true := by
    rw [← hname]
    exact sameName_of_find? ht
  have hacts : Acts s (struck fk.target x.fate) (struck child.name deed.fate) :=
    .intro hrefers.isTable hrefers.declared hreaction.passes
  refine ⟨x, hmoment.subset hx, ?_⟩
  rw [RowChange.struck, RowChange.struck, ← struck_congr htarget, ← struck_congr hchild,
    show y.fate = deed.fate from hmakes.fate y.table]
  exact hacts

/-- Actions do not lead back to a table that refers to none. -/
theorem not_leadsBack {s : Contents} {table : String}
    (h : ∀ u ∈ s.tables, sameName table u.name = true → u.foreignKeys = []) (fate : Fate) :
    ¬LeadsBack s table fate := by
  rintro ⟨fate', hled⟩
  obtain ⟨middle, -, hacts⟩ := TransGen.tail'_iff.1 hled
  generalize hend : struck table fate' = z at hacts
  cases hacts with
  | intro hchild hfk hpasses =>
    have hname := sameName_iff.2 (congrArg Prod.fst hend)
    exact List.not_mem_nil (h _ hchild hname ▸ hfk)

/-! ## Tables that are not reached -/

section
variable {s : Contents} {start : Struck}

/-- Changes that ensue are where actions lead from the start, if those before them are. -/
theorem led_of_ensue {ys : List RowChange} : ∀ {past : List RowChange},
    (∀ x ∈ past, ReflTransGen (Acts s) start x.struck) → Ensue s past ys →
      ∀ y ∈ ys, TransGen (Acts s) start y.struck := by
  induction ys with
  | nil => exact fun _ _ _ hy => absurd hy List.not_mem_nil
  | cons y ys ih =>
    rintro past hpast ⟨-, hdue, hys⟩
    have hy : TransGen (Acts s) start y.struck := by
      obtain ⟨x, hx, hacts⟩ := hdue.acts
      exact TransGen.tail' (hpast x hx) hacts
    refine List.forall_mem_cons.2 ⟨hy, ih (fun x hx => ?_) hys⟩
    rcases List.mem_append.1 hx with hx | hx
    · exact hpast x hx
    · rw [List.mem_singleton.1 hx]
      exact hy.to_reflTransGen

/-- **Where actions do not lead back to a table**, no change that ensues is on it. -/
theorem untouched_of_ensue {table : String} {fate : Fate} (h : ¬LeadsBack s table fate)
    {past ys : List RowChange}
    (hpast : ∀ x ∈ past, ReflTransGen (Acts s) (struck table fate) x.struck)
    (hys : Ensue s past ys) : ∀ y ∈ ys, ¬sameName y.table table = true := by
  intro y hy hname
  have hled := led_of_ensue hpast hys y hy
  rw [RowChange.struck, struck_congr hname] at hled
  exact h ⟨y.fate, hled⟩

end

/-- **A table is as it was** after changes on other tables. -/
theorem find?_after_of_untouched {s : Contents} {name : String} {ys : List RowChange}
    (h : ∀ y ∈ ys, ¬sameName y.table name = true) : (s.after ys).find? name = s.find? name := by
  induction ys using List.reverseRecOn with
  | nil => rfl
  | append_singleton ys y ih =>
    obtain ⟨hys, hy⟩ := List.forall_mem_append.1 h
    have hy := List.forall_mem_singleton.1 hy
    rw [find?_concat, ih hys]
    cases hfind : s.find? name with
    | none => rfl
    | some u =>
      have hother : ¬sameName y.table u.name = true := fun hsame =>
        hy (sameName_trans hsame (sameName_symm (sameName_of_find? hfind)))
      rw [Option.map_some, RowChange.onTable, if_neg hother]

/-! ## Courses of changes -/

/-- Every change is a statement's own, or it is due after those before it. -/
def Course (s : Contents) (own : RowChange → Prop) : List RowChange → List RowChange → Prop
  | _, [] => True
  | past, y :: ys =>
    y.Fits (s.after past) ∧ (own y ∨ Due s past y) ∧ Course s own (past ++ [y]) ys

section
variable {s : Contents} {own : RowChange → Prop}

theorem Ensue.course {ys : List RowChange} : ∀ {past : List RowChange}, Ensue s past ys →
    Course s own past ys := by
  induction ys with
  | nil => exact fun _ => trivial
  | cons y ys ih => exact fun ⟨hfits, hdue, hys⟩ => ⟨hfits, .inr hdue, ih hys⟩

theorem Course.append {ys zs : List RowChange} : ∀ {past : List RowChange},
    Course s own past ys → Course s own (past ++ ys) zs → Course s own past (ys ++ zs) := by
  induction ys with
  | nil =>
    intro past _ h
    rwa [List.append_nil] at h
  | cons y ys ih =>
    rintro past ⟨hfits, hy, hys⟩ h
    refine ⟨hfits, hy, ih hys ?_⟩
    rwa [List.append_assoc]

/-- In a course what is not the statement's own is due after what came before it. -/
theorem Course.due {ys : List RowChange} {y : RowChange} (hy : y ∈ ys) (hown : ¬own y) :
    ∀ {past : List RowChange}, Course s own past ys →
      ∃ before, before ++ [y] <+: past ++ ys ∧ Due s before y := by
  induction ys with
  | nil => exact absurd hy List.not_mem_nil
  | cons z zs ih =>
    rintro past ⟨-, hz, hzs⟩
    rcases List.mem_cons.1 hy with rfl | hmem
    · exact ⟨past, ⟨zs, by simp⟩, hz.resolve_left hown⟩
    · obtain ⟨before, hinit, hdue⟩ := ih hmem hzs
      exact ⟨before, by rwa [List.append_assoc] at hinit, hdue⟩

end

end TableService.Store
