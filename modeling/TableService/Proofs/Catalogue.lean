/-
  The tables that exist in a database while it is used.

  * `Database.Catalogue`: what is relied on of a database, that it knows its tables, creates what it
    says it has created, and drops nothing.
  * `Recorded`: whatever a call of a run has found or created is there for all later calls; every
    call on such a database keeps this (`keeps_tableExists`, `keeps_createTable`).
  * `Database.listing` is such a database.
-/
import Mathlib.Data.Set.Basic
import TableService.Proofs.Calls

namespace TableService

variable {σ : Type}

/-- What is relied on of a database whose states have these tables. -/
structure Database.Catalogue (db : Database σ) (tables : σ → Set String) : Prop where
  /-- A table is reported exactly if it exists. -/
  exists_iff : ∀ {t w b w'}, (db.tableExists t).outcome w = (.ok b, w') →
    (b = true ↔ t ∈ tables w.state)
  exists_keeps : ∀ t w, tables w.state ⊆ tables ((db.tableExists t).outcome w).2.state
  /-- A table exists once it has been created. -/
  creates : ∀ {t definitions w w'}, (db.createTable t definitions).outcome w = (.ok (), w') →
    t ∈ tables w'.state
  create_keeps : ∀ t definitions w,
    tables w.state ⊆ tables ((db.createTable t definitions).outcome w).2.state

/-! ## Runs -/

/-- The state has all tables that the call found, and the one that it created. -/
def Event.Kept (tables : σ → Set String) (x : Event σ) (s : σ) : Prop :=
  tables x.before ⊆ tables s ∧ ∀ t, x.Creates t → t ∈ tables s

/-- What a call has found or created is there for all later ones, and at the end. -/
def Recorded (tables : σ → Set String) (w : Watched σ) : Prop :=
  w.events.Pairwise (fun x e => x.Kept tables e.before) ∧ ∀ x ∈ w.events, x.Kept tables w.state

variable {tables : σ → Set String}

theorem recorded_nil (s : σ) : Recorded tables ⟨s, []⟩ := ⟨.nil, by simp⟩

/-- One more call, after which the state has all that it found and created. -/
theorem Recorded.call {w : Watched σ} (h : Recorded tables w) {e : Event σ} {s : σ}
    (hb : e.before = w.state) (he : e.Kept tables s) : Recorded tables ⟨s, w.events ++ [e]⟩ := by
  refine ⟨List.pairwise_append.2 ⟨h.1, List.pairwise_singleton _ _, fun x hx y hy => ?_⟩,
    fun x hx => ?_⟩
  · obtain rfl := List.mem_singleton.1 hy
    exact hb ▸ h.2 x hx
  · rcases List.mem_append.1 hx with hx | hx
    · obtain ⟨hk, hc⟩ := h.2 x hx
      rw [← hb] at hk hc
      exact ⟨hk.trans he.1, fun t ht => he.1 (hc t ht)⟩
    · obtain rfl := List.mem_singleton.1 hx
      exact he

section
variable {db : Database σ} (hdb : db.Catalogue tables)
include hdb

theorem keeps_tableExists (t : String) : Keeps (Recorded tables) (db.watched.tableExists t) := by
  intro w h
  refine h.call rfl ⟨hdb.exists_keeps t w.unwatched, ?_⟩
  rintro u ⟨-, definitions, hc⟩
  cases hc

theorem keeps_createTable (t : String) (definitions : List String) :
    Keeps (Recorded tables) (db.watched.createTable t definitions) := by
  intro w h
  have hk := hdb.create_keeps t definitions w.unwatched
  rcases hr : (db.createTable t definitions).outcome w.unwatched with ⟨r, w'⟩
  rw [hr] at hk
  rw [show (db.watched.createTable t definitions).outcome w = _ from outcome_watching hr]
  refine h.call rfl ⟨hk, ?_⟩
  rintro u ⟨hs, ds, hc⟩
  cases hc
  cases r with
  | error e => cases hs
  | ok => exact hdb.creates hr

end

/-! ## A list of tables -/

/-- A database that keeps only the names of its tables, and refuses to create some. -/
def Database.listing (d : Dialect) (refused : List String) : Database (List String) where
  dialect := d
  createTable t _ := do
    if refused.contains t then throw (.database ("cannot create " ++ t))
    Action.setState (t :: (← Action.state))
  insert _ := return ()
  select _ := return []
  update _ := return 0
  delete _ := return 0
  execute _ := return ()
  fetch _ := return []
  tableExists t := return (← Action.state).contains t
  disconnect := return ()

theorem listing_createTable (d : Dialect) (refused : List String) (t : String)
    (definitions : List String) (w : Logged (List String)) :
    ((Database.listing d refused).createTable t definitions).outcome w =
      if refused.contains t then (.error (.database ("cannot create " ++ t)), w)
      else (.ok (), ⟨t :: w.state, w.log⟩) := by
  unfold Database.listing
  by_cases h : refused.contains t = true <;> simp only [h] <;> rfl

theorem listing_catalogue (d : Dialect) (refused : List String) :
    (Database.listing d refused).Catalogue fun s => {t | t ∈ s} where
  exists_iff {t w b w'} h := by
    obtain rfl : w.state.contains t = b := Except.ok.inj (congrArg Prod.fst h)
    simp
  exists_keeps t w := subset_rfl
  creates {t definitions w w'} h := by
    rw [listing_createTable] at h
    split_ifs at h
    · cases h
    · cases h
      exact List.mem_cons_self
  create_keeps t definitions w := by
    rw [listing_createTable]
    split_ifs
    · exact subset_rfl
    · exact fun u hu => List.mem_cons_of_mem _ hu

theorem listing_alwaysCreates (d : Dialect) : (Database.listing d []).AlwaysCreates :=
  fun t definitions w => by rw [listing_createTable]; rfl

end TableService
