/-
  Results that may be errors.

  * `bind_eq_ok` and `mapM_eq_ok` take apart what has succeeded.
  * `exists_forall₂_iff` and `forall₂_getElem?`: lists that are related element by element.
  * `foldlM_keeps`: what every step keeps; `foldlM_refines`: a fold that takes the steps of another
    one.
  * `mapM_eq_error` and `foldlM_eq_error`: the error is that of the first element that fails.
  * `foldlM_view`: if every step of a fold adds its part to a view of the state, then the whole fold
    adds all parts in order; `foldlM_appends` is the same where a part is only known up to a
    relation.
  * `Reports`: of a list of faults the result is the first, and there is none if it succeeds.
  * `Agree`: two results are the same error, or both are there and related.
-/
import Mathlib.Data.List.Forall2

namespace TableService

variable {ε α β γ : Type}

theorem bind_eq_ok {x : Except ε α} {f : α → Except ε β} {b : β} :
    (x >>= f) = .ok b ↔ ∃ a, x = .ok a ∧ f a = .ok b := by
  cases x <;> simp [bind, Except.bind]

theorem then_eq_ok {x : Except ε Unit} {y : Except ε β} {b : β} :
    (x >>= fun _ => y) = .ok b ↔ x = .ok () ∧ y = .ok b := by
  cases x <;> simp [bind, Except.bind]

theorem map_eq_ok {x : Except ε α} {f : α → β} {b : β} :
    x.map f = .ok b ↔ ∃ a, x = .ok a ∧ f a = b := by
  cases x <;> simp [Except.map]

theorem mapError_eq_ok {ε' : Type} {x : Except ε α} {f : ε → ε'} {a : α} :
    x.mapError f = .ok a ↔ x = .ok a := by
  cases x <;> simp [Except.mapError]

theorem mapM_eq_ok {f : α → Except ε β} : ∀ {l : List α} {bs : List β},
    l.mapM f = .ok bs ↔ List.Forall₂ (fun a b => f a = .ok b) l bs
  | [], bs => by
    cases bs <;> simp [pure, Except.pure]
  | a :: l, bs => by
    rw [List.mapM_cons, bind_eq_ok]
    constructor
    · rintro ⟨b, hb, h⟩
      obtain ⟨bs', hbs, h⟩ := bind_eq_ok.1 h
      cases h
      exact .cons hb (mapM_eq_ok.1 hbs)
    · rintro (_ | ⟨hb, hbs⟩)
      exact ⟨_, hb, bind_eq_ok.2 ⟨_, mapM_eq_ok.2 hbs, rfl⟩⟩

theorem mapM_map_ok {f : β → Except ε γ} {g : α → β} {h : α → γ} (hf : ∀ a, f (g a) = .ok (h a))
    (l : List α) : (l.map g).mapM f = .ok (l.map h) := by
  rw [mapM_eq_ok, List.forall₂_map_left_iff, List.forall₂_map_right_iff, List.forall₂_same]
  exact fun a _ => hf a

theorem mapM_eq_some {f : α → Option β} : ∀ {l : List α} {bs : List β},
    l.mapM f = some bs ↔ List.Forall₂ (fun a b => f a = some b) l bs
  | [], bs => by simp [eq_comm]
  | a :: l, bs => by
    rw [List.mapM_cons, Option.bind_eq_bind, Option.bind_eq_some_iff, List.forall₂_cons_left_iff]
    refine exists_congr fun b => ?_
    rw [Option.bind_eq_bind, Option.bind_eq_some_iff]
    simp only [mapM_eq_some, Option.pure_def, Option.some.injEq, exists_and_left, eq_comm]

theorem forall₂_mem_left {R : α → β → Prop} {l : List α} {l' : List β} (h : List.Forall₂ R l l') :
    ∀ a ∈ l, ∃ b ∈ l', R a b := by
  induction h with
  | nil => simp
  | cons hab _ ih =>
    intro a ha
    rcases List.mem_cons.1 ha with rfl | ha
    · exact ⟨_, List.mem_cons_self, hab⟩
    · obtain ⟨b, hb, h⟩ := ih a ha
      exact ⟨b, List.mem_cons_of_mem _ hb, h⟩

theorem forall₂_mem_right {R : α → β → Prop} {l : List α} {l' : List β} (h : List.Forall₂ R l l') :
    ∀ b ∈ l', ∃ a ∈ l, R a b :=
  forall₂_mem_left h.flip

/-- A list has a partner as soon as each of its elements has one. -/
theorem exists_forall₂_iff {R : α → β → Prop} {l : List α} :
    (∃ l', List.Forall₂ R l l') ↔ ∀ a ∈ l, ∃ b, R a b := by
  constructor
  · rintro ⟨l', h⟩ a ha
    obtain ⟨b, -, hb⟩ := forall₂_mem_left h a ha
    exact ⟨b, hb⟩
  · intro h
    induction l with
    | nil => exact ⟨[], .nil⟩
    | cons a l ih =>
      obtain ⟨b, hb⟩ := h a List.mem_cons_self
      obtain ⟨l', hl⟩ := ih fun x hx => h x (List.mem_cons_of_mem _ hx)
      exact ⟨b :: l', .cons hb hl⟩

section
variable {R : α → β → Prop} {l : List α} {l' : List β} (h : List.Forall₂ R l l')
include h

theorem forall₂_getElem? {i : Nat} {a : α} (ha : l[i]? = some a) : ∃ b, l'[i]? = some b ∧ R a b := by
  induction h generalizing i with
  | nil => cases ha
  | cons hab _ ih =>
    cases i with
    | zero =>
      cases ha
      exact ⟨_, rfl, hab⟩
    | succ i => exact ih ha

theorem forall₂_map_eq {f : α → γ} {g : β → γ} (hfg : ∀ {a b}, R a b → g b = f a) :
    l'.map g = l.map f := by
  induction h with
  | nil => rfl
  | cons hab _ ih => rw [List.map_cons, List.map_cons, hfg hab, ih]

theorem forall₂_filterMap_eq {f : α → Option γ} {g : β → Option γ}
    (hfg : ∀ {a b}, R a b → g b = f a) : l'.filterMap g = l.filterMap f := by
  induction h with
  | nil => rfl
  | cons hab _ ih => rw [List.filterMap_cons, List.filterMap_cons, hfg hab, ih]

end

/-- A sequence succeeds exactly if both parts do; whether the second does may not depend on what the
first has given. -/
theorem bind_ok_iff {x : Except ε α} {f : α → Except ε β} {p q : Prop} (hx : (∃ a, x = .ok a) ↔ p)
    (hf : ∀ a, x = .ok a → ((∃ b, f a = .ok b) ↔ q)) : (∃ b, (x >>= f) = .ok b) ↔ p ∧ q := by
  constructor
  · rintro ⟨b, h⟩
    obtain ⟨a, ha, hb⟩ := bind_eq_ok.1 h
    exact ⟨hx.1 ⟨a, ha⟩, (hf a ha).1 ⟨b, hb⟩⟩
  · rintro ⟨hp, hq⟩
    obtain ⟨a, ha⟩ := hx.2 hp
    obtain ⟨b, hb⟩ := (hf a ha).2 hq
    exact ⟨b, bind_eq_ok.2 ⟨a, ha, hb⟩⟩

theorem map_ok_iff {x : Except ε α} {f : α → β} : (∃ b, x.map f = .ok b) ↔ ∃ a, x = .ok a := by
  cases x <;> simp [Except.map]

/-- A map succeeds exactly if every element does. -/
theorem mapM_ok_iff {f : α → Except ε β} {l : List α} :
    (∃ bs, l.mapM f = .ok bs) ↔ ∀ a ∈ l, ∃ b, f a = .ok b := by
  simp only [mapM_eq_ok, exists_forall₂_iff]

/-- What every step of a fold keeps, the whole fold keeps. -/
theorem foldlM_keeps {P : β → Prop} {f : β → α → Except ε β} {l : List α}
    (step : ∀ a ∈ l, ∀ {b b'}, P b → f b a = .ok b' → P b') {b b' : β} (hb : P b)
    (h : l.foldlM f b = .ok b') : P b' := by
  induction l generalizing b with
  | nil =>
    cases h
    exact hb
  | cons a l ih =>
    rw [List.foldlM_cons] at h
    obtain ⟨c, hc, h⟩ := bind_eq_ok.1 h
    exact ih (fun x hx => step x (List.mem_cons_of_mem _ hx)) (step a List.mem_cons_self hb hc) h

/-- A fold whose steps are also those of another one, where something holds that they keep. -/
theorem foldlM_refines {P : β → Prop} {f g : β → α → Except ε β} {l : List α}
    (step : ∀ {a b b'}, P b → f b a = .ok b' → P b' ∧ g b a = .ok b') {b b' : β} (hb : P b)
    (h : l.foldlM f b = .ok b') : l.foldlM g b = .ok b' := by
  induction l generalizing b with
  | nil => exact h
  | cons a l ih =>
    rw [List.foldlM_cons] at h ⊢
    obtain ⟨c, hc, h⟩ := bind_eq_ok.1 h
    obtain ⟨hP, hg⟩ := step hb hc
    exact bind_eq_ok.2 ⟨c, hg, ih hP h⟩

/-- Every element that a fold has passed was admitted. -/
theorem foldlM_admits {f : β → α → Except ε β} : ∀ {l : List α} {b b' : β},
    l.foldlM f b = .ok b' → ∀ a ∈ l, ∃ c c', f c a = .ok c'
  | [], _, _, _ => by simp
  | a :: l, b, b', h => by
    rw [List.foldlM_cons] at h
    obtain ⟨c, hc, h⟩ := bind_eq_ok.1 h
    intro x hx
    rcases List.mem_cons.1 hx with rfl | hx
    · exact ⟨b, c, hc⟩
    · exact foldlM_admits h x hx

/-- A fold whose steps add to a view of the state adds all their parts in order. -/
theorem foldlM_view {f : β → α → Except ε β} (view : β → List γ) (part : α → List γ)
    (step : ∀ b a b', f b a = .ok b' → view b' = view b ++ part a) : ∀ {l : List α} {b b' : β},
    l.foldlM f b = .ok b' → view b' = view b ++ l.flatMap part
  | [], b, b', h => by cases h; simp
  | a :: l, b, b', h => by
    rw [List.foldlM_cons] at h
    obtain ⟨c, hc, h⟩ := bind_eq_ok.1 h
    rw [foldlM_view view part step h, step b a c hc, List.flatMap_cons, List.append_assoc]

/-- A fold whose steps append parts that are related to their elements appends all of them. -/
theorem foldlM_appends {R : γ → β → Prop} {f : List β → α → Except ε (List β)} (part : α → List γ)
    (step : ∀ b a b', f b a = .ok b' → ∃ p, b' = b ++ p ∧ List.Forall₂ R (part a) p) :
    ∀ {l : List α} {b b' : List β}, l.foldlM f b = .ok b' →
      ∃ p, b' = b ++ p ∧ List.Forall₂ R (l.flatMap part) p
  | [], b, b', h => by cases h; exact ⟨[], by simp, .nil⟩
  | a :: l, b, b', h => by
    rw [List.foldlM_cons] at h
    obtain ⟨c, hc, h⟩ := bind_eq_ok.1 h
    obtain ⟨p, rfl, hp⟩ := step b a c hc
    obtain ⟨q, rfl, hq⟩ := foldlM_appends part step h
    exact ⟨p ++ q, List.append_assoc .., by rw [List.flatMap_cons]; exact List.rel_append hp hq⟩

/-! ## Failures -/

theorem bind_eq_error {x : Except ε α} {f : α → Except ε β} {e : ε} :
    (x >>= f) = .error e ↔ x = .error e ∨ ∃ a, x = .ok a ∧ f a = .error e := by
  cases x <;> simp [bind, Except.bind]

/-- The error of a map is that of the first element that fails. -/
theorem mapM_eq_error {f : α → Except ε β} {e : ε} : ∀ {l : List α},
    l.mapM f = .error e ↔ ∃ before a after, l = before ++ a :: after ∧
      (∃ bs, before.mapM f = .ok bs) ∧ f a = .error e
  | [] => by simp [pure, Except.pure]
  | a :: l => by
    rw [List.mapM_cons, bind_eq_error]
    constructor
    · rintro (ha | ⟨b, hb, h⟩)
      · exact ⟨[], a, l, rfl, ⟨[], rfl⟩, ha⟩
      · rcases bind_eq_error.1 h with h | ⟨bs, -, h⟩
        · obtain ⟨before, x, after, rfl, ⟨bs, hbs⟩, hx⟩ := mapM_eq_error.1 h
          refine ⟨a :: before, x, after, rfl, ⟨b :: bs, ?_⟩, hx⟩
          exact mapM_eq_ok.2 (.cons hb (mapM_eq_ok.1 hbs))
        · cases h
    · rintro ⟨_ | ⟨a', before⟩, x, after, hl, ⟨bs, hbs⟩, hx⟩
      · obtain ⟨rfl, rfl⟩ := List.cons.inj hl
        exact .inl hx
      · obtain ⟨rfl, rfl⟩ := List.cons.inj hl
        rcases mapM_eq_ok.1 hbs with _ | ⟨hb, hall⟩
        refine .inr ⟨_, hb, bind_eq_error.2 (.inl ?_)⟩
        exact mapM_eq_error.2 ⟨before, x, after, rfl, ⟨_, mapM_eq_ok.2 hall⟩, hx⟩

/-- The error of a fold is that of the first step that fails. -/
theorem foldlM_eq_error {f : β → α → Except ε β} {e : ε} : ∀ {l : List α} {b : β},
    l.foldlM f b = .error e ↔ ∃ before a after c, l = before ++ a :: after ∧
      before.foldlM f b = .ok c ∧ f c a = .error e
  | [], b => by simp [pure, Except.pure]
  | a :: l, b => by
    rw [List.foldlM_cons, bind_eq_error]
    constructor
    · rintro (ha | ⟨b', hb, h⟩)
      · exact ⟨[], a, l, b, rfl, rfl, ha⟩
      · obtain ⟨before, x, after, c, rfl, hc, hx⟩ := foldlM_eq_error.1 h
        exact ⟨a :: before, x, after, c, rfl, bind_eq_ok.2 ⟨b', hb, hc⟩, hx⟩
    · rintro ⟨_ | ⟨a', before⟩, x, after, c, hl, hc, hx⟩
      · obtain ⟨rfl, rfl⟩ := List.cons.inj hl
        cases hc
        exact .inl hx
      · obtain ⟨rfl, rfl⟩ := List.cons.inj hl
        obtain ⟨b', hb, hc⟩ := bind_eq_ok.1 hc
        exact .inr ⟨b', hb, foldlM_eq_error.2 ⟨before, x, after, c, rfl, hc, hx⟩⟩

/-! ## Faults -/

/-- A fault that is there under a condition. -/
def flag (p : Prop) [Decidable p] (e : ε) : List ε := if p then [e] else []

@[simp] theorem flag_eq_nil {p : Prop} [Decidable p] {e : ε} : flag p e = [] ↔ ¬ p := by
  unfold flag
  split_ifs with h <;> simp [h]

theorem mem_flag {p : Prop} [Decidable p] {e e' : ε} : e' ∈ flag p e ↔ p ∧ e' = e := by
  unfold flag
  split_ifs with h <;> simp [h]

/-- Of the faults the first is reported; without any, the result is there. -/
def Reports (x : Except ε α) (faults : List ε) : Prop :=
  match x with
  | .ok _ => faults = []
  | .error e => faults.head? = some e

namespace Reports
variable {x : Except ε α} {faults more : List ε}

theorem error_iff (h : Reports x faults) {e : ε} : x = .error e ↔ faults.head? = some e := by
  cases x with
  | ok a => rw [show faults = [] from h]; simp
  | error e' => rw [show faults.head? = some e' from h]; simp

theorem ok_iff (h : Reports x faults) : (∃ a, x = .ok a) ↔ faults = [] := by
  cases x with
  | ok a => exact ⟨fun _ => h, fun _ => ⟨a, rfl⟩⟩
  | error e =>
    have h : faults.head? = some e := h
    constructor
    · rintro ⟨a, ha⟩
      cases ha
    · rintro rfl
      cases h

/-- What comes later adds its faults after those that come first. -/
theorem bind (h : Reports x faults) {f : α → Except ε β}
    (hf : ∀ a, x = .ok a → Reports (f a) more) : Reports (x >>= f) (faults ++ more) := by
  cases x with
  | ok a => rw [show faults = [] from h]; exact hf a rfl
  | error e =>
    show (faults ++ more).head? = some e
    rw [List.head?_append, show faults.head? = some e from h]
    rfl

theorem mapError {ε' : Type} {f : ε → ε'} (h : Reports x faults) :
    Reports (x.mapError f) (faults.map f) := by
  cases x with
  | ok a => rw [show faults = [] from h]; rfl
  | error e =>
    show (faults.map f).head? = some (f e)
    rw [List.head?_map, show faults.head? = some e from h]
    rfl

/-- A condition is checked before the rest. -/
theorem ite {p : Prop} [Decidable p] {y : Except ε α} {e : ε} (hy : p → y = .error e)
    (h : ¬ p → Reports x faults) : Reports (if p then y else x) (flag p e ++ faults) := by
  unfold flag
  split_ifs with hp
  · rw [hy hp]; rfl
  · exact h hp

end Reports

/-! ## Two results -/

/-- Both results are the same error, or both are there and related. -/
inductive Agree (R : α → β → Prop) : Except ε α → Except ε β → Prop
  | error (e : ε) : Agree R (.error e) (.error e)
  | ok {a : α} {b : β} (h : R a b) : Agree R (.ok a) (.ok b)

namespace Agree
variable {α' β' : Type} {R : α → α' → Prop} {S : β → β' → Prop}

theorem refl {R : α → α → Prop} (h : ∀ a, R a a) : ∀ x : Except ε α, Agree R x x
  | .error e => .error e
  | .ok a => .ok (h a)

theorem bind {x : Except ε α} {x' : Except ε α'} {f : α → Except ε β} {f' : α' → Except ε β'}
    (h : Agree R x x') (hf : ∀ {a a'}, R a a' → Agree S (f a) (f' a')) :
    Agree S (x >>= f) (x' >>= f') := by
  cases h with
  | error e => exact .error e
  | ok h => exact hf h

theorem map {x : Except ε α} {x' : Except ε α'} {f : α → β} {f' : α' → β'}
    (h : Agree R x x') (hf : ∀ {a a'}, R a a' → S (f a) (f' a')) :
    Agree S (x.map f) (x'.map f') := by
  cases h with
  | error e => exact .error e
  | ok h => exact .ok (hf h)

theorem mapM {f : α → Except ε β} {f' : α' → Except ε β'} {l : List α} {l' : List α'}
    (h : List.Forall₂ R l l') (hf : ∀ {a a'}, R a a' → Agree S (f a) (f' a')) :
    Agree (List.Forall₂ S) (l.mapM f) (l'.mapM f') := by
  induction h with
  | nil => exact .ok .nil
  | cons ha _ ih =>
    rw [List.mapM_cons, List.mapM_cons]
    exact (hf ha).bind fun hb => ih.bind fun hbs => .ok (.cons hb hbs)

end Agree

end TableService
