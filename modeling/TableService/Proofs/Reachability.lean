/-
  Cycles of a relation.

  * `ReachesCycle R a`: from `a` one comes to an element that leads back to itself.
  * Where each element comes after all that it leads to, none reaches a cycle (`acc_of_ordered`,
    `not_reachesCycle_of_acc`); where each element of a finite set leads to another one of it, all
    of them do (`reachesCycle_of_next`).
-/
import Mathlib.Logic.Relation
import Mathlib.Order.Preorder.Finite

namespace TableService

open Relation

variable {α : Type} {R : α → α → Prop}

/-- From `a` one comes to an element that leads back to itself. -/
def ReachesCycle (R : α → α → Prop) (a : α) : Prop := ∃ c, ReflTransGen R a c ∧ TransGen R c c

theorem not_reachesCycle_of_acc {a : α} (h : Acc (fun b a => R a b) a) : ¬ ReachesCycle R a := by
  induction h with
  | intro a _ ih =>
    rintro ⟨c, hac, hc⟩
    rcases hac.cases_head with rfl | ⟨b, hab, hbc⟩
    · obtain ⟨b, hab, hba⟩ := TransGen.head'_iff.1 hc
      exact ih b hab ⟨a, hba, hc⟩
    · exact ih b hab ⟨c, hbc, hc⟩

/-- In a list where each element comes after all that it leads to, no element reaches a cycle. -/
theorem acc_of_ordered {l : List α}
    (h : ∀ first a rest, l = first ++ a :: rest → ∀ b, R a b → b ∈ first) :
    ∀ a ∈ l, Acc (fun b a => R a b) a := by
  induction l using List.reverseRecOn with
  | nil => simp
  | append_singleton l x ih =>
    have hl : ∀ a ∈ l, Acc (fun b a => R a b) a :=
      ih fun first a rest hl => h first a (rest ++ [x]) (by rw [hl]; simp)
    intro a ha
    rcases List.mem_append.1 ha with ha | ha
    · exact hl a ha
    · obtain rfl := List.mem_singleton.1 ha
      exact .intro a fun b hb => hl b (h l a [] rfl b hb)

/-- Where every element of a finite set leads to another one of it, all of them reach a cycle. -/
theorem reachesCycle_of_next {s : Set α} (hs : s.Finite) (next : ∀ a ∈ s, ∃ b ∈ s, R a b) :
    ∀ a ∈ s, ReachesCycle R a := by
  intro a ha
  choose! f hf hR using next
  have hmem : ∀ n, f^[n] a ∈ s := by
    intro n
    induction n with
    | zero => exact ha
    | succ n ih => rw [Function.iterate_succ_apply']; exact hf _ ih
  have hstep : ∀ n, R (f^[n] a) (f^[n + 1] a) := by
    intro n
    rw [Function.iterate_succ_apply']
    exact hR _ (hmem n)
  have hreach : ∀ i n, ReflTransGen R (f^[i] a) (f^[i + n] a) := by
    intro i n
    induction n with
    | zero => exact .refl
    | succ n ih => exact ih.tail (hstep _)
  obtain ⟨i, j, hij, h⟩ := hs.exists_lt_map_eq_of_forall_mem hmem
  refine ⟨f^[i] a, by simpa using hreach 0 i, ?_⟩
  have hj := hreach (i + 1) (j - (i + 1))
  rw [Nat.add_sub_cancel' hij, ← h] at hj
  exact TransGen.head' (hstep i) hj

end TableService
