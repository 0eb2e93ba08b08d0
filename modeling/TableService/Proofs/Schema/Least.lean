/-
  Which of the orders that respect the references is the one of creation.

  * An order is `Arranged` if it has every table of the document after those that it refers to.
    `Document.Precedes` compares orders by the places of their tables in the document: the first
    difference decides.
  * `Emission.least`: an emission that blocks nothing takes the first plan that is ready, so another
    order either takes it as well or takes one that comes later in the document.
  * `creation_order_least`: so the order of creation precedes all others.
-/
import TableService.Proofs.Schema.Order

namespace TableService.Schema

/-- All tables of the document, each after those that it refers to. -/
structure Document.Arranged (ctx : Context) (doc : Document) (order : List String) : Prop where
  complete : order.Perm doc.names
  ordered : doc.Ordered ctx order

/-- At the first place where they differ, the first order has the table that the document declares
earlier. -/
def Document.Precedes (doc : Document) : List String → List String → Prop :=
  List.Lex fun a b => doc.names.idxOf a < doc.names.idxOf b

/-- Distinct elements of a list are at ascending places. -/
theorem pairwise_idxOf {names : List String} (h : names.Nodup) :
    names.Pairwise fun a b => names.idxOf a < names.idxOf b := by
  refine List.pairwise_iff_getElem.2 fun i j hi hj hij => ?_
  rwa [h.idxOf_getElem i hi, h.idxOf_getElem j hj]

section
variable {earlier : String → String → Prop} {created : List String} {pending order : List Plan}

/-- **An emission that blocks nothing is the least order**: any other order of the pending tables in
which each comes after its dependencies has, where it first differs, a table that is pending after the
one that is emitted. -/
theorem Emission.least (h : Emission created pending order [])
    (hplaces : (pending.map Plan.name).Pairwise earlier) {other : List String}
    (hperm : other.Perm (pending.map Plan.name))
    (hready : ∀ first a rest, other = first ++ a :: rest →
      ∀ p ∈ pending, p.name = a → ∀ b ∈ p.dependencies, b ∈ created ++ first) :
    other = order.map Plan.name ∨ List.Lex earlier (order.map Plan.name) other := by
  generalize hblocked : ([] : List Plan) = blocked at h
  induction h generalizing other with
  | done =>
    subst hblocked
    exact .inl (List.perm_nil.1 hperm)
  | @emit created before p after order blocked hbefore _ _ ih =>
    have hsub : (before ++ after).Sublist (before ++ p :: after) :=
      (List.sublist_cons_self p after).append_left before
    cases other with
    | nil => simp at hperm
    | cons q other =>
      by_cases hq : q = p.name
      · subst hq
        have hrest : other.Perm ((before ++ after).map Plan.name) := by
          refine List.Perm.cons_inv (hperm.trans ?_)
          rw [← List.map_cons]
          exact List.perm_middle.map _
        have hready' : ∀ first a rest, other = first ++ a :: rest → ∀ x ∈ before ++ after,
            x.name = a → ∀ b ∈ x.dependencies, b ∈ (created ++ [p.name]) ++ first := by
          intro first a rest ho x hx ha b hb
          rw [List.append_assoc, List.singleton_append]
          exact hready (p.name :: first) a rest (by rw [ho]; rfl) x (hsub.subset hx) ha b hb
        refine (ih (hplaces.sublist (hsub.map _)) hrest hready' hblocked).imp (fun h => ?_) .cons
        rw [h, List.map_cons]
      · -- the other order starts with a table that is ready, so it is pending after the first one
        obtain ⟨x, hx, hxq⟩ := List.mem_map.1 (hperm.subset List.mem_cons_self)
        have hxready : x.isReady created = true := by
          simpa [Plan.isReady] using hready [] q other rfl x hx hxq
        have hafter : x ∈ after := by
          rcases List.mem_append.1 hx with hx | hx
          · exact absurd hxready (by rw [hbefore x hx]; exact Bool.false_ne_true)
          · rcases List.mem_cons.1 hx with rfl | hx
            · exact absurd hxq.symm hq
            · exact hx
        rw [List.map_append, List.map_cons] at hplaces
        have hlt := List.rel_of_pairwise_cons (List.pairwise_append.1 hplaces).2.1
          (List.mem_map_of_mem hafter)
        exact .inr (.rel (hxq ▸ hlt))

end

section
variable {σ : Type} {db : Database σ} {ctx : Context} {doc : Document} {plans : List Plan}

/-- **The order of creation is the least that respects the references.**  If no table refers to
itself, directly or not, then the creation succeeds, and of all orders that have every table after
those that it refers to, its own comes first when they are compared by the places of the tables in the
document. -/
theorem creation_order_least (hdb : db.AlwaysCreates) (hp : doc.plans ctx = .ok plans)
    (hc : ∀ a, ¬ Relation.TransGen (doc.Refers ctx) a a) (r : Registry) (w : Logged σ) :
    ∃ order, ((compile db ctx doc r).2.outcome w).1 = .ok order ∧ doc.Arranged ctx order ∧
      ∀ other, doc.Arranged ctx other → other ≠ order → doc.Precedes order other := by
  obtain ⟨ps, blocked, hem⟩ := Emission.exists [] plans
  obtain rfl := (blocked_eq_nil_iff hp hem).2 hc
  have hnames := Document.names_plans hp
  refine ⟨ps.map Plan.name, ?_, ⟨?_, ordered_emission hp hem⟩, fun other hother hne => ?_⟩
  · rw [compile_outcome hp hdb hem, conclude_nil]
  · simpa using names_emission hp hem
  · have hplaces : (plans.map Plan.name).Pairwise
        fun a b => doc.names.idxOf a < doc.names.idxOf b := by
      rw [hnames]
      exact pairwise_idxOf (Document.nodup_names hp)
    refine (hem.least hplaces (by rw [hnames]; exact hother.complete) ?_).resolve_left hne
    intro first a rest ho p hpm hpa b hb
    exact hother.ordered first a rest ho b ((Document.refers_iff hp).2 ⟨p, hpm, hpa, hb⟩)

end

/-! ## A blog -/

/-- Posts by writers, who are declared after them, and tags. -/
def blog : Document := ⟨[
  ⟨"posts", [.relation ⟨"writer", "int", true, ⟨"writers", "id", false, none, none⟩⟩]⟩,
  ⟨"writers", []⟩, ⟨"tags", []⟩]⟩

/-- The plan of the posts. -/
def blogPosts : Plan := ⟨"posts", [
  ⟨⟨"writer", by decide, by decide, by decide⟩, "int", true, false,
    some ⟨⟨"writers", by decide, by decide, by decide⟩, .id, none, none⟩⟩], ["writers"]⟩

theorem blog_plans :
    blog.plans ⟨[], none⟩ = .ok [blogPosts, ⟨"writers", [], []⟩, ⟨"tags", [], []⟩] := by
  decide +kernel

theorem blog_emission : Emission [] [blogPosts, ⟨"writers", [], []⟩, ⟨"tags", [], []⟩]
    [⟨"writers", [], []⟩, blogPosts, ⟨"tags", [], []⟩] [] :=
  @Emission.emit [] [blogPosts] ⟨"writers", [], []⟩ [⟨"tags", [], []⟩] _ _ (by decide) (by decide)
    (@Emission.emit ["writers"] [] blogPosts _ _ _ (by decide) (by decide)
      (@Emission.emit ["writers", "posts"] [] ⟨"tags", [], []⟩ [] _ _ (by decide) (by decide)
        (.done (by decide))))

/-- The tags of the blog may come first. -/
theorem blog_arranged : blog.Arranged ⟨[], none⟩ ["tags", "writers", "posts"] := by
  refine ⟨by decide, fun first a rest ho b hb => ?_⟩
  obtain ⟨p, hpm, rfl, hdep⟩ := (Document.refers_iff blog_plans).1 hb
  rcases List.mem_cons.1 hpm with rfl | hpm
  · obtain rfl := List.mem_singleton.1 hdep
    -- the posts are the third of the tables
    rcases List.cons_eq_append_iff.1 ho with ⟨rfl, h⟩ | ⟨tail, rfl, h⟩
    · exact absurd (List.cons.inj h).1 (by decide)
    · rcases List.cons_eq_append_iff.1 h with ⟨rfl, h⟩ | ⟨tail, rfl, -⟩
      · exact absurd (List.cons.inj h).1 (by decide)
      · exact .tail _ (.head _)
  · rcases List.mem_cons.1 hpm with rfl | hpm
    · cases hdep
    · obtain rfl := List.mem_singleton.1 hpm
      cases hdep

/-- The posts of the blog are created as soon as the writers are, before the tags, although the tags
could be created first. -/
theorem blog_order_least : (Database.listing .sqlite []).AlwaysCreates ∧
    blog.plans ⟨[], none⟩ = .ok [blogPosts, ⟨"writers", [], []⟩, ⟨"tags", [], []⟩] ∧
    (∀ a, ¬ Relation.TransGen (blog.Refers ⟨[], none⟩) a a) ∧
    blog.Arranged ⟨[], none⟩ ["tags", "writers", "posts"] ∧
    ((compile (Database.listing .sqlite []) ⟨[], none⟩ blog .empty).2.outcome ⟨[], []⟩).1 =
      .ok ["writers", "posts", "tags"] ∧
    blog.Precedes ["writers", "posts", "tags"] ["tags", "writers", "posts"] := by
  have hacyclic := (blocked_eq_nil_iff blog_plans blog_emission).1 rfl
  obtain ⟨order, hrun, -, hleast⟩ := creation_order_least (listing_alwaysCreates .sqlite) blog_plans
    hacyclic .empty ⟨[], []⟩
  have horder : ((compile (Database.listing .sqlite []) ⟨[], none⟩ blog .empty).2.outcome
      ⟨[], []⟩).1 = .ok ["writers", "posts", "tags"] := by
    rw [compile_eq blog_plans, blog_emission.createAll_eq]
    rfl
  obtain rfl : order = _ := Except.ok.inj (hrun.symm.trans horder)
  exact ⟨listing_alwaysCreates .sqlite, blog_plans, hacyclic, blog_arranged, hrun,
    hleast _ blog_arranged (by decide)⟩

end TableService.Schema
