/-
  Cycles among the tables of a document.

  * `Document.Refers` are the relations between declared tables that order their creation; on a
    document with plans they are the dependencies of the plans (`refers_iff`).
  * `mem_blocked_iff`: the blocked tables are those from which a cycle can be reached.  A table that
    is emitted comes after all that it refers to, so it reaches no cycle
    (`not_reachesCycle_of_acc`); a blocked one refers to a blocked one, and so on until one comes
    back (`reachesCycle_of_next`).  `mem_emission_iff`: so the emitted tables are the others.
-/
import TableService.Proofs.Reachability
import TableService.Proofs.Schema.Emission
import TableService.Proofs.Schema.Plans

namespace TableService.Schema

/-! ## The graph of a document -/

/-- The table `a` of the document has a relation to the table `b` of it, which is not exempt. -/
def Document.Refers (ctx : Context) (doc : Document) (a b : String) : Prop :=
  b ∈ doc.names ∧ b ∉ ctx.exempt ∧
    ∃ t ∈ doc.tables, t.name = a ∧ ∃ r, Field.relation r ∈ t.fields ∧ r.target.table = b

/-- Each of the tables comes after all that it refers to. -/
def Document.Ordered (ctx : Context) (doc : Document) (order : List String) : Prop :=
  ∀ first a rest, order = first ++ a :: rest → ∀ b, doc.Refers ctx a b → b ∈ first

section
variable {ctx : Context} {doc : Document} {plans : List Plan} (hp : doc.plans ctx = .ok plans)
include hp

theorem Document.refers_iff {a b : String} :
    doc.Refers ctx a b ↔ ∃ p ∈ plans, p.name = a ∧ b ∈ p.dependencies := by
  have hall := (plans_eq_ok.1 hp).2
  constructor
  · rintro ⟨-, he, t, ht, rfl, r, hr, rfl⟩
    obtain ⟨p, hpm, hpt⟩ := forall₂_mem_left hall t ht
    exact ⟨p, hpm, (planTable_ok hpt).1, (mem_dependencies hpt).2 ⟨r, hr, rfl, he⟩⟩
  · rintro ⟨p, hpm, rfl, hb⟩
    obtain ⟨t, ht, hpt⟩ := forall₂_mem_right hall p hpm
    obtain ⟨r, hr, rfl, he⟩ := (mem_dependencies hpt).1 hb
    exact ⟨(planTable_known hpt hr).resolve_left he, he, t, ht, (planTable_ok hpt).1.symm, r, hr,
      rfl⟩

theorem Document.nodup_names : doc.names.Nodup := (plans_eq_ok.1 hp).1

variable {order blocked : List Plan} (hem : Emission [] plans order blocked)
include hem

/-- Every table of the document is emitted or blocked. -/
theorem names_emission : (order.map Plan.name ++ blocked.map Plan.name).Perm doc.names := by
  rw [← List.map_append, ← Document.names_plans hp]
  exact hem.perm.map _

theorem nodup_emission : (order.map Plan.name ++ blocked.map Plan.name).Nodup :=
  (names_emission hp hem).nodup_iff.2 (Document.nodup_names hp)

/-- **An emitted table comes after all tables that it refers to.** -/
theorem ordered_emission : doc.Ordered ctx (order.map Plan.name) := by
  intro first a rest ho b hb
  obtain ⟨p, hpm, hpa, hb⟩ := (Document.refers_iff hp).1 hb
  obtain ⟨firstPlans, others, rfl, rfl, h⟩ := List.map_eq_append_iff.1 ho
  obtain ⟨q, later, rfl, hqa, rfl⟩ := List.map_eq_cons_iff.1 h
  -- names are distinct, so the plan of the table is the one that is emitted here
  have hq : q ∈ plans := hem.perm.subset (by simp)
  have hnd : (plans.map Plan.name).Nodup := by
    rw [Document.names_plans hp]; exact Document.nodup_names hp
  obtain rfl : p = q := List.inj_on_of_nodup_map hnd hpm hq (hpa.trans hqa.symm)
  simpa using hem.ready rfl b hb

/-- A blocked table refers to a blocked table. -/
theorem blocked_refers {a : String} (ha : a ∈ blocked.map Plan.name) :
    ∃ b ∈ blocked.map Plan.name, doc.Refers ctx a b := by
  obtain ⟨p, hpb, rfl⟩ := List.mem_map.1 ha
  obtain ⟨b, hb, hout⟩ := hem.not_ready p hpb
  have hr : doc.Refers ctx p.name b :=
    (Document.refers_iff hp).2 ⟨p, hem.perm.subset (by simp [hpb]), rfl, hb⟩
  have hmem := (names_emission hp hem).symm.subset hr.1
  exact ⟨b, (List.mem_append.1 hmem).resolve_left (by simpa using hout), hr⟩

/-- **The blocked tables are those from which a cycle can be reached.** -/
theorem mem_blocked_iff {a : String} :
    a ∈ blocked.map Plan.name ↔ a ∈ doc.names ∧ ReachesCycle (doc.Refers ctx) a := by
  constructor
  · intro ha
    refine ⟨(names_emission hp hem).subset (List.mem_append_right _ ha), ?_⟩
    exact reachesCycle_of_next (List.finite_toSet _) (fun b hb => blocked_refers hp hem hb) a ha
  · rintro ⟨ha, hc⟩
    refine (List.mem_append.1 ((names_emission hp hem).symm.subset ha)).resolve_left fun ho => ?_
    exact not_reachesCycle_of_acc (acc_of_ordered (ordered_emission hp hem) a ho) hc

/-- **The emitted tables are those from which no cycle can be reached.** -/
theorem mem_emission_iff {a : String} :
    a ∈ order.map Plan.name ↔ a ∈ doc.names ∧ ¬ ReachesCycle (doc.Refers ctx) a := by
  have hsplit := (names_emission hp hem).mem_iff (a := a)
  have hdisjoint := List.disjoint_of_nodup_append (nodup_emission hp hem)
  constructor
  · intro ha
    have hn : a ∈ doc.names := hsplit.1 (List.mem_append_left _ ha)
    exact ⟨hn, fun hc => hdisjoint ha ((mem_blocked_iff hp hem).2 ⟨hn, hc⟩)⟩
  · rintro ⟨hn, hc⟩
    exact (List.mem_append.1 (hsplit.2 hn)).resolve_right fun hb =>
      hc ((mem_blocked_iff hp hem).1 hb).2

/-- Nothing is blocked exactly if no table leads back to itself. -/
theorem blocked_eq_nil_iff : blocked = [] ↔ ∀ a, ¬ Relation.TransGen (doc.Refers ctx) a a := by
  rw [← List.map_eq_nil_iff (f := Plan.name), List.eq_nil_iff_forall_not_mem]
  constructor
  · intro h a ha
    obtain ⟨b, -, hba⟩ := Relation.TransGen.tail'_iff.1 ha
    exact h a ((mem_blocked_iff hp hem).2 ⟨hba.1, a, .refl, ha⟩)
  · intro h a ha
    obtain ⟨-, c, -, hc⟩ := (mem_blocked_iff hp hem).1 ha
    exact h c hc

end

/-- The items of the shop come before the orders. -/
theorem shop_emission : Emission [] [shopOrders, shopItems] [shopItems, shopOrders] [] :=
  @Emission.emit [] [shopOrders] shopItems [] _ _ (by decide) (by decide)
    (@Emission.emit ["items"] [] shopOrders [] _ _ (by decide) (by decide) (.done (by decide)))

end TableService.Schema
