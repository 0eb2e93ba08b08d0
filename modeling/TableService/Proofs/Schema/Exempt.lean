/-
  What becomes of the exempt tables.

  * `requested_declared`: only declared tables are ever to be created, whatever comes of it.
  * `requested_iff`: where creating a table never fails, all declared tables but the blocked ones
    are created, exempt or not.
  * `exempt_requested`: so an exempt table is left alone as long as the document does not declare
    it; one that is declared as well is created like any other (`declared_exempt_created`).
-/
import TableService.Proofs.Schema.Existence
import TableService.Proofs.Schema.Order

namespace TableService.Schema

variable {σ : Type} {db : Database σ}

theorem requested_cons {d : Dialect} {p : Plan} {e : Event σ} (he : e.call = p.call d)
    (es : List (Event σ)) : requested (e :: es) = p.name :: requested es := by
  rw [requested, List.filterMap_cons, he]
  rfl

theorem requested_of_calls {d : Dialect} : ∀ {es : List (Event σ)} {ps : List Plan},
    es.map Event.call = ps.map (·.call d) → requested es = ps.map Plan.name
  | [], [], _ => rfl
  | e :: es, p :: ps, h => by
    obtain ⟨he, hes⟩ := List.cons.inj h
    rw [requested_cons he, requested_of_calls hes, List.map_cons]

/-- Of plans that are created one after the other, the first ones are to be created. -/
theorem Made.requested {d : Dialect} {ps : List Plan} {es : List (Event σ)} (h : Made d ps es) :
    requested es <+: ps.map Plan.name := by
  induction h with
  | nil => exact List.prefix_rfl
  | failed he =>
    rw [requested_cons he, List.map_cons]
    exact List.cons_prefix_cons.2 ⟨rfl, List.nil_prefix⟩
  | cons he _ _ ih =>
    rw [requested_cons he, List.map_cons]
    exact List.cons_prefix_cons.2 ⟨rfl, ih⟩

/-- **Only declared tables are to be created**, on any database. -/
theorem requested_declared (db : Database σ) (ctx : Context) (doc : Document) (r : Registry)
    (w : Logged σ) :
    requested (eventsOf (compile db.watched ctx doc r).2 w) ⊆ doc.names := by
  cases hp : doc.plans ctx with
  | error e =>
    rw [compile_error hp]
    exact List.nil_subset _
  | ok plans =>
    obtain ⟨order, blocked, hem⟩ := Emission.exists [] plans
    obtain ⟨es, he, hm⟩ := compile_events db hp hem r w.watched
    rw [eventsOf, he, Logged.watched_events, List.nil_append]
    intro t ht
    exact (names_emission hp hem).subset (List.mem_append_left _ (hm.requested.subset ht))

/-- **The tables that are created** are the declared ones from which no cycle can be reached, where
creating a table never fails. -/
theorem requested_iff (hdb : db.AlwaysCreates) {ctx : Context} {doc : Document} {plans : List Plan}
    (hp : doc.plans ctx = .ok plans) (r : Registry) (w : Logged σ) {t : String} :
    t ∈ requested (eventsOf (compile db.watched ctx doc r).2 w) ↔
      t ∈ doc.names ∧ ¬ ReachesCycle (doc.Refers ctx) t := by
  obtain ⟨order, blocked, hem⟩ := Emission.exists [] plans
  rw [requested_of_calls (compile_calls hp hdb hem r w)]
  exact mem_emission_iff hp hem

/-- **An exempt table is left alone unless the document declares it.**  Then it is created like any
other: exactly if no cycle can be reached from it, where creating a table never fails. -/
theorem exempt_requested (db : Database σ) (ctx : Context) (doc : Document) (r : Registry)
    (w : Logged σ) :
    (∀ t ∈ ctx.exempt, t ∉ doc.names →
      t ∉ requested (eventsOf (compile db.watched ctx doc r).2 w)) ∧
    ∀ plans, db.AlwaysCreates → doc.plans ctx = .ok plans → ∀ t ∈ ctx.exempt,
      (t ∈ requested (eventsOf (compile db.watched ctx doc r).2 w) ↔
        t ∈ doc.names ∧ ¬ ReachesCycle (doc.Refers ctx) t) :=
  ⟨fun _ _ hn ht => hn (requested_declared db ctx doc r w ht),
    fun _ hdb hp _ _ => requested_iff hdb hp r w⟩

/-- Users, of whom there may be a table already. -/
def staff : Document := ⟨[⟨"users", []⟩]⟩

/-- The users of the staff are created although they are exempt, those of the shop are not. -/
theorem staff_requested : "users" ∈ shopContext.exempt ∧
    "users" ∉ requested (eventsOf (compile (Database.listing .sqlite ["items"]).watched shopContext
      shop .empty).2 ⟨["users"], []⟩) ∧
    "users" ∈ requested (eventsOf (compile (Database.listing .mysql []).watched shopContext
      staff .empty).2 ⟨["users"], []⟩) := by
  have hp : staff.plans shopContext = .ok [⟨"users", [], []⟩] := by decide +kernel
  have hacyclic : ¬ ReachesCycle (staff.Refers shopContext) "users" := by
    rintro ⟨c, -, hc⟩
    obtain ⟨b, hb, -⟩ := Relation.TransGen.head'_iff.1 hc
    simp [Document.Refers, staff] at hb
  exact ⟨by decide, (exempt_requested _ _ _ _ _).1 "users" (by decide) (by decide),
    ((exempt_requested _ _ _ _ _).2 _ (listing_alwaysCreates .mysql) hp "users" (by decide)).2
      ⟨by decide, hacyclic⟩⟩

/-- An exempt table that the document declares is created. -/
theorem declared_exempt_created : "users" ∈ shopContext.exempt ∧
    eventsOf (compile (Database.listing .sqlite []).watched shopContext staff .empty).2 ⟨[], []⟩ =
      [⟨.createTable "users" [], [], true⟩] := by
  have hp : staff.plans shopContext = .ok [⟨"users", [], []⟩] := by decide +kernel
  have hem : Emission [] [⟨"users", [], []⟩] [⟨"users", [], []⟩] [] :=
    @Emission.emit [] [] ⟨"users", [], []⟩ [] _ _ (by decide) (by decide) (.done (by decide))
  refine ⟨by decide, ?_⟩
  rw [eventsOf, compile_eq hp, hem.createAll_eq]
  rfl

end TableService.Schema
