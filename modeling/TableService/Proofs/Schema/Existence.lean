/-
  When a table is created, the tables that it refers to exist.

  * `keeps_start`: a start keeps the record of what its calls have found and created.
  * `start_events`: it first asks for the exempt tables; only if all of them exist does it create
    tables, in the order of an emission.
  * `references_exist`: so at every creation the targets of the relations exist, an exempt one since
    it was asked for and any other one by an earlier creation.
-/
import TableService.Proofs.Catalogue
import TableService.Proofs.Schema.Cycles
import TableService.Proofs.Schema.Start

namespace TableService

/-- The table was asked for, and existed. -/
def Event.Finds {σ : Type} (tables : σ → Set String) (x : Event σ) (t : String) : Prop :=
  x.call = .tableExists t ∧ x.succeeded = true ∧ t ∈ tables x.before

namespace Schema

variable {σ : Type} {db : Database σ} {tables : σ → Set String}

section
variable (hdb : db.Catalogue tables)
include hdb

/-- **A start keeps the record of its calls.** -/
theorem keeps_start (ctx : Context) (doc : Document) :
    Keeps (Recorded tables) (start db.watched ctx doc) :=
  composes_start db (composes_keeps _) (keeps_tableExists hdb) (keeps_createTable hdb) ctx doc

/-! ## The events of a start -/

/-- Asking for tables adds only such calls; if all exist, then each was found. -/
theorem requireTables_events : ∀ (ts : List String) (w : Logged (Watched σ)), ∃ es,
    ((requireTables db.watched ts).outcome w).2.state.events = w.state.events ++ es ∧
      (∀ x ∈ es, ∃ t, x.call = .tableExists t) ∧
      (((requireTables db.watched ts).outcome w).1 = .ok () →
        ∀ t ∈ ts, ∃ x ∈ es, x.Finds tables t)
  | [], w => ⟨[], by simp [requireTables]⟩
  | t :: ts, w => by
    rw [requireTables_cons]
    rcases hr : (db.tableExists t).outcome w.unwatched with ⟨r, w'⟩
    have hw : (db.watched.tableExists t).outcome w = _ := outcome_watching hr
    cases r with
    | error e =>
      rw [Action.outcome_bind_error hw]
      exact ⟨[⟨.tableExists t, w.state.state, false⟩], rfl, by simp, fun h => by cases h⟩
    | ok b =>
      rw [Action.outcome_bind_ok hw]
      cases b with
      | false => exact ⟨[⟨.tableExists t, w.state.state, true⟩], rfl, by simp, fun h => by cases h⟩
      | true =>
        obtain ⟨es, he, hcalls, hfinds⟩ := requireTables_events ts _
        refine ⟨⟨.tableExists t, w.state.state, true⟩ :: es, ?_, ?_, fun h u hu => ?_⟩
        · rw [if_pos rfl, he, List.append_assoc]
          rfl
        · simpa using hcalls
        · rcases List.mem_cons.1 hu with rfl | hu
          · exact ⟨_, List.mem_cons_self, rfl, rfl, (hdb.exists_iff hr).1 rfl⟩
          · obtain ⟨x, hx, hf⟩ := hfinds h u hu
            exact ⟨x, List.mem_cons_of_mem _ hx, hf⟩

end

/-- The events of a compilation are those of creating the emitted plans. -/
theorem compile_events (db : Database σ) {ctx : Context} {doc : Document}
    {plans order blocked : List Plan} (hp : doc.plans ctx = .ok plans)
    (hem : Emission [] plans order blocked) (r : Registry) (w : Logged (Watched σ)) : ∃ es,
    ((compile db.watched ctx doc r).2.outcome w).2.state.events = w.state.events ++ es ∧
      Made db.dialect order es := by
  obtain ⟨es, he, hm, -⟩ := made_createEach db order w
  refine ⟨es, ?_, hm⟩
  rw [compile_eq hp, hem.createAll_eq, ← he, Action.outcome_bind]
  rcases (createEach db.watched order).outcome w with ⟨e | x, w'⟩
  · rfl
  · rw [conclude_state]

/-- **The events of a start**: it asks for tables, and creates some only if all the exempt tables
were found. -/
theorem start_events (hdb : db.Catalogue tables) (ctx : Context) (doc : Document) (w : Logged σ) :
    ∃ checks es, eventsOf (start db.watched ctx doc) w = checks ++ es ∧
      (∀ x ∈ checks, ∃ t, x.call = .tableExists t) ∧
      (es ≠ [] → (∀ t ∈ ctx.exempt, ∃ x ∈ checks, x.Finds tables t) ∧
        ∃ plans order blocked, doc.plans ctx = .ok plans ∧ Emission [] plans order blocked ∧
          Made db.dialect order es) := by
  obtain ⟨checks, hevents, hcalls, hfinds⟩ :=
    requireTables_events hdb (ascending ctx.exempt) w.watched
  rw [Logged.watched_events, List.nil_append] at hevents
  rw [eventsOf, start_eq]
  rcases hq : (requireTables db.watched (ascending ctx.exempt)).outcome w.watched with ⟨r, w'⟩
  rw [hq] at hevents hfinds
  cases r with
  | error e =>
    rw [Action.outcome_bind_error hq]
    exact ⟨checks, [], by simpa using hevents, hcalls, fun h => absurd rfl h⟩
  | ok =>
    rw [Action.outcome_bind_ok hq]
    cases hp : doc.plans ctx with
    | error e =>
      rw [compile_error hp]
      exact ⟨checks, [], by simpa using hevents, hcalls, fun h => absurd rfl h⟩
    | ok plans =>
      obtain ⟨order, blocked, hem⟩ := Emission.exists [] plans
      obtain ⟨es, he, hm⟩ := compile_events db hp hem .empty w'
      refine ⟨checks, es, ?_, hcalls, fun _ => ⟨fun t ht => ?_, plans, order, blocked, rfl, hem,
        hm⟩⟩
      · rw [← hevents, ← he, Action.outcome_bind]
        rcases (compile db.watched ctx doc .empty).2.outcome w' with ⟨e | created, w''⟩ <;> rfl
      · exact hfinds rfl t (mem_ascending.2 ht)

/-! ## Creation -/

/-- **When a table is created, the tables that it refers to exist.**  The call is that for the plan
of a table of the document, whose columns refer to the targets of its relations, in order.  Each of
these exists at that moment: an exempt one was found before, any other one created before. -/
theorem references_exist (hdb : db.Catalogue tables) {ctx : Context} {doc : Document} {w : Logged σ}
    {earlier later : List (Event σ)} {e : Event σ} {name : String} {definitions : List String}
    (hrun : eventsOf (start db.watched ctx doc) w = earlier ++ e :: later)
    (hcall : e.call = .createTable name definitions) :
    ∃ t ∈ doc.tables, t.name = name ∧ ∃ p, planTable ctx doc.names t = .ok p ∧
      definitions = p.definitions db.dialect ∧
      targets p.columns = t.fields.filterMap Field.target? ∧
      ∀ r, .relation r ∈ t.fields → r.target.table ∈ tables e.before ∧
        ((r.target.table ∈ ctx.exempt ∧ ∃ x ∈ earlier, x.Finds tables r.target.table) ∨
          ∃ x ∈ earlier, x.Creates r.target.table) := by
  obtain ⟨checks, es, hevents, hcalls, hes⟩ := start_events hdb ctx doc w
  have hrec := (keeps_start hdb ctx doc w.watched (recorded_nil _)).1
  rw [show (((start db.watched ctx doc).outcome w.watched).2.state.events) = _ from hrun] at hrec
  have hkept : ∀ x ∈ earlier, x.Kept tables e.before := fun x hx =>
    (List.pairwise_append.1 hrec).2.2 x hx e List.mem_cons_self
  -- a creation is not a question, so it comes after all of these
  obtain ⟨made, rfl, rfl⟩ : ∃ made, earlier = checks ++ made ∧ es = made ++ e :: later := by
    rcases List.append_eq_append_iff.1 (hevents.symm.trans hrun) with h | ⟨_ | ⟨x, asked⟩, hc, he⟩
    · exact h
    · exact ⟨[], by simpa using hc.symm, by simpa using he.symm⟩
    · obtain ⟨rfl, -⟩ := List.cons.inj he
      obtain ⟨t, ht⟩ := hcalls e (by simp [hc])
      cases ht.symm.trans hcall
  obtain ⟨hfound, plans, order, blocked, hp, hem, hm⟩ := hes (by simp)
  obtain ⟨first, p, rest, rfl, hpe, hfirst⟩ := hm.split rfl
  obtain ⟨t, ht, hpt⟩ := forall₂_mem_right (Document.plans_eq_ok.1 hp).2 p
    (hem.perm.subset (by simp))
  rw [Plan.call, hcall] at hpe
  cases hpe
  refine ⟨t, ht, (planTable_ok hpt).1.symm, p, hpt, rfl, planTable_targets hpt, fun r hr => ?_⟩
  by_cases hx : r.target.table ∈ ctx.exempt
  · obtain ⟨x, hx', hf⟩ := hfound _ hx
    have hx' : x ∈ checks ++ made := List.mem_append_left _ hx'
    exact ⟨(hkept x hx').1 hf.2.2, .inl ⟨hx, x, hx', hf⟩⟩
  · have hd := hem.ready rfl _ ((mem_dependencies hpt).2 ⟨r, hr, rfl, hx⟩)
    obtain ⟨q, hq, hn⟩ := List.mem_map.1 hd
    obtain ⟨x, hx', hc⟩ := hfirst q hq
    have hx' : x ∈ checks ++ made := List.mem_append_right _ hx'
    rw [hn] at hc
    exact ⟨(hkept x hx').2 _ hc, .inr ⟨x, hx', hc⟩⟩

/-- The users and the items of the shop exist when the orders are created, though that fails. -/
theorem shop_references_exist : ∃ earlier e later,
    eventsOf (start (Database.listing .sqlite ["orders"]).watched shopContext shop)
        ⟨["users"], []⟩ = earlier ++ e :: later ∧
      e.call = .createTable "orders" (shopOrders.definitions .sqlite) ∧ e.succeeded = false ∧
      "users" ∈ e.before ∧ "items" ∈ e.before := by
  have hrun : eventsOf (start (Database.listing .sqlite ["orders"]).watched shopContext shop)
      ⟨["users"], []⟩ = [⟨.tableExists "users", ["users"], true⟩,
        ⟨.createTable "items" (shopItems.definitions .sqlite), ["users"], true⟩] ++
          ⟨.createTable "orders" (shopOrders.definitions .sqlite), ["items", "users"], false⟩ ::
            [] := by
    rw [eventsOf, start_eq, compile_eq shop_plans, shop_emission.createAll_eq]
    rfl
  obtain ⟨t, ht, hn, -, -, -, -, hr⟩ :=
    references_exist (listing_catalogue .sqlite ["orders"]) hrun rfl
  simp only [shop, List.mem_cons, List.not_mem_nil, or_false] at ht
  rcases ht with rfl | rfl
  · exact ⟨_, _, _, hrun, rfl, rfl, (hr _ List.mem_cons_self).1,
      (hr _ (List.mem_cons_of_mem _ List.mem_cons_self)).1⟩
  · exact absurd hn (by decide)

end Schema

end TableService
