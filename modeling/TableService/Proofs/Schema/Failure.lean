/-
  Where a start stops when something fails.

  * `Database.Answers` is relied on of a database: that it can tell whether a table exists.
  * `requireTables_outcome`: asking for tables ends at the first one that does not exist.
  * `compile_creating`: a compilation is the creation of the emitted plans and its end.
  * `start_stops`: so a start without all exempt tables creates nothing, a document without plans
    leaves all as it is, and a creation that fails is the last one.
-/
import TableService.Proofs.Schema.Existence
import TableService.Proofs.Schema.Order

namespace TableService

variable {σ τ : Type}

/-- The database, whose states have these tables, can tell whether a table exists, and its tables
stay when it is asked. -/
def Database.Answers (db : Database σ) (tables : σ → Set String) : Prop :=
  ∀ t w, ∃ b w', (db.tableExists t).outcome w = (.ok b, w') ∧ (b = true ↔ t ∈ tables w.state) ∧
    tables w'.state = tables w.state

theorem Database.Answers.watched {db : Database σ} {tables : σ → Set String}
    (h : db.Answers tables) : db.watched.Answers fun s => tables s.state := by
  intro t w
  obtain ⟨b, w', hr, hb, hw⟩ := h t w.unwatched
  exact ⟨b, _, outcome_watching hr, hb, hw⟩

theorem listing_answers (d : Dialect) (refused : List String) :
    (Database.listing d refused).Answers fun s => {t | t ∈ s} :=
  fun t w => ⟨w.state.contains t, w, rfl, by simp, rfl⟩

namespace Schema

open Text (utf8)

/-! ## Asking for tables -/

/-- **Asking for tables** finds all of them, or ends at the first one that does not exist. -/
theorem requireTables_outcome {db : Database σ} {tables : σ → Set String}
    (hdb : db.Answers tables) : ∀ (ts : List String) (w : Logged σ), ∃ r w',
      (requireTables db ts).outcome w = (r, w') ∧ tables w'.state = tables w.state ∧
      ((r = .ok () ∧ ∀ t ∈ ts, t ∈ tables w.state) ∨
        ∃ first t rest, ts = first ++ t :: rest ∧ (∀ u ∈ first, u ∈ tables w.state) ∧
          t ∉ tables w.state ∧ r = .error (.schema ("Table " ++ t ++
            " belongs to an enabled subsystem but does not exist")))
  | [], w => ⟨_, w, rfl, rfl, .inl ⟨rfl, by simp⟩⟩
  | t :: ts, w => by
    obtain ⟨b, w₁, hr, hb, hw₁⟩ := hdb t w
    rw [requireTables_cons, Action.outcome_bind_ok hr]
    cases b with
    | false =>
      have ht : t ∉ tables w.state := fun ht => Bool.false_ne_true (hb.2 ht)
      exact ⟨_, w₁, rfl, hw₁, .inr ⟨[], t, ts, rfl, by simp, ht, rfl⟩⟩
    | true =>
      have ht : t ∈ tables w.state := hb.1 rfl
      obtain ⟨r, w₂, hrun, hw₂, hcases⟩ := requireTables_outcome hdb ts w₁
      rw [hw₁] at hw₂ hcases
      refine ⟨r, w₂, hrun, hw₂, ?_⟩
      rcases hcases with ⟨rfl, hts⟩ | ⟨first, u, rest, rfl, hfirst, hu, rfl⟩
      · exact .inl ⟨rfl, List.forall_mem_cons.2 ⟨ht, hts⟩⟩
      · exact .inr ⟨t :: first, u, rest, rfl, List.forall_mem_cons.2 ⟨ht, hfirst⟩, hu, rfl⟩

/-- Asking for tables is all that it does. -/
theorem requireTables_calls (db : Database σ) (ts : List String) :
    Calls (fun c => ∃ t, c = .tableExists t) (requireTables db.watched ts) :=
  composes_requireTables (composes_calls _) (fun t => calls_watching ⟨t, rfl⟩ _) ts

/-! ## Creating tables -/

/-- The end of a creation does not depend on the state. -/
theorem conclude_result (created : List String) (blocked : List Plan) (w : Logged σ)
    (w' : Logged τ) :
    ((conclude created blocked).outcome w).1 = ((conclude created blocked).outcome w').1 := by
  cases blocked <;> rfl

/-- **A compilation is the creation of the emitted plans and its end**, which a failure leaves
out. -/
theorem compile_creating (db : Database σ) {ctx : Context} {doc : Document}
    {plans order blocked : List Plan} (hp : doc.plans ctx = .ok plans)
    (hem : Emission [] plans order blocked) (r : Registry) (w : Logged σ) :
    ∃ out, Creating db order w (eventsOf (compile db.watched ctx doc r).2 w) out ∧
      (out.1 = .ok () → ((compile db ctx doc r).2.outcome w).1 =
        ((conclude (order.map Plan.name) blocked).outcome w).1) ∧
      ∀ e, out.1 = .error e → ((compile db ctx doc r).2.outcome w).1 = .error e := by
  obtain ⟨es, out, hc, ho, hw⟩ := creating_createEach db order w.watched
  have ho : (createEach db order).outcome w = out := ho
  have hevents : eventsOf (compile db.watched ctx doc r).2 w = es := by
    rw [eventsOf, compile_eq hp, hem.createAll_eq, Action.outcome_bind, hw]
    rcases out with ⟨e | x, w'⟩
    · rfl
    · rw [conclude_state]
      rfl
  rw [hevents, compile_eq hp, hem.createAll_eq, List.nil_append, Action.outcome_bind, ho]
  refine ⟨out, hc, fun h => ?_, fun e h => ?_⟩
  · obtain ⟨x, w'⟩ := out
    obtain rfl : x = .ok () := h
    exact conclude_result _ _ w' w
  · obtain ⟨x, w'⟩ := out
    obtain rfl : x = .error e := h
    rfl

/-- The compilation on `db` is that on `ideal`, cut short by the first creation that fails. -/
structure CutShort (db : Database σ) (ideal : Database τ) (ctx : Context) (doc : Document)
    (r : Registry) (w : Logged σ) (w₀ : Logged τ) : Prop where
  registry : (compile db ctx doc r).1 = (compile ideal ctx doc r).1
  /-- If no creation fails, then the calls and the result are the same. -/
  complete : (∀ e ∈ eventsOf (compile db.watched ctx doc r).2 w, e.succeeded = true) →
    (eventsOf (compile db.watched ctx doc r).2 w).map Event.call =
      (eventsOf (compile ideal.watched ctx doc r).2 w₀).map Event.call ∧
    ((compile db ctx doc r).2.outcome w).1 = ((compile ideal ctx doc r).2.outcome w₀).1
  /-- If one fails, then it is the last call, and its error is the result. -/
  short : ∀ k e, (eventsOf (compile db.watched ctx doc r).2 w)[k]? = some e →
    e.succeeded = false →
    (eventsOf (compile db.watched ctx doc r).2 w).map Event.call =
      ((eventsOf (compile ideal.watched ctx doc r).2 w₀).map Event.call).take (k + 1) ∧
    ∃ name definitions err w₁ w₂, e.call = .createTable name definitions ∧ w₁.state = e.before ∧
      (db.createTable name definitions).outcome w₁ = (.error err, w₂) ∧
      ((compile db ctx doc r).2.outcome w).1 = .error err

/-- **A compilation is cut short by the first creation that fails**, else it is one in which no
creation fails. -/
theorem cutShort (db : Database σ) {ideal : Database τ} (hideal : ideal.AlwaysCreates)
    (hd : ideal.dialect = db.dialect) (ctx : Context) (doc : Document) (r : Registry) (w : Logged σ)
    (w₀ : Logged τ) : CutShort db ideal ctx doc r w w₀ := by
  cases hp : doc.plans ctx with
  | error e =>
    have hevents : eventsOf (compile db.watched ctx doc r).2 w = [] := by
      rw [compile_error hp]
      rfl
    refine ⟨?_, fun _ => ?_, fun k e hk => ?_⟩
    · rw [compile_error hp, compile_error hp]
    · rw [hevents, compile_error hp, compile_error hp, compile_error hp]
      exact ⟨rfl, rfl⟩
    · rw [hevents] at hk
      cases hk
  | ok plans =>
    obtain ⟨order, blocked, hem⟩ := Emission.exists [] plans
    obtain ⟨out, hc, hok, herror⟩ := compile_creating db hp hem r w
    have hcalls : (eventsOf (compile ideal.watched ctx doc r).2 w₀).map Event.call =
        order.map (·.call db.dialect) := by
      rw [compile_calls hp hideal hem, hd]
    have hresult : ((compile ideal ctx doc r).2.outcome w₀).1 =
        ((conclude (order.map Plan.name) blocked).outcome w).1 := by
      rw [compile_outcome hp hideal hem]
      exact conclude_result _ _ _ _
    refine ⟨?_, fun hs => ?_, fun k e hk hf => ?_⟩
    · rw [compile_eq hp, compile_eq hp, hd]
    · obtain ⟨ho, hes⟩ := hc.completes hs
      exact ⟨hes.trans hcalls.symm, (hok ho).trans hresult.symm⟩
    · obtain ⟨hes, p, -, hpe, err, w₁, w₂, hw₁, hcreate, ho⟩ := hc.stops hk hf
      exact ⟨hes.trans (congrArg _ hcalls.symm), p.name, _, err, w₁, w₂, hpe, hw₁, hcreate,
        herror err ho⟩

/-! ## Starts -/

theorem start_watched_result (db : Database σ) (ctx : Context) (doc : Document) (w : Logged σ) :
    ((start db.watched ctx doc).outcome w.watched).1 = ((start db ctx doc).outcome w).1 :=
  (mirrors_start db ctx doc w.watched).1

/-- The start fails for want of the exempt table `t`, and creates nothing. -/
structure Lacks (db : Database σ) (tables : σ → Set String) (ctx : Context) (doc : Document)
    (w : Logged σ) (t : String) : Prop where
  exempt : t ∈ ctx.exempt
  missing : t ∉ tables w.state
  /-- Of the exempt tables that do not exist, it is the first in the order of their bytes. -/
  first : ∀ u ∈ ctx.exempt, u ∉ tables w.state → u = t ∨ utf8 t < utf8 u
  result : ((start db ctx doc).outcome w).1 = .error (.schema ("Table " ++ t ++
    " belongs to an enabled subsystem but does not exist"))
  calls : ∀ e ∈ eventsOf (start db.watched ctx doc) w, ∃ u, e.call = .tableExists u

/-- The start is a compilation from `w₁` on, once it has asked for tables. -/
structure GoesOn (db : Database σ) (ctx : Context) (doc : Document) (w w₁ : Logged σ) : Prop where
  calls : ∃ checks, eventsOf (start db.watched ctx doc) w =
      checks ++ eventsOf (compile db.watched ctx doc .empty).2 w₁ ∧
    ∀ e ∈ checks, ∃ u, e.call = .tableExists u
  result : ((start db ctx doc).outcome w).1 = ((compile db ctx doc .empty).2.outcome w₁).1.map
    fun _ => (compile db ctx doc .empty).1

section
variable {db : Database σ} {tables : σ → Set String} (hdb : db.Answers tables) (ctx : Context)
  (doc : Document) (w : Logged σ)
include hdb

/-- **A start without all exempt tables** ends at the first one that does not exist, and creates
nothing. -/
theorem start_missing (h : ∃ t ∈ ctx.exempt, t ∉ tables w.state) :
    ∃ t, Lacks db tables ctx doc w t := by
  obtain ⟨r, w', hrun, -, hcases⟩ :=
    requireTables_outcome hdb.watched (ascending ctx.exempt) w.watched
  obtain ⟨es, hes, hcalls⟩ := requireTables_calls db (ascending ctx.exempt) w.watched
  rw [hrun] at hes
  rcases hcases with ⟨rfl, hall⟩ | ⟨first, t, rest, hsplit, hfirst, ht, rfl⟩
  · obtain ⟨t, he, ht⟩ := h
    exact absurd (hall t (mem_ascending.2 he)) ht
  · have hmem : ∀ {u}, u ∈ ctx.exempt ↔ u ∈ first ∨ u = t ∨ u ∈ rest := by
      intro u
      rw [← mem_ascending, hsplit, List.mem_append, List.mem_cons]
    have hlt : ∀ u ∈ rest, t < u := by
      have hsorted := pairwise_ascending ctx.exempt
      rw [hsplit] at hsorted
      exact (List.pairwise_cons.1 (List.pairwise_append.1 hsorted).2.1).1
    refine ⟨t, hmem.2 (.inr (.inl rfl)), ht, fun u hu hmissing => ?_, ?_, ?_⟩
    · rcases hmem.1 hu with hu | hu | hu
      · exact absurd (hfirst u hu) hmissing
      · exact .inl hu
      · exact .inr (Text.utf8_lt (hlt u hu))
    · rw [← start_watched_result, start_eq, Action.outcome_bind_error hrun]
    · rw [eventsOf, start_eq, Action.outcome_bind_error hrun, hes]
      exact hcalls

/-- **A start with all exempt tables** is a compilation with an empty registry, once it has asked
for them. -/
theorem start_found (h : ∀ t ∈ ctx.exempt, t ∈ tables w.state) :
    ∃ w₁, tables w₁.state = tables w.state ∧ GoesOn db ctx doc w w₁ := by
  obtain ⟨r, w', hrun, hw', hcases⟩ :=
    requireTables_outcome hdb.watched (ascending ctx.exempt) w.watched
  obtain ⟨es, hes, hcalls⟩ := requireTables_calls db (ascending ctx.exempt) w.watched
  rw [hrun, Logged.watched_events, List.nil_append] at hes
  rcases hcases with ⟨rfl, -⟩ | ⟨first, t, rest, hsplit, -, ht, -⟩
  · have hblind : Blind (compile db.watched ctx doc .empty).2 :=
      composes_compile composes_blind (fun _ _ => blind_watching _ _) ctx doc .empty
    have hevents := hblind.events w'
    have hmirrors : Mirrors (compile db.watched ctx doc .empty).2 (compile db ctx doc .empty).2 :=
      composes_compile composes_mirrors (fun _ _ => mirrors_watching _ _) ctx doc .empty
    obtain ⟨hresult, -⟩ := hmirrors w'
    refine ⟨w'.unwatched, hw', ⟨w'.state.events, ?_, fun e he => hcalls e (hes ▸ he)⟩, ?_⟩
    · rw [eventsOf, start_eq, Action.outcome_bind_ok hrun, Action.outcome_bind, ← hevents]
      rcases (compile db.watched ctx doc .empty).2.outcome w' with ⟨e | x, w''⟩ <;> rfl
    · rw [← hresult, ← start_watched_result, start_eq, Action.outcome_bind_ok hrun,
        Action.outcome_bind, compile_watched_fst]
      rcases (compile db.watched ctx doc .empty).2.outcome w' with ⟨e | x, w''⟩ <;> rfl
  · exact absurd (h t (mem_ascending.1 (by simp [hsplit]))) ht

end

/-- **A start stops where something fails.**  Without all exempt tables it creates nothing, and
names the first of those that do not exist; with all of them it goes on as a compilation.  A
compilation of a document without plans creates nothing either, and leaves the registry as it is.
Any other one is cut short by the first creation that fails. -/
theorem start_stops (db : Database σ) (ctx : Context) (doc : Document) (w : Logged σ) :
    (∀ tables, db.Answers tables → (∃ t ∈ ctx.exempt, t ∉ tables w.state) →
      ∃ t, Lacks db tables ctx doc w t) ∧
    (∀ tables, db.Answers tables → (∀ t ∈ ctx.exempt, t ∈ tables w.state) →
      ∃ w₁, tables w₁.state = tables w.state ∧ GoesOn db ctx doc w w₁) ∧
    (∀ r e, doc.plans ctx = .error e → (compile db ctx doc r).1 = r ∧
      eventsOf (compile db.watched ctx doc r).2 w = [] ∧
      (compile db ctx doc r).2.outcome w = (.error e.toError, w)) ∧
    ∀ {τ : Type} (ideal : Database τ) (w₀ : Logged τ), ideal.AlwaysCreates →
      ideal.dialect = db.dialect → ∀ r, CutShort db ideal ctx doc r w w₀ := by
  refine ⟨fun _ hdb => start_missing hdb ctx doc w, fun _ hdb => start_found hdb ctx doc w,
    fun r e hp => ?_, fun ideal w₀ hideal hd r => cutShort db hideal hd ctx doc r w w₀⟩
  rw [compile_error hp, compile_error hp]
  exact ⟨rfl, rfl, rfl⟩

/-- A shop that declares its items twice. -/
def doubledShop : Document := ⟨shop.tables ++ [⟨"items", []⟩]⟩

/-- A start of the shop fails without the users.  With them, it fails where the orders are refused,
after the items. -/
theorem shop_stops :
    ((start (.listing .sqlite ["orders"]) shopContext shop).outcome ⟨[], []⟩).1 =
      .error (.schema "Table users belongs to an enabled subsystem but does not exist") ∧
    ((start (.listing .sqlite ["orders"]) shopContext shop).outcome ⟨["users"], []⟩).1 =
      .error (.database "cannot create orders") ∧
    (compile (.listing .sqlite []) shopContext doubledShop .empty).1 = .empty ∧
    (eventsOf (compile (Database.listing .sqlite ["orders"]).watched shopContext shop .empty).2
        ⟨["users"], []⟩).map Event.call =
      ((eventsOf (compile (Database.listing .sqlite []).watched shopContext shop .empty).2
        ⟨[], []⟩).map Event.call).take 2 := by
  have hanswers := listing_answers .sqlite ["orders"]
  have hevents : ∀ w, eventsOf (compile (Database.listing .sqlite ["orders"]).watched shopContext
      shop .empty).2 w = [⟨.createTable "items" (shopItems.definitions .sqlite), w.state, true⟩,
        ⟨.createTable "orders" (shopOrders.definitions .sqlite), "items" :: w.state, false⟩] := by
    intro w
    rw [eventsOf, compile_eq shop_plans, shop_emission.createAll_eq]
    rfl
  have hshort : ∀ w,
      ((compile (.listing .sqlite ["orders"]) shopContext shop .empty).2.outcome w).1 =
        .error (.database "cannot create orders") ∧
      (eventsOf (compile (Database.listing .sqlite ["orders"]).watched shopContext shop .empty).2
          w).map Event.call =
        ((eventsOf (compile (Database.listing .sqlite []).watched shopContext shop .empty).2
          ⟨[], []⟩).map Event.call).take 2 := by
    intro w
    obtain ⟨-, -, -, hcut⟩ := start_stops (.listing .sqlite ["orders"]) shopContext shop w
    obtain ⟨hcalls, name, definitions, err, w₁, w₂, hcall, -, hcreate, hresult⟩ :=
      (hcut (.listing .sqlite []) ⟨[], []⟩ (listing_alwaysCreates .sqlite) rfl .empty).short 1 _
        (by rw [hevents]; rfl) rfl
    cases hcall
    obtain rfl : .database "cannot create orders" = err :=
      Except.error.inj (congrArg Prod.fst hcreate)
    exact ⟨hresult, hcalls⟩
  obtain ⟨hmissing, -⟩ := start_stops (.listing .sqlite ["orders"]) shopContext shop ⟨[], []⟩
  obtain ⟨-, hfound, -⟩ :=
    start_stops (.listing .sqlite ["orders"]) shopContext shop ⟨["users"], []⟩
  obtain ⟨-, -, hrefused, -⟩ := start_stops (.listing .sqlite []) shopContext doubledShop ⟨[], []⟩
  obtain ⟨t, hlacks⟩ := hmissing _ hanswers ⟨"users", List.mem_cons_self, List.not_mem_nil⟩
  obtain ⟨w₁, -, hgoes⟩ := hfound _ hanswers (by simp [shopContext])
  obtain rfl : t = "users" := List.mem_singleton.1 hlacks.exempt
  have hplans : doubledShop.plans shopContext = .error (.repeatedTables ["items"]) := by
    decide +kernel
  exact ⟨hlacks.result, by rw [hgoes.result, (hshort w₁).1]; rfl, (hrefused .empty _ hplans).1,
    (hshort _).2⟩

end Schema

end TableService
