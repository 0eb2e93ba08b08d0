/-
  The parts of a start, and that watching it changes nothing.

  * `start_eq`: a start asks for the exempt tables, then compiles the document; `compile_eq`: which
    is to create its plans.
  * `composes_start`: what is kept when actions are put together holds of a start if it holds of its
    calls; thus `mirrors_start`, the events of a watched start are those of the start itself.
-/
import TableService.Proofs.Schema.Emission

namespace TableService.Schema

variable {σ : Type} {ctx : Context} {doc : Document}

/-! ## Parts -/

theorem requireTables_cons (db : Database σ) (t : String) (ts : List String) :
    requireTables db (t :: ts) = db.tableExists t >>= fun b =>
      if b then requireTables db ts
      else throw (.schema ("Table " ++ t ++
        " belongs to an enabled subsystem but does not exist")) := by
  rw [requireTables]
  refine bind_congr fun b => ?_
  cases b <;> rfl

theorem compile_eq {plans : List Plan} (hp : doc.plans ctx = .ok plans) (db : Database σ)
    (r : Registry) :
    compile db ctx doc r = (register db.dialect plans r, createAll db [] plans) := by
  rw [compile, hp]

theorem compile_error {e : PlanError} (hp : doc.plans ctx = .error e) (db : Database σ)
    (r : Registry) : compile db ctx doc r = (r, throw e.toError) := by
  rw [compile, hp]

theorem start_eq (db : Database σ) (ctx : Context) (doc : Document) :
    start db ctx doc = requireTables db (ascending ctx.exempt) >>= fun _ =>
      (compile db ctx doc .empty).2 >>= fun order =>
        Action.info ("Schema compiled: " ++ toString order.length ++ " tables (" ++
          commaSpaced order ++ ")") >>= fun _ => pure (compile db ctx doc .empty).1 := rfl

/-! ## Watching -/

theorem compile_watched_fst (db : Database σ) (ctx : Context) (doc : Document) (r : Registry) :
    (compile db.watched ctx doc r).1 = (compile db ctx doc r).1 := by
  cases hp : doc.plans ctx with
  | error e => rw [compile_error hp, compile_error hp]
  | ok plans =>
    rw [compile_eq hp, compile_eq hp]
    rfl

section
variable {J : (α : Type) → Action (Watched σ) α → Action σ α → Prop} {db : Database σ}

theorem composes_requireTables (hJ : Composes J)
    (hexists : ∀ t, J Bool (db.watched.tableExists t) (db.tableExists t)) :
    ∀ ts, J Unit (requireTables db.watched ts) (requireTables db ts)
  | [] => hJ.pure _
  | t :: ts => by
    rw [requireTables_cons, requireTables_cons]
    refine hJ.bind (hexists t) fun b => ?_
    cases b
    · exact hJ.throw _
    · exact composes_requireTables hJ hexists ts

theorem composes_createEach (hJ : Composes J)
    (hcreate : ∀ t ds, J Unit (db.watched.createTable t ds) (db.createTable t ds)) :
    ∀ ps, J Unit (createEach db.watched ps) (createEach db ps)
  | [] => hJ.pure _
  | p :: ps => hJ.bind (hcreate p.name _) fun _ => hJ.bind (hJ.log _ _) fun _ =>
      composes_createEach hJ hcreate ps

theorem composes_conclude (hJ : Composes J) (created : List String) :
    ∀ blocked, J (List String) (conclude created blocked) (conclude created blocked)
  | [] => hJ.pure _
  | _ :: _ => hJ.bind (hJ.log _ _) fun _ => hJ.throw _

theorem composes_compile (hJ : Composes J)
    (hcreate : ∀ t ds, J Unit (db.watched.createTable t ds) (db.createTable t ds))
    (ctx : Context) (doc : Document) (r : Registry) :
    J (List String) (compile db.watched ctx doc r).2 (compile db ctx doc r).2 := by
  cases hp : doc.plans ctx with
  | error e =>
    rw [compile_error hp, compile_error hp]
    exact hJ.throw _
  | ok plans =>
    obtain ⟨order, blocked, hem⟩ := Emission.exists [] plans
    rw [compile_eq hp, compile_eq hp, hem.createAll_eq, hem.createAll_eq]
    exact hJ.bind (composes_createEach hJ hcreate order) fun _ => composes_conclude hJ _ blocked

/-- What is kept when actions are put together holds of a start if it holds of its calls. -/
theorem composes_start (db : Database σ) (hJ : Composes J)
    (hexists : ∀ t, J Bool (db.watched.tableExists t) (db.tableExists t))
    (hcreate : ∀ t ds, J Unit (db.watched.createTable t ds) (db.createTable t ds))
    (ctx : Context) (doc : Document) :
    J Registry (start db.watched ctx doc) (start db ctx doc) := by
  rw [start_eq, start_eq, compile_watched_fst]
  exact hJ.bind (composes_requireTables hJ hexists _) fun _ =>
    hJ.bind (composes_compile hJ hcreate ctx doc _) fun _ => hJ.bind (hJ.log _ _) fun _ => hJ.pure _

end

/-- **A start that is watched does what the start itself does.** -/
theorem mirrors_start (db : Database σ) (ctx : Context) (doc : Document) :
    Mirrors (start db.watched ctx doc) (start db ctx doc) :=
  composes_start db composes_mirrors (fun _ => mirrors_watching _ _)
    (fun _ _ => mirrors_watching _ _) ctx doc

end TableService.Schema
