/-
  Creating the tables of a document in an order in which every table comes after those that it
  refers to.

  * `createAll` always takes the first plan whose dependencies have been created; where none is
    left, the remaining tables depend on each other and nothing more is created.
  * `compile` registers the tables of a document and creates them; `start` does so for a service,
    once the exempt tables are known to exist.
-/
import TableService.Database
import TableService.Schema.Plan

namespace TableService.Schema

variable {σ : Type}

/-- All dependencies have been created. -/
def Plan.isReady (created : List String) (p : Plan) : Bool :=
  p.dependencies.all created.contains

/-- Creates plans in the order in which they become ready; `created` are the tables created before,
and the result has all of them. -/
def createAll (db : Database σ) (created : List String) (pending : List Plan) :
    Action σ (List String) :=
  match h : pending.findIdx? (·.isReady created) with
  | some i => do
    let p := pending.get ⟨i, (List.findIdx?_eq_some_iff_getElem.1 h).1⟩
    db.createTable p.name (p.definitions db.dialect)
    Action.info ("Created table " ++ p.name)
    createAll db (created ++ [p.name]) (pending.eraseIdx i)
  | none => do
    if pending.isEmpty then return created
    let blocked := (pending.map Plan.name).mergeSort
    Action.log .error ("Circular dependency between tables: " ++ commaSpaced blocked)
    throw (.circularDependency blocked)
termination_by pending.length
decreasing_by
  have hi := (List.findIdx?_eq_some_iff_getElem.1 h).1
  rw [List.length_eraseIdx_of_lt hi]
  omega

/-- Registers the tables of a document and creates them: the registry afterwards, and the action
that creates the tables and gives their names in order. -/
def compile (db : Database σ) (ctx : Context) (doc : Document) (r : Registry) :
    Registry × Action σ (List String) :=
  match doc.plans ctx with
  | .ok plans => (register db.dialect plans r, createAll db [] plans)
  | .error e => (r, throw e.toError)

/-- Fails unless the tables exist. -/
def requireTables (db : Database σ) : List String → Action σ Unit
  | [] => return ()
  | t :: ts => do
    if !(← db.tableExists t) then
      throw (.schema ("Table " ++ t ++ " belongs to an enabled subsystem but does not exist"))
    requireTables db ts

/-- Prepares a database for a service; the result is the registry of its tables. -/
def start (db : Database σ) (ctx : Context) (doc : Document) : Action σ Registry := do
  requireTables db (ascending ctx.exempt)
  let (registry, creation) := compile db ctx doc .empty
  let order ← creation
  Action.info ("Schema compiled: " ++ toString order.length ++ " tables (" ++
    commaSpaced order ++ ")")
  return registry

end TableService.Schema
