/-
  Paths and methods of the service.

  * `Route.ofPath?` finds the route of a path; a segment that is fixed is preferred to one that is
    a parameter, and a parameter is never empty.
  * `Endpoint.of?` is what a method does on a route.
  * A parameter is kept as it stands in the path, percent-encoded.
-/

namespace TableService.Http

/-- A method of a request. -/
inductive Method where
  | get
  | head
  | post
  | put
  | delete
  | options
  /-- A method that no route has. -/
  | other (name : String)
  deriving DecidableEq, Repr

/-- The method of a name. -/
def Method.ofName (name : String) : Method :=
  match name with
  | "GET" => .get
  | "HEAD" => .head
  | "POST" => .post
  | "PUT" => .put
  | "DELETE" => .delete
  | "OPTIONS" => .options
  | _ => .other name

/-- A path of the service, its parameters still encoded. -/
inductive Route where
  | health
  | schema
  | table (table : String)
  | newRow (table : String)
  | row (table id : String)
  deriving DecidableEq, Repr

/-- The part of a target before a query or a fragment. -/
def pathOf (target : String) : List Char :=
  target.toList.takeWhile fun c => c ≠ '?' && c ≠ '#'

/-- The segments of a path between its slashes. -/
def segments : List Char → List String
  | [] => [""]
  | c :: cs =>
    match segments cs with
    | [] => []
    | s :: rest => if c = '/' then "" :: s :: rest else String.ofList (c :: s.toList) :: rest

/-- The route of a target. -/
def Route.ofPath? (target : String) : Option Route :=
  match segments (pathOf target) with
  | ["", "health"] => some .health
  | ["", "api", "schema"] => some .schema
  | ["", "api", name] => if name = "" then none else some (.table name)
  | ["", "api", name, last] =>
    if name = "" || last = "" then none
    else if last = "new" then some (.newRow name)
    else some (.row name last)
  | _ => none

/-- What the service is asked for. -/
inductive Endpoint where
  | health
  | schema
  | readRows (table : String)
  | createRow (table : String)
  | getRow (table id : String)
  | updateRow (table id : String)
  | deleteRow (table id : String)
  deriving DecidableEq, Repr

/-- What a method does on a route. -/
def Endpoint.of? : Method → Route → Option Endpoint
  | .get, .health | .head, .health => some .health
  | .get, .schema | .head, .schema => some .schema
  | .post, .table t => some (.readRows t)
  | .post, .newRow t => some (.createRow t)
  | .get, .row t id | .head, .row t id => some (.getRow t id)
  | .put, .row t id => some (.updateRow t id)
  | .delete, .row t id => some (.deleteRow t id)
  | _, _ => none

end TableService.Http
