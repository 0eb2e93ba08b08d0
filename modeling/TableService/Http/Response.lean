/-
  Requests and their responses.

  * `respond` answers a request: it finds the endpoint, reads the parameters, then the body, and
    only then looks at tables.
  * What is wrong with a request before that has a status and no message of the service.
-/
import TableService.Http.Media
import TableService.Http.Route
import TableService.Service
import TableService.Text.Percent

namespace TableService.Http

/-- A request. -/
structure Request where
  method : Method
  target : String
  contentType : Option String
  body : String

/-- The body of a response. -/
inductive Body where
  | json (text : String)
  | text (text : String)
  /-- A message that is not of the service. -/
  | rejection
  deriving DecidableEq, Repr

/-- A response. -/
structure Response where
  status : Nat
  body : Body
  deriving DecidableEq, Repr

namespace Response

/-- A response with a JSON value. -/
def json (status : Nat) (j : Json) : Response := ⟨status, .json j.render⟩

/-- The response to an error. -/
def ofError (e : Error) : Response := ⟨e.status, .json e.body⟩

/-- A request that is refused for its form. -/
def rejected (status : Nat) : Response := ⟨status, .rejection⟩

/-- The response without its body, as for the method `HEAD`. -/
def bodiless (r : Response) : Response :=
  { r with body := match r.body with
    | .json _ => .json ""
    | .text _ => .text ""
    | .rejection => .rejection }

/-- The text of the body, unless it is a rejection. -/
def text? (r : Response) : Option String :=
  match r.body with
  | .json t | .text t => some t
  | .rejection => none

end Response

/-- A parameter that is text. -/
def parameter (s : String) : Except Response String :=
  match Text.ofPercent? s with
  | some t => .ok t
  | none => .error (.rejected 400)

/-- A parameter that is the key of a row. -/
def idParameter (s : String) : Except Response Int64 := do
  match integerOf (← parameter s).toList with
  | some i =>
    if -0x8000000000000000 ≤ i ∧ i < 0x8000000000000000 then return Int64.ofInt i
    else throw (.rejected 400)
  | none => throw (.rejected 400)

/-- The status for a body that cannot be read. -/
def faultStatus : Fault → Nat
  | .eof | .malformed => 400
  | .shape => 422

/-- The body of a request, read by a shape. -/
def bodyAs {α : Type} (shape : Shape α) (r : Request) : Except Response α :=
  if !r.contentType.any isJson then .error (.rejected 415)
  else (Shape.read shape r.body).mapError fun f => .rejected (faultStatus f)

variable {σ : Type}

/-- A part of answering a request, which may end with a response. -/
abbrev Answering (σ α : Type) := ExceptT Response (StateM (Logged σ)) α

/-- Goes on if the form of the request is right. -/
def orReject {α : Type} (r : Except Response α) : Answering σ α := ExceptT.mk (pure r)

/-- Goes on if the service does not fail. -/
def orFail {α : Type} (a : Action σ α) : Answering σ α :=
  ExceptT.mk do return (← a.run).mapError Response.ofError

/-- A count under a name. -/
def counted (name : String) (n : Nat) : Json :=
  .object [(name, (Json.ofInt? n).getD .null)]

/-- Rows with their number. -/
def rowsJson (rows : List Row) : Json :=
  .object [("count", (Json.ofInt? rows.length).getD .null),
    ("rows", .array (rows.map fun r => .object r.entries))]

/-- Answers a request for an endpoint. -/
def answer (s : Service σ) (r : Request) : Endpoint → Answering σ Response
  | .health => return ⟨200, .text "OK"⟩
  | .schema => return .json 200 (Registry.json s.registry)
  | .readRows table => do
    let table ← orReject (parameter table)
    let o ← orReject (bodyAs ReadOptions.shape r)
    return .json 200 (rowsJson (← orFail (s.readRows table o)))
  | .createRow table => do
    let table ← orReject (parameter table)
    let row ← orReject (bodyAs Shape.row r)
    orFail (s.createRow table row)
    return .json 201 (.object [("success", .bool true)])
  | .getRow table id => do
    let table ← orReject (parameter table)
    let id ← orReject (idParameter id)
    return .json 200 (.object (← orFail (s.getRow table id)).entries)
  | .updateRow table id => do
    let table ← orReject (parameter table)
    let id ← orReject (idParameter id)
    let row ← orReject (bodyAs Shape.row r)
    return .json 200 (counted "updated" (← orFail (s.updateRow table id row)))
  | .deleteRow table id => do
    let table ← orReject (parameter table)
    let id ← orReject (idParameter id)
    return .json 200 (counted "deleted" (← orFail (s.deleteRow table id)))

/-- Answers a request. -/
def respond (s : Service σ) (r : Request) : StateM (Logged σ) Response := do
  if r.method = .options then return ⟨200, .text ""⟩
  match Route.ofPath? r.target with
  | none => return .rejected 404
  | some route =>
    match Endpoint.of? r.method route with
    | none => return .rejected 405
    | some endpoint =>
      let response := match ← (answer s r endpoint).run with
        | .ok response => response
        | .error response => response
      return if r.method = .head then response.bodiless else response

end TableService.Http
