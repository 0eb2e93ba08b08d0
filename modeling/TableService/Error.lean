/-
  Errors as the service reports them.

  * An `Error` is a cause by its area, with a text that says what was wrong there.
  * `Error.message` is the full text, `Error.status` and `Error.body` are the HTTP response.
  * `Error.isFatal` marks the errors that end the start of the service.
-/
import TableService.Json.Writer

namespace TableService

/-- An error of the service. -/
inductive Error where
  | database (text : String)
  | connection (text : String)
  | config (text : String)
  | schema (text : String)
  /-- Tables that cannot be created before each other. -/
  | circularDependency (tables : List String)
  | unsupportedOperator (key : String)
  | emptyPayload (text : String)
  | validation (text : String)
  | notFound (text : String)
  | internal (text : String)
  deriving DecidableEq, Repr, Inhabited

/-- Texts with a comma and a space between each two. -/
def commaSpaced (texts : List String) : String := String.intercalate ", " texts

namespace Error

/-- The text of an error. -/
def message : Error → String
  | .database text => "Database error: " ++ text
  | .connection text => "Connection error: " ++ text
  | .config text => "Configuration error: " ++ text
  | .schema text => "Schema error: " ++ text
  | .circularDependency tables =>
    "Circular dependency in DB schema between tables: " ++ commaSpaced tables
  | .unsupportedOperator key => "Unsupported operator: " ++ key
  | .emptyPayload text => text
  | .validation text => "Validation error: " ++ text
  | .notFound text => "Not found: " ++ text
  | .internal text => "Internal server error: " ++ text

/-- The service does not start with such an error. -/
def isFatal : Error → Bool
  | .connection _ | .config _ | .schema _ | .circularDependency _ => true
  | _ => false

/-- The HTTP status of the response. -/
def status : Error → Nat
  | .connection _ => 503
  | .unsupportedOperator _ | .emptyPayload _ | .validation _ => 400
  | .notFound _ => 404
  | .database _ | .config _ | .schema _ | .circularDependency _ | .internal _ => 500

/-- The code of the error in a response. -/
def code : Error → String
  | .database _ => "DATABASE_ERROR"
  | .connection _ => "CONNECTION_ERROR"
  | .config _ => "CONFIG_ERROR"
  | .schema _ => "SCHEMA_ERROR"
  | .circularDependency _ => "CIRCULAR_DEPENDENCY"
  | .unsupportedOperator _ => "UNSUPPORTED_OPERATOR"
  | .emptyPayload _ => "EMPTY_PAYLOAD"
  | .validation _ => "VALIDATION_ERROR"
  | .notFound _ => "NOT_FOUND"
  | .internal _ => "INTERNAL_ERROR"

/-- What a response says beyond the message. -/
def details : Error → Option String
  | .circularDependency tables => some (commaSpaced tables)
  | .unsupportedOperator key =>
    some ("Supported operators: $eq, $ne, $gt, $gte, $lt, $lte, $like, $in, $nin (got " ++
      key ++ ")")
  | _ => none

end Error

/-- The part of an error response that describes the error. -/
structure ErrorDetail where
  code : String
  message : String
  details : Option String := none

namespace ErrorDetail

/-- The members of the description, absent details left out. -/
def json (d : ErrorDetail) : Json :=
  .object ([("code", .string d.code), ("message", .string d.message)] ++
    d.details.toList.map fun t => ("details", .string t))

/-- The description of an error. -/
def ofError (e : Error) : ErrorDetail := ⟨e.code, e.message, e.details⟩

end ErrorDetail

/-- The body of the response to an error. -/
def Error.body (e : Error) : String :=
  (Json.object [("error", (ErrorDetail.ofError e).json)]).render

end TableService
