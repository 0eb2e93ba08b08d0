/-
  Why a request for rows cannot be turned into a statement.

  * `QueryError.toError` gives the error that the service reports for each cause.
-/
import TableService.Identifier

namespace TableService

/-- The kinds of statements that carry a row. -/
inductive Writing where
  | insert
  | update
  deriving DecidableEq, Repr

/-- A cause for refusing a request. -/
inductive QueryError where
  /-- A name is no identifier. -/
  | identifier (fault : Identifier.Fault)
  /-- An operator key is not known. -/
  | operator (key : String)
  /-- An order entry has not one or two words. -/
  | orderEntry (entry : String)
  /-- The second word of an order entry, in upper case, is no direction. -/
  | direction (word entry : String)
  /-- The row has no columns. -/
  | emptyRow (writing : Writing)
  deriving DecidableEq, Repr

/-- The error reported for a cause. -/
def QueryError.toError : QueryError → Error
  | .identifier fault => .validation fault.message
  | .operator key => .unsupportedOperator key
  | .orderEntry entry => .validation ("Invalid orderBy entry: " ++ Text.quoted entry)
  | .direction word entry =>
    .validation ("Invalid sort direction " ++ Text.quoted word ++ " in orderBy entry " ++
      Text.quoted entry)
  | .emptyRow .insert => .emptyPayload "No data provided for insert"
  | .emptyRow .update => .emptyPayload "No data provided for update"

/-- A name as an identifier of a request. -/
def Identifier.ofName (name : String) : Except QueryError Identifier :=
  (Identifier.check name).mapError .identifier

end TableService
