import ItemCatalog.FieldErrors
import ItemCatalog.Operation
import ItemCatalog.Status

/-!
# Failures

The four ways in which a call can fail by the rules of the catalogue, what else can go wrong in
one, and the status in which each of them reaches the caller. What a failed storage operation says
of itself stays on this side of the status.
-/

namespace ItemCatalog

/-- A failure that the catalogue's rules know. -/
inductive Failure
  /-- Fields of the request are invalid. -/
  | invalid (message : String) (errors : FieldErrors)
  /-- The entity referred to does not exist. -/
  | missing (entityType entityId : String)
  /-- A rule of the domain forbids the request. -/
  | ruleBroken (rule message : String)
  /-- Storage failed during an operation; the message and the source are for the log. -/
  | storage (operation : Operation) (message : String) (source : Option String)
deriving DecidableEq

namespace Failure

/-- The failure of every field in `errors`. -/
def invalidFields (errors : FieldErrors) : Failure :=
  .invalid "One or more validation errors occurred." errors

/-- The failure of a single field. -/
def invalidField (field error : String) : Failure :=
  .invalid ("Validation failed for field '" ++ field ++ "': " ++ error)
    (FieldErrors.empty.add field error)

/-- What a failure says of itself. -/
def message : Failure → String
  | .invalid message _ => message
  | .missing entityType entityId => entityType ++ " with ID '" ++ entityId ++ "' was not found."
  | .ruleBroken _ message => message
  | .storage _ message _ => message

/-- The value of the `error-code` entry. -/
def errorCode : Failure → String
  | .invalid .. => "VALIDATION_ERROR"
  | .missing .. => "ENTITY_NOT_FOUND"
  | .ruleBroken .. => "BUSINESS_RULE_VIOLATION"
  | .storage .. => "DATA_ACCESS_ERROR"

/-- The code of the status. -/
def code : Failure → StatusCode
  | .invalid .. => .invalidArgument
  | .missing .. => .notFound
  | .ruleBroken .. => .failedPrecondition
  | .storage .. => .internal

/-- What the caller is told of a failed storage operation. -/
def publicMessage : Operation → String
  | .create => "Failed to create the entity. Please try again."
  | .read => "Failed to retrieve the entity. Please try again."
  | .update => "Failed to update the entity. Please try again."
  | .delete => "Failed to delete the entity. Please try again."

/-- The message of the status. -/
def statusMessage : Failure → String
  | .storage operation _ _ => publicMessage operation
  | failure => failure.message

/-- The entries that describe a failure, beside its `error-code`. -/
def details : Failure → List (String × String)
  | .invalid _ errors => [("validation-errors", errors.json)]
  | .missing entityType entityId => [("entity-type", entityType), ("entity-id", entityId)]
  | .ruleBroken rule _ => [("rule-name", rule)]
  | .storage operation _ _ => [("operation", operation.label)]

/-- The status in which a failure reaches the caller. -/
def status (failure : Failure) : Status where
  code := failure.code
  message := failure.statusMessage
  metadata := (("error-code", failure.errorCode) :: failure.details).foldl
    (fun metadata e => metadata.set e.1 e.2) .empty

end Failure

/-- The outcome of checks that found these errors. -/
def FieldErrors.result (errors : FieldErrors) : Except Failure Unit :=
  if errors.isEmpty then .ok () else .error (.invalidFields errors)

/-- Anything that can end a call without an answer. -/
inductive Fault
  | failure (failure : Failure)
  | status (status : Status)
  /-- Outside the rules of the catalogue; the caller learns its kind only. -/
  | unclassified (kind message : String)
deriving DecidableEq

namespace Fault

/-- The status of a fault of which only the kind is shown. -/
def unclassifiedStatus (kind : String) : Status where
  code := .internal
  message := "An internal error occurred. Please try again later."
  metadata := (Metadata.empty.set "error-code" "INTERNAL_ERROR").set "exception-type" kind

/-- The code of the status that a fault becomes. -/
def code : Fault → StatusCode
  | .failure f => f.code
  | .status s => s.code
  | .unclassified .. => .internal

/-- The status that a fault becomes. -/
def toStatus : Fault → Status
  | .failure f => f.status
  | .status s => s
  | .unclassified kind _ => unclassifiedStatus kind

/-- What a fault says of itself, where that is not already a status. -/
def message? : Fault → Option String
  | .failure f => some f.message
  | .status _ => none
  | .unclassified kind message => some (kind ++ ": " ++ message)

theorem code_toStatus (fault : Fault) : fault.toStatus.code = fault.code := by
  cases fault <;> rfl

end Fault
end ItemCatalog
