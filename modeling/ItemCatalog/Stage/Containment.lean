import ItemCatalog.Stage.Basic

/-!
# Containment

The stage behind which every call ends with an answer or a final status: faults become statuses,
a panic becomes a fault, and each of them is logged once.
-/

namespace ItemCatalog

namespace Fault

/-- The kind of the fault that a panic becomes. -/
def panicKind : String := "panic"

/-- The fault that a panic becomes. -/
def ofPanic (panic : Panic) : Fault := .unclassified panicKind panic.message

/-- What the log says of a fault that ended a call. -/
def logEntry (call : Call) (fault : Fault) : Log.Entry :=
  let about := [("method", call.methodName), ("correlation_id", call.correlationId.text)]
  match fault with
  | .failure (.invalid message errors) =>
    .event .warn ("Validation error: " ++ message) (about ++ [("fields", errors.json)])
  | .failure (.missing entityType entityId) =>
    .event .warn ("Entity not found: " ++ (Failure.missing entityType entityId).message) about
  | .failure (.ruleBroken rule message) =>
    .event .warn ("Business rule violation: " ++ message) (about ++ [("rule_name", rule)])
  | .failure (.storage operation message source) =>
    .event .error ("Data access error: " ++ message)
      (about ++ [("operation", operation.name), ("source", source.getD "")])
  | .status s =>
    .event .warn ("Call failed: " ++ s.message) (about ++ [("code", s.code.name)])
  | .unclassified kind message =>
    .event .error ("Unhandled error: " ++ message) (about ++ [("kind", kind)])

end Fault

namespace Stage
variable {α : Type}

/-- The fault of an outcome, a panic counting as one. -/
def contained? : Outcome (Reply α) → Except Fault (Reply α)
  | .answered a => .ok a
  | .failed fault => .error fault
  | .panicked panic => .error (.ofPanic panic)

/-- Turns every fault and every panic into a final status. -/
def containment : Stage α where
  name := "exception"
  wrap next call := do
    let (call, outcome) ← next call
    match contained? outcome with
    | .ok answer => return (call, .answered answer)
    | .error fault =>
      Serving.log (fault.logEntry call)
      return (call, .failed (.status fault.toStatus))

end Stage
end ItemCatalog
