import ItemCatalog.Message.Check
import ItemCatalog.Method

/-!
# Steps of the service

The steps of which the five methods are made: storage requests in the call's unit of work, how a
failure of storage becomes the failure of a call, and what the log is told.
-/

namespace ItemCatalog.Service
variable {α : Type}

/-! ## Storage -/

/-- Starts the call's unit of work. -/
def start : Serving Unit := Serving.storage .start

/-- Stages a new item. -/
def save (name : String) : Serving Identifier := Serving.storage (.save name)

/-- Stages new values for an item. -/
def stageUpdate (item : Item) : Serving Unit := Serving.storage (.update item)

/-- Stages the removal of an item. -/
def stageDelete (item : Item) : Serving Unit := Serving.storage (.delete item)

/-- Looks an item up. -/
def find (id : Identifier) : Serving (Except Storage.Error (Option Item)) :=
  Serving.timed .read (.find id)

/-- Looks up the items in a window. -/
def page (window : Window) : Serving (Except Storage.Error (Page Item)) :=
  Serving.timed .read (.page window)

/-- Commits what is staged on behalf of an operation. -/
def commit (operation : Operation) : Serving (Except Storage.Error (List Item)) :=
  Serving.timed operation .commit

/-! ## Failures -/

/-- Turns a request away that did not pass its checks. -/
def reject (method : Method) (fields : List Log.Field) (failure : Failure) :
    Serving (Except Failure α) := do
  Serving.event .warn ("Validation failed for " ++ method.name ++ ": " ++ failure.message) fields
  return .error failure

/-- The failure of an operation that storage brought down. -/
def broken (operation : Operation) (message : String) (error : Storage.Error) : Failure :=
  .storage operation message (some error.message)

/-- Fails an operation that storage brought down, with a line in the log. -/
def breakOff (operation : Operation) (message : String) (level : Log.Level) (line : String)
    (fields : List Log.Field) (error : Storage.Error) : Serving (Except Failure α) := do
  Serving.event level line (("error", error.message) :: fields)
  return .error (broken operation message error)

/-- Fails a call about an item that is not there, with a line in the log. -/
def notFound (line : String) (id : Identifier) : Serving (Except Failure α) := do
  Serving.event .warn line []
  return .error (.missing Item.entityType id.text)

/-- The item that a commit was to write. -/
def writtenItem (id : Identifier) (written : List Item) : Option Item :=
  written.find? fun item => item.id = id

/-! ## Spans -/

/-- Begins the span of a method. -/
def enter (name : String) (operation : Operation) (call : Call) (fields : List Log.Field) :
    Serving Unit :=
  Serving.log (.span name
    (("operation", operation.name) :: ("entity_type", Item.entityType) ::
      ("correlation_id", call.correlationId.text) :: fields))

/-- The field of a call's user, if it is known. -/
def userField (call : Call) : List Log.Field := call.userId.toList.map (("user_id", ·))

end ItemCatalog.Service
