import ItemCatalog.Pipeline
import ItemCatalog.Service.Methods

/-!
# The gateway

A call of the service from its opening to its result: it is announced in the log, passes the
standard pipeline, and is handled by its method.
-/

namespace ItemCatalog

/-- Handles a call of a method. -/
def Method.handle : (method : Method) → Call → method.Query → Serving (Except Failure method.Answer)
  | .createItem, call, request => Service.create call request
  | .getItems, call, query => Service.getPage call query
  | .getItem, call, key => Service.getOne call key
  | .updateItem, call, request => Service.update call request
  | .deleteItem, call, key => Service.delete call key

namespace Service

/-- The handler of a method at the end of a pipeline. -/
def handler (method : Method) (query : method.Query) (call : Call) :
    Serving (Outcome method.Answer) := do
  let result ← method.handle call query
  return .ofExcept result

/-- Announces a call in the log. -/
def announce (method : Method) (call : Call) : Serving Unit :=
  Serving.event .debug "Handling call"
    (("method", method.name) :: ("correlation_id", call.correlationId.text) :: userField call)

/-- Serves a call of a method. Without a validator, every caller may do everything. -/
def serve (validator : Option Validator) (method : Method) (metadata : Metadata)
    (query : method.Query) : Serving (Result method.Answer) := do
  let call ← Call.opened method.path metadata
  announce method call
  (Pipeline.standard validator).call call (handler method query)

end Service
end ItemCatalog
