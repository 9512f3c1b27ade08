import ItemCatalog.Stage.Basic

/-!
# Metering

The stage that counts, times and classifies every call that passes it.
-/

namespace ItemCatalog

/-- The status label of a call that was answered. -/
def Metrics.success : String := "success"

namespace Stage
variable {α : Type}

/-- What is recorded of a failed call: the request and the error under the label of its code, and
which kind of rejection it was, if it was one. -/
def failureEvents (call : Call) (code : StatusCode) (duration : Nat) : List Metrics.Event :=
  let method := call.methodName
  [.request method code.label duration, .error method code.label] ++
    match code with
    | .invalidArgument => [.invalid method]
    | .unauthenticated => [.unauthorized call.operation code.label]
    | .permissionDenied => [.unauthorized call.operation code.label]
    | _ => []

/-- What is recorded of a call that ended. A panic is not recorded at all. -/
def endEvents (call : Call) (duration : Nat) : Outcome (Reply α) → List Metrics.Event
  | .answered _ =>
    [.request call.methodName Metrics.success duration, .change call.operation]
  | .failed fault => failureEvents call fault.code duration
  | .panicked _ => []

/-- Records events one after another. -/
def recordAll : List Metrics.Event → Serving Unit
  | [] => return ()
  | e :: rest => do
    Serving.record e
    recordAll rest

/-- Counts the call as in flight while the rest runs, and records how it ended. -/
def metering : Stage α where
  name := "metrics"
  wrap next call := do
    Serving.record .enter
    let (call, outcome) ← next call
    let duration ← Serving.elapsed
    recordAll (endEvents call duration outcome)
    Serving.record .leave
    return (call, outcome)

end Stage
end ItemCatalog
