import ItemCatalog.Stage.Basic

/-!
# The gate

The stage that lets a call pass if its method is public, or if its token belongs to a user who may
perform the operation.
-/

namespace ItemCatalog

/-- What becomes of a token under examination. -/
inductive Verdict
  | accepted (user : User)
  | rejected
  | panicked
deriving DecidableEq

/-- Examines tokens, and may say something about them in the log. -/
structure Validator where
  judge : String → Verdict
  remarks : String → List Log.Entry := fun _ => []

/-- Why a call is turned away at the gate. -/
inductive Refusal
  | noToken
  | badToken
  | validatorPanicked
  | notAllowed (user : User) (operation : Operation)
deriving DecidableEq

namespace Refusal

/-- The code of the status of a call that is turned away. -/
def code : Refusal → StatusCode
  | noToken => .unauthenticated
  | badToken => .unauthenticated
  | validatorPanicked => .internal
  | notAllowed .. => .permissionDenied

/-- The message of that status. -/
def message : Refusal → String
  | noToken => "Authorization token required"
  | badToken => "Invalid authorization token"
  | validatorPanicked => "Authorization service error"
  | notAllowed _ operation => "Insufficient permissions for " ++ operation.name ++ " operation"

/-- The status of a call that is turned away. -/
def status (refusal : Refusal) : Status where
  code := refusal.code
  message := refusal.message

/-- What the log says of a call that is turned away. -/
def logEntry (call : Call) : Refusal → Log.Entry
  | noToken => .event .warn "No authorization token provided" [("method", call.method)]
  | badToken => .event .warn "Invalid authorization token" [("method", call.method)]
  | validatorPanicked => .event .error "Token validator panicked" [("method", call.method)]
  | notAllowed user operation =>
    .event .warn "User not authorized for operation"
      [("user_id", user.id), ("operation", operation.name), ("method", call.method)]

end Refusal

namespace Validator

/-- Decides about a call that is not public: the user it belongs to, or why it is turned away. -/
def decide (validator : Validator) (call : Call) : Except Refusal User :=
  match call.metadata.bearer? with
  | none => .error .noToken
  | some token =>
    match validator.judge token with
    | .rejected => .error .badToken
    | .panicked => .error .validatorPanicked
    | .accepted user =>
      if user.allows call.operation then .ok user
      else .error (.notAllowed user call.operation)

end Validator

namespace Stage
variable {α : Type}

/-- Writes entries to the log. -/
def logAll : List Log.Entry → Serving Unit
  | [] => return ()
  | e :: rest => do
    Serving.log e
    logAll rest

/-- What the log says of a user that is let pass. -/
def admissionEntries (call : Call) (user : User) : List Log.Entry :=
  [.span "authorized"
      [("user_id", user.id), ("user_name", user.name.getD ""),
        ("client_id", user.clientId.getD "")],
    .event .debug "User authorized" [("user_id", user.id), ("operation", call.operation.name)]]

/-- Lets public methods pass, and other calls whose token belongs to a user who is allowed the
operation; the rest then knows that user. -/
def gate (validator : Validator) : Stage α where
  name := "authorization"
  wrap next call :=
    if Call.isPublic call.method then next call
    else do
      logAll ((call.metadata.bearer?.map validator.remarks).getD [])
      match validator.decide call with
      | .error refusal =>
        logAll [refusal.logEntry call]
        return (call, .failed (.status refusal.status))
      | .ok user =>
        logAll (admissionEntries call user)
        next (call.withUser user)

end Stage
end ItemCatalog
