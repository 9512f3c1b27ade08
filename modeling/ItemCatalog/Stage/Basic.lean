import ItemCatalog.Call
import ItemCatalog.Effect
import ItemCatalog.Outcome
import ItemCatalog.Text.Quoted

/-!
# Stages

Every call passes a list of stages before it reaches its handler. A stage is a wrapper: given what
comes after it, it says how the call is handled from here on. It may change the call for what
comes after, answer in place of it, or look at the outcome on the way back. Main statement: the
stages of one list and then of another are the one list around the other.
-/

namespace ItemCatalog

/-- An answer as it passes the stages: of the type that the caller waits for, or not. -/
inductive Reply (α : Type)
  | expected (a : α)
  | foreign
deriving DecidableEq

/-- How a call is handled: its outcome, and the call as the handling left it. -/
abbrev Handling (α : Type) := Call → Serving (Call × Outcome (Reply α))

/-- A stage of the handling of a call. -/
structure Stage (α : Type) where
  name : String
  wrap : Handling α → Handling α

/-- Stages in the order in which a call meets them. -/
abbrev Pipeline (α : Type) := List (Stage α)

/-- What the caller of a pipeline gets: an answer, a status, or a panic that no stage stopped. -/
inductive Result (α : Type)
  | replied (a : α)
  | refused (status : Status)
  | escaped (panic : Panic)
deriving DecidableEq

namespace Pipeline
variable {α : Type}

/-- What remains behind the last stage: the handler, which gets the call as the stages left it and
cannot change it for them. -/
def endpoint (handler : Call → Serving (Outcome α)) : Handling α := fun call => do
  let outcome ← handler call
  return (call, outcome.map .expected)

/-- The handling of a call by stages around something else. -/
def around (stages : Pipeline α) (inner : Handling α) : Handling α :=
  stages.foldr (fun stage rest => stage.wrap rest) inner

@[simp] theorem around_nil (inner : Handling α) : around [] inner = inner := rfl

@[simp] theorem around_cons (stage : Stage α) (rest : Pipeline α) (inner : Handling α) :
    around (stage :: rest) inner = stage.wrap (around rest inner) := rfl

/-- The stages of two lists are those of the first around those of the second. -/
theorem around_append (xs ys : Pipeline α) (inner : Handling α) :
    around (xs ++ ys) inner = around xs (around ys inner) := by
  simp [around, List.foldr_append]

/-- What the caller gets for an outcome. An answer of a type that nobody waits for is logged and
refused. -/
def conclude : Call × Outcome (Reply α) → Serving (Result α)
  | (_, .answered (.expected a)) => return .replied a
  | (call, .answered .foreign) => do
    Serving.event .error "Handler reply had an unexpected type" [("method", call.method)]
    return .refused (Fault.unclassifiedStatus "ReplyTypeMismatch")
  | (_, .failed fault) => return .refused fault.toStatus
  | (_, .panicked panic) => return .escaped panic

/-- Runs a handler behind every stage. -/
def call (stages : Pipeline α) (call : Call) (handler : Call → Serving (Outcome α)) :
    Serving (Result α) := do
  let ended ← stages.around (endpoint handler) call
  conclude ended

/-- The names of the stages. -/
def names (stages : Pipeline α) : List String := stages.map Stage.name

/-- A short description. -/
def summary (stages : Pipeline α) : String :=
  "Pipeline \x7b stages: " ++ Text.quotedList stages.names ++ " \x7d"

end Pipeline
end ItemCatalog
