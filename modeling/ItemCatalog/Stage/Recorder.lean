import ItemCatalog.Stage.Basic

/-!
# Recorders

Stages that leave a mark when a call comes by, for watching what a pipeline does.
-/

namespace ItemCatalog.Stage
variable {α : Type}

/-- What a recorder does with a call after it has left its mark. -/
inductive Move (α : Type)
  /-- Passes the call on. -/
  | pass
  /-- Passes the call on as one of this user. -/
  | identify (user : User)
  /-- Ends the call without passing it on. -/
  | halt (outcome : Outcome (Reply α))

/-- Leaves its name as a mark, then makes its move. Where the rest of the stages ran and did not
panic, a second mark follows. -/
def recorder (name : String) (move : Move α) : Stage α where
  name := name
  wrap next call := do
    Serving.note name
    let resume := fun (call : Call) => do
      let (call, outcome) ← next call
      if outcome.isPanic then return (call, outcome)
      Serving.note ("after " ++ name)
      return (call, outcome)
    match move with
    | .pass => resume call
    | .identify user => resume (call.withUser user)
    | .halt outcome => return (call, outcome)

end ItemCatalog.Stage
