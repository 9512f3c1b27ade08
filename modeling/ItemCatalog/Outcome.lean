import ItemCatalog.Failure

/-!
# Outcomes

How the handling of a call ends: with an answer, with a fault, or with a panic that unwinds
through whatever surrounds it.
-/

namespace ItemCatalog

/-- What a panic carries: a text, or something else. -/
inductive Panic
  | text (message : String)
  | other
deriving DecidableEq

/-- The wording of a panic. -/
def Panic.message : Panic → String
  | .text message => message
  | .other => "non-string panic payload"

/-- How the handling of a call ends. -/
inductive Outcome (α : Type)
  | answered (a : α)
  | failed (fault : Fault)
  | panicked (panic : Panic)
deriving DecidableEq

namespace Outcome
variable {α β : Type}

/-- Changes the answer. -/
def map (f : α → β) : Outcome α → Outcome β
  | answered a => answered (f a)
  | failed fault => failed fault
  | panicked panic => panicked panic

/-- Whether a panic is under way. -/
def isPanic : Outcome α → Bool
  | panicked _ => true
  | _ => false

/-- The outcome of something that can fail by the rules of the catalogue. -/
def ofExcept : Except Failure α → Outcome α
  | .ok a => answered a
  | .error failure => failed (.failure failure)

end Outcome
end ItemCatalog
