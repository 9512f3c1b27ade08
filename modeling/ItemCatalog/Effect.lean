import ItemCatalog.Identifier
import ItemCatalog.Log
import ItemCatalog.Metrics.Basic
import ItemCatalog.Program
import ItemCatalog.Storage.Basic

/-!
# What a call asks

The questions that the programs of this library ask while they serve a call: storage requests of
the call's unit of work, random bits, how much time has passed, and what to record, to log and to
note.
-/

namespace ItemCatalog

/-- A question asked while a call is served. -/
inductive Effect
  | storage (request : Storage.Request)
  /-- Asks for random bits. -/
  | random
  /-- Asks how many nanoseconds a piece of work has taken. -/
  | elapsed
  | record (event : Metrics.Event)
  | log (entry : Log.Entry)
  /-- Leaves a mark in the trace of the call. -/
  | note (mark : String)

/-- The kind of answer that a question has. -/
def Effect.Answer : Effect → Type
  | .storage request => request.Answer
  | .random => BitVec 128
  | .elapsed => Nat
  | .record _ => Unit
  | .log _ => Unit
  | .note _ => Unit

/-- The questions of a call. -/
abbrev Effect.signature : Signature := ⟨Effect, Effect.Answer⟩

/-- A program that serves a call. -/
abbrev Serving (α : Type) := Program Effect.signature α

namespace Serving
variable {α : Type}

/-- Asks storage. -/
def storage (request : Storage.Request) : Serving request.Answer :=
  Program.request (S := Effect.signature) (.storage request)

/-- How many nanoseconds a piece of work has taken. -/
def elapsed : Serving Nat := Program.request (S := Effect.signature) .elapsed

/-- A fresh identifier. -/
def freshIdentifier : Serving Identifier :=
  Program.ask (S := Effect.signature) .random fun bits => .done (.ofRandom bits)

/-- Records an event. -/
def record (event : Metrics.Event) : Serving Unit :=
  Program.request (S := Effect.signature) (.record event)

/-- Writes an entry to the log. -/
def log (entry : Log.Entry) : Serving Unit :=
  Program.request (S := Effect.signature) (.log entry)

/-- Writes an event to the log. -/
def event (level : Log.Level) (message : String) (fields : List Log.Field) : Serving Unit :=
  log (.event level message fields)

/-- Leaves a mark in the trace of the call. -/
def note (mark : String) : Serving Unit :=
  Program.request (S := Effect.signature) (.note mark)

/-- Asks storage for the answer to a request, and records how long it took as a sample of
`operation`. -/
def timed (operation : Operation) (request : Storage.Request) : Serving request.Answer := do
  let answer ← storage request
  let duration ← elapsed
  record (.database operation duration)
  return answer

end Serving
end ItemCatalog
