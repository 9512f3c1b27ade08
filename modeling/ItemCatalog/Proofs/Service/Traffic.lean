import ItemCatalog.Proofs.Service.World
import ItemCatalog.Storage.Workspace

/-!
# Calls through the gateway

Any number of calls that reach the gateway of a service over one table. Each of their questions is
answered by itself, in any order, whatever the table holds at first and whatever the clock and
chance come up with. Main statement: a step leaves everything but one call as it is, or answers one
request of it (`Traffic.tick_cases`).

## Main definitions

* `Submission`, `Delivery`: a call as it reaches the gateway, and what it comes to.
* `Traffic`: the calls in flight, what has been recorded and what has been asked of storage.
* `Traffic.tick`, `Traffic.run`: one question answered, and many.
-/

namespace ItemCatalog.Service
open Storage (Change Request Table Workspace Backend)

/-- A call as it reaches the gateway. -/
structure Submission where
  method : Method
  metadata : Metadata := .empty
  query : method.Query

/-- What a call through the gateway comes to. -/
structure Delivery where
  method : Method
  result : Result method.Answer

/-- The program that serves a call through the gateway. -/
def Submission.program (validator : Option Validator) (s : Submission) : Serving Delivery := do
  let result ← serve validator s.method s.metadata s.query
  return ⟨s.method, result⟩

variable {ι : Type} [DecidableEq ι]

/-- Calls in flight: their units of work over one table, what each has still to do, what has been
recorded, and what each has asked of storage, the oldest request first. -/
structure Traffic (ι : Type) where
  work : Workspace ι Table
  rest : ι → Serving Delivery
  metrics : Metrics := .empty
  asked : List (ι × Request) := []

namespace Traffic

/-- All calls before their first question, over a table. -/
def start (validator : Option Validator) (t : Table) (calls : ι → Submission) : Traffic ι where
  work := { store := t }
  rest i := (calls i).program validator

/-- The shared table. -/
def table (w : Traffic ι) : Table := w.work.store

/-- A call goes on. -/
def goOn (w : Traffic ι) (i : ι) (p : Serving Delivery) : Traffic ι :=
  { w with rest := Function.update w.rest i p }

/-- A storage request of a call is answered, and the call goes on. -/
def serve (w : Traffic ι) (e : Tick ι) (r : Request) (resume : r.Answer → Serving Delivery) :
    Traffic ι :=
  let served := w.work.serve Table.backend e.now (.ofRandom e.random) e.call r
  { w with
    work := served.2
    rest := Function.update w.rest e.call (resume served.1)
    asked := w.asked ++ [(e.call, r)] }

/-- The next question of a call is answered, if it has any. -/
def tick (w : Traffic ι) (e : Tick ι) : Traffic ι :=
  match w.rest e.call with
  | .done _ => w
  | .ask (.storage r) resume => w.serve e r resume
  | .ask .random resume => w.goOn e.call (resume e.random)
  | .ask .elapsed resume => w.goOn e.call (resume e.nanos)
  | .ask (.record event) resume =>
    { w.goOn e.call (resume ()) with metrics := w.metrics.record event }
  | .ask (.log _) resume => w.goOn e.call (resume ())
  | .ask (.note _) resume => w.goOn e.call (resume ())

/-- Questions answered one after another. -/
def run (w : Traffic ι) (ticks : List (Tick ι)) : Traffic ι := ticks.foldl tick w

/-! ## One step -/

/-- Whether a step answers a question of a call that is not of storage. -/
structure Aside (w w' : Traffic ι) (i : ι) : Prop where
  work : w'.work = w.work
  asked : w'.asked = w.asked
  rest : ∃ (e : Effect) (resume : e.Answer → Serving Delivery) (x : e.Answer),
    w.rest i = .ask e resume ∧ w'.rest = Function.update w.rest i (resume x)

/-- A step does nothing, answers a question that is not of storage, or answers a request. -/
theorem tick_cases (w : Traffic ι) (e : Tick ι) :
    w.tick e = w ∨ w.Aside (w.tick e) e.call ∨
      ∃ (r : Request) (resume : r.Answer → Serving Delivery),
        w.rest e.call = .ask (.storage r) resume ∧ w.tick e = w.serve e r resume := by
  unfold tick
  split
  · exact Or.inl rfl
  · next r resume hrest => exact Or.inr (Or.inr ⟨r, resume, hrest, rfl⟩)
  · next resume hrest => exact Or.inr (Or.inl ⟨rfl, rfl, .random, resume, e.random, hrest, rfl⟩)
  · next resume hrest => exact Or.inr (Or.inl ⟨rfl, rfl, .elapsed, resume, e.nanos, hrest, rfl⟩)
  · next event resume hrest =>
    exact Or.inr (Or.inl ⟨rfl, rfl, .record event, resume, (), hrest, rfl⟩)
  · next entry resume hrest =>
    exact Or.inr (Or.inl ⟨rfl, rfl, .log entry, resume, (), hrest, rfl⟩)
  · next mark resume hrest =>
    exact Or.inr (Or.inl ⟨rfl, rfl, .note mark, resume, (), hrest, rfl⟩)

/-- A step leaves the table, or commits what its call has staged. -/
theorem table_tick (w : Traffic ι) (e : Tick ι) :
    (w.tick e).table = w.table ∨
      (w.tick e).table = (w.table.commit e.now (w.work.staged e.call)).2 := by
  rcases w.tick_cases e with heq | haside | ⟨r, resume, _, heq⟩
  · exact Or.inl (congrArg table heq)
  · exact Or.inl (congrArg Workspace.store haside.work)
  · rw [heq]
    cases r with
    | commit => exact Or.inr rfl
    | _ => exact Or.inl rfl

theorem run_cons (w : Traffic ι) (e : Tick ι) (ticks : List (Tick ι)) :
    w.run (e :: ticks) = (w.tick e).run ticks := rfl

end Traffic
end ItemCatalog.Service
