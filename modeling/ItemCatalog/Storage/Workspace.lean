import ItemCatalog.Assoc
import ItemCatalog.Storage.Basic

/-!
# Units of work side by side

Several units of work over one store, each with its own staged writes. One request is answered at a
time; what a unit of work has staged is seen by no other until its commit.
-/

namespace ItemCatalog.Storage

/-- A store and the units of work that are open on it, by name. -/
structure Workspace (κ σ : Type) where
  store : σ
  units : Assoc κ (List Change) := .empty

namespace Workspace
variable {κ σ : Type} [DecidableEq κ]

/-- What a unit of work has staged; nothing if it is not open. -/
def staged (w : Workspace κ σ) (unit : κ) : List Change := (w.units.get? unit).getD []

/-- Answers a request of a unit of work, which it opens if need be. -/
def serve (b : Backend σ) (now : Instant) (fresh : Identifier) (unit : κ) (r : Request)
    (w : Workspace κ σ) : r.Answer × Workspace κ σ :=
  let answer := b.respond now fresh r (w.staged unit) w.store
  (answer.1, ⟨answer.2.2, w.units.insert unit answer.2.1⟩)

/-- A request stages for its own unit of work only. -/
theorem staged_serve (b : Backend σ) (now : Instant) (fresh : Identifier) (unit u : κ)
    (r : Request) (w : Workspace κ σ) :
    (w.serve b now fresh unit r).2.staged u =
      if u = unit then (b.respond now fresh r (w.staged unit) w.store).2.1 else w.staged u := by
  simp only [serve, staged, Assoc.get?_insert]
  by_cases hu : u = unit
  · simp [hu]
  · simp [hu]

/-- Forgets a unit of work with everything it has staged, and says whether it was open. -/
def discard (w : Workspace κ σ) (unit : κ) : Bool × Workspace κ σ :=
  ((w.units.get? unit).isSome, { w with units := w.units.erase unit })

end Workspace
end ItemCatalog.Storage
