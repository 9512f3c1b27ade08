import ItemCatalog.Effect
import ItemCatalog.Entropy

/-!
# Surroundings

The surroundings in which calls are served one at a time: a store, a clock that stands still while
a program runs, a source of random bits, and everything that has been recorded, logged, noted and
asked of storage.
-/

namespace ItemCatalog

/-- Surroundings with a store of type `σ`. -/
structure Surroundings (σ : Type) where
  store : σ
  staged : List Storage.Change := []
  now : Instant := ⟨0, 0⟩
  entropy : Entropy := {}
  metrics : Metrics := .empty
  log : List Log.Entry := []
  notes : List String := []
  asked : List Storage.Request := []

namespace Surroundings
variable {σ α : Type}

/-- The next random value. -/
def draw (w : Surroundings σ) : BitVec 128 × Surroundings σ :=
  (w.entropy.draw.1, { w with entropy := w.entropy.draw.2 })

/-- The identifier for a new item, if the request is for one. -/
def freshFor (w : Surroundings σ) (r : Storage.Request) : Identifier × Surroundings σ :=
  if r.draws then (.ofRandom w.draw.1, w.draw.2) else (.nil, w)

/-- Answers a storage request of the current unit of work. -/
def serve (b : Storage.Backend σ) (r : Storage.Request) (w : Surroundings σ) :
    r.Answer × Surroundings σ :=
  let (fresh, w) := w.freshFor r
  let (answer, staged, store) := b.respond w.now fresh r w.staged w.store
  (answer, { w with store := store, staged := staged, asked := w.asked ++ [r] })

/-- Answers a question of a call. -/
def respond (b : Storage.Backend σ) : Program.Responder Effect.signature (Surroundings σ)
  | .storage r, w => w.serve b r
  | .random, w => w.draw
  | .elapsed, w => ((0 : Nat), w)
  | .record e, w => ((), { w with metrics := w.metrics.record e })
  | .log e, w => ((), { w with log := w.log ++ [e] })
  | .note mark, w => ((), { w with notes := w.notes ++ [mark] })

/-- Runs a program to its end. -/
def run (w : Surroundings σ) (b : Storage.Backend σ) (p : Serving α) : α × Surroundings σ :=
  p.run (respond b) w

end Surroundings
end ItemCatalog
