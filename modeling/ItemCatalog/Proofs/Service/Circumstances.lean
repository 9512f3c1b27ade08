import ItemCatalog.Proofs.Service.Annotated
import ItemCatalog.Storage.Table

/-!
# One call by itself

A call that is served while storage behaves in any way at all: what it answers to a request may
depend on everything that the call has asked it before. What the call draws at random and what it
measures is as arbitrary. It leaves a trail of what it has asked and recorded. Main statement:
remarks for the log make no difference to what a call comes to and leaves (`run_of_annotates`).

## Main definitions

* `Circumstances`, `Trail`: what a call meets, and what it leaves.
* `Circumstances.run`: a program that is served.
* `Circumstances.over`: circumstances in which a store gives the answers.
-/

namespace ItemCatalog.Service
open Storage (Change Request Backend)

/-- What a call meets: what storage answers to a request after others, and the random values and
the measured times in the order in which the call asks for them. -/
structure Circumstances where
  answer : List Request → (r : Request) → r.Answer
  random : Nat → BitVec 128 := fun _ => 0
  nanos : Nat → Nat := fun _ => 0

/-- What a call leaves: what it has asked of storage and what it has recorded, the oldest first, and
how many random values it has drawn and times it has measured. -/
structure Trail where
  asked : List Request := []
  recorded : List Metrics.Event := []
  drawn : Nat := 0
  measured : Nat := 0

namespace Trail

/-- The trail after another request. -/
def ask (t : Trail) (r : Request) : Trail := { t with asked := t.asked ++ [r] }

/-- The trail after another random value. -/
def draw (t : Trail) : Trail := { t with drawn := t.drawn + 1 }

/-- The trail after another measurement. -/
def measure (t : Trail) : Trail := { t with measured := t.measured + 1 }

/-- The trail after another event. -/
def record (t : Trail) (event : Metrics.Event) : Trail :=
  { t with recorded := t.recorded ++ [event] }

/-- The trail after a request whose duration is recorded as a sample of an operation. -/
def time (t : Trail) (nanos : Nat → Nat) (op : Operation) (r : Request) : Trail :=
  ((t.ask r).measure).record (.database op (nanos t.measured))

/-- What the metrics become by all that was recorded. -/
def metrics (t : Trail) (m : Metrics) : Metrics := t.recorded.foldl Metrics.record m

end Trail

namespace Circumstances
variable {α : Type} (c : Circumstances)

/-- How the questions of a call are answered. -/
def respond : Program.Responder Effect.signature Trail
  | .storage r, t => (c.answer t.asked r, t.ask r)
  | .random, t => (c.random t.drawn, t.draw)
  | .elapsed, t => (c.nanos t.measured, t.measure)
  | .record event, t => ((), t.record event)
  | .log _, t => ((), t)
  | .note _, t => ((), t)

/-- Serves a call: what it comes to, and the trail that it leaves. -/
def run (p : Serving α) (t : Trail := {}) : α × Trail := Program.run c.respond p t

/-- Remarks leave nothing in a trail. -/
theorem run_of_annotates {p q : Serving α} (h : p.Annotates q) (t : Trail) :
    c.run p t = c.run q t := by
  -- The trail is general, because what was asked before decides on the answers.
  induction h generalizing t with
  | done a => rfl
  | ask e _ ih => exact ih _ _
  | @remark e he k q _ ih =>
    have hkept : (c.respond e t).2 = t := by
      cases e with
      | log entry => rfl
      | note mark => rfl
      | _ => cases he
    exact (ih (c.respond e t).1 _).trans (congrArg (fun t => c.run q t) hkept)

end Circumstances

/-! ## Stores -/

section Stores
variable {σ : Type}

/-- What is staged and what a store becomes after some requests, at one time and with one identifier
for new items. -/
def replayed (b : Backend σ) (now : Instant) (fresh : Identifier) (s : σ) (asked : List Request) :
    List Change × σ :=
  asked.foldl (fun found r => (b.respond now fresh r found.1 found.2).2) ([], s)

/-- What a store becomes by the requests of a call. -/
def Trail.left (t : Trail) (b : Backend σ) (now : Instant) (fresh : Identifier) (s : σ) : σ :=
  (replayed b now fresh s t.asked).2

/-- Circumstances in which a store answers what is asked of storage. -/
def Circumstances.over (b : Backend σ) (now : Instant) (fresh : Identifier) (s : σ)
    (random : Nat → BitVec 128) (nanos : Nat → Nat) : Circumstances where
  answer past r :=
    (b.respond now fresh r (replayed b now fresh s past).1 (replayed b now fresh s past).2).1
  random := random
  nanos := nanos

end Stores
end ItemCatalog.Service
