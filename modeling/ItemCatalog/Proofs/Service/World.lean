import ItemCatalog.Proofs.Service.Replay
import ItemCatalog.Proofs.Storage.History
import Mathlib.Logic.Function.Basic

/-!
# Calls in flight

Any number of calls of the service over one table that is empty at first. Each of their questions is
answered by itself, in any order, with any clock readings, and with identifiers that are never drawn
twice.

## Main definitions

* `World`: the calls in flight and what has happened so far.
* `World.tick`, `Reachable`: one question answered, and the worlds that a run can lead to.
* `World.order`: the calls by the last time that each of them touched the table.
-/

namespace ItemCatalog.Service
open Storage (Change Request Table History)

variable {ι : Type} [DecidableEq ι]

/-! ## Runs -/

/-- A request that reached the table: whose it was and when, whether it was a commit that ended in
a conflict, and the table before and after it. -/
structure Touch (ι : Type) where
  call : ι
  now : Instant
  lost : Bool
  before : Table
  after : Table

/-- Whether a request reaches the table. The others only stage what a commit is to write. -/
def touches : Request → Bool
  | .find _ => true
  | .page _ => true
  | .commit => true
  | .count => true
  | _ => false

/-- Whether the answer to a request is that a commit ended in a conflict. -/
def lost : (r : Request) → r.Answer → Bool
  | .commit, .error (.conflict _) => true
  | _, _ => false

/-- Calls in flight: what each has still to do, the random bits that its identifier was drawn from,
and the requests that reached the table, the oldest first. -/
structure World (ι : Type) where
  history : History ι := {}
  rest : ι → Serving Reply
  random : ι → BitVec 128 := fun _ => 0
  touched : List (Touch ι) := []

/-- Which call goes on, and what it finds: the clock, random bits and how long something took. -/
structure Tick (ι : Type) where
  call : ι
  now : Instant
  random : BitVec 128 := 0
  nanos : Nat := 0

namespace World

/-- All calls before their first question. -/
def start (calls : ι → Invocation) : World ι := { rest := fun k => (calls k).program }

/-- The shared table. -/
def table (w : World ι) : Table := w.history.table

/-- A call goes on with an answer that concerns it alone. -/
def goOn (w : World ι) (k : ι) (p : Serving Reply) : World ι :=
  { w with rest := Function.update w.rest k p }

/-- A storage request of a call is answered, and the call goes on. -/
def serve (w : World ι) (e : Tick ι) (r : Request) (resume : r.Answer → Serving Reply) :
    World ι :=
  let served := w.history.perform e.now (.ofRandom e.random) e.call r
  { history := served.2
    rest := Function.update w.rest e.call (resume served.1)
    random := if r.draws then Function.update w.random e.call e.random else w.random
    touched :=
      if touches r then
        w.touched ++ [⟨e.call, e.now, lost r served.1, w.table, served.2.table⟩]
      else w.touched }

/-- The next question of a call is answered, if it has any. -/
def tick (w : World ι) (e : Tick ι) : World ι :=
  match w.rest e.call with
  | .done _ => w
  | .ask (.storage r) resume => w.serve e r resume
  | .ask .random resume => w.goOn e.call (resume e.random)
  | .ask .elapsed resume => w.goOn e.call (resume e.nanos)
  | .ask (.record _) resume => w.goOn e.call (resume ())
  | .ask (.log _) resume => w.goOn e.call (resume ())
  | .ask (.note _) resume => w.goOn e.call (resume ())

/-- Whether an identifier is drawn for the next question of a call. -/
def draws (w : World ι) (k : ι) : Bool :=
  match w.rest k with
  | .ask (.storage r) _ => r.draws
  | _ => false

/-- Whether a tick draws no identifier that was drawn before. -/
def Fresh (w : World ι) (e : Tick ι) : Prop :=
  w.draws e.call = true → .ofRandom e.random ∉ w.history.drawn

end World

/-- The worlds that a run of calls can lead to. -/
inductive Reachable (calls : ι → Invocation) : World ι → Prop
  | start : Reachable calls (.start calls)
  | tick {w : World ι} (e : Tick ι) : Reachable calls w → w.Fresh e → Reachable calls (w.tick e)

/-! ## The order of calls -/

/-- The last touch of each call, in their order. -/
def lastTouches : List (Touch ι) → List (Touch ι)
  | [] => []
  | t :: rest =>
    if rest.any fun u => u.call = t.call then lastTouches rest else t :: lastTouches rest

/-- The last touch of a call takes the place of those that the call made before. -/
theorem lastTouches_append (l : List (Touch ι)) (t : Touch ι) :
    lastTouches (l ++ [t]) = ((lastTouches l).filter fun u => u.call ≠ t.call) ++ [t] := by
  induction l with
  | nil => rfl
  | cons u rest ih =>
    rw [List.cons_append, lastTouches, lastTouches, ih, List.any_append]
    by_cases hrest : (rest.any fun v => v.call = u.call) = true
    · rw [if_pos hrest, if_pos (by simp [hrest])]
    · rw [if_neg hrest]
      by_cases ht : t.call = u.call
      · rw [if_pos (by simp [ht]), List.filter_cons_of_neg (by simp [ht])]
      · rw [if_neg (by simpa [ht] using hrest),
          List.filter_cons_of_pos (by simpa using Ne.symm ht), List.cons_append]

namespace World

/-- Whether a call has nothing left to ask of storage. -/
def Over (w : World ι) (k : ι) : Prop := ∃ a, (w.rest k).Returns a

open Classical in
/-- Whether a touch counts: its call is over, and it was no commit that ended in a conflict. -/
noncomputable def counts (w : World ι) (t : Touch ι) : Bool := !t.lost && decide (w.Over t.call)

omit [DecidableEq ι] in
theorem counts_iff {w : World ι} {t : Touch ι} :
    w.counts t = true ↔ t.lost = false ∧ w.Over t.call := by
  simp [counts]

omit [DecidableEq ι] in
theorem counts_congr {w w' : World ι} {t : Touch ι} (h : w'.Over t.call ↔ w.Over t.call) :
    w'.counts t = w.counts t := by
  rw [Bool.eq_iff_iff, counts_iff, counts_iff, h]

/-- The calls that are over, by their last touches. Those are left out that never touched the table
and those whose commit ended in a conflict. -/
noncomputable def order (w : World ι) : List (Touch ι) := (lastTouches w.touched).filter w.counts

/-- A call as it is served by itself, at the time of its last touch and with the random bits that
its identifier was drawn from. -/
def turn (calls : ι → Invocation) (w : World ι) (t : Touch ι) : Turn where
  invocation := calls t.call
  now := t.now
  random := w.random t.call

/-- The calls of the order one after another. -/
noncomputable def turns (calls : ι → Invocation) (w : World ι) : List Turn :=
  w.order.map (turn calls w)

end World

/-- Whether touches lead from one table to another, each finding what the one before it left. -/
def Chain : Table → List (Touch ι) → Table → Prop
  | t, [], t' => t = t'
  | t, u :: rest, t' => u.before = t ∧ Chain u.after rest t'

omit [DecidableEq ι] in
theorem chain_append {t t' : Table} {l : List (Touch ι)} (h : Chain t l t') {u : Touch ι}
    (hu : u.before = t') : Chain t (l ++ [u]) u.after := by
  induction l generalizing t with
  | nil =>
    cases h
    exact ⟨hu, rfl⟩
  | cons v rest ih => exact ⟨h.1, ih h.2⟩

end ItemCatalog.Service
