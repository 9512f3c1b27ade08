import ItemCatalog.Proofs.Service.Course
import ItemCatalog.Proofs.Storage.Commit

/-!
# Calls one after another

Calls served one at a time over a table, each at a time of its own and with random bits of its own
for the item that it may insert. Main statement: what a call comes to is the result of its course
(`Turn.serve_eq`).
-/

namespace ItemCatalog.Service
open Storage (Change Request Table)

/-- A call, the time at which it is served, and the random bits that it finds. -/
structure Turn where
  invocation : Invocation
  now : Instant
  random : BitVec 128

/-- The identifier that an inserted item gets. -/
def Turn.fresh (turn : Turn) : Identifier := .ofRandom turn.random

/-- Serves a call over a table: its reply, and its surroundings afterwards. -/
def Turn.serve (turn : Turn) (t : Table) : Reply × Surroundings Table :=
  (opening t turn.now turn.random).run Table.backend turn.invocation.program

/-- The table after a call. -/
def Turn.after (turn : Turn) (t : Table) : Table := (turn.serve t).2.store

/-- The identifiers that a call draws. -/
def Turn.drawn (turn : Turn) (t : Table) : List Identifier :=
  if (turn.serve t).2.asked.any Request.draws then [turn.fresh] else []

/-- Serves calls one after another: their replies, and the table in the end. -/
def replay : List Turn → Table → List Reply × Table
  | [], t => ([], t)
  | turn :: rest, t =>
    ((turn.serve t).1 :: (replay rest (turn.after t)).1, (replay rest (turn.after t)).2)

/-- The identifiers that calls draw one after another. -/
def generated : List Turn → Table → List Identifier
  | [], _ => []
  | turn :: rest, t => turn.drawn t ++ generated rest (turn.after t)

theorem replay_append (turns turns' : List Turn) (t : Table) :
    replay (turns ++ turns') t =
      ((replay turns t).1 ++ (replay turns' (replay turns t).2).1,
        (replay turns' (replay turns t).2).2) := by
  induction turns generalizing t with
  | nil => rfl
  | cons turn rest ih => rw [List.cons_append, replay, ih, replay, List.cons_append]

/-- A call that is served last finds the table that the others leave. -/
theorem replay_concat (turns : List Turn) (turn : Turn) (t : Table) :
    replay (turns ++ [turn]) t =
      ((replay turns t).1 ++ [(turn.serve (replay turns t).2).1],
        turn.after (replay turns t).2) := by
  rw [replay_append]
  rfl

/-! ## One call -/

variable {R : Type} {turn : Turn} {t : Table} {now : Instant} {fresh k : Identifier}

/-- The result of the course of a call. -/
def Turn.result (turn : Turn) (t : Table) : Reply × Table :=
  turn.invocation.course.result t turn.now turn.fresh

/-- A call comes to the result of its course. -/
theorem Turn.serve_eq (turn : Turn) (t : Table) :
    (turn.serve t).1 = (turn.result t).1 ∧ turn.after t = (turn.result t).2 ∧
      (turn.serve t).2.asked.any Request.draws = turn.invocation.course.creates := by
  obtain ⟨hreply, halike⟩ := Surroundings.run_of_follows (follows_course turn.invocation)
    Table.backend (Surroundings.Alike.refl (opening t turn.now turn.random))
  obtain ⟨hreply', hstore, hasked⟩ := turn.invocation.course.run_plan t turn.now turn.random
  refine ⟨hreply.trans hreply', halike.store.trans hstore, ?_⟩
  rw [← hasked]
  exact congrArg (List.any · Request.draws) halike.asked

/-- What a course leaves under a free identifier: nothing, unless it inserts an item there. -/
theorem Course.get?_result_of_none (c : Course R) (h : t.get? k = none)
    (hk : c.creates = true → fresh ≠ k) : (c.result t now fresh).2.get? k = none := by
  cases c with
  | refused a => exact h
  | creation name reply =>
    refine Table.get?_commit_of_none now h ?_
    intro n hn
    rw [List.mem_singleton, Change.insert.injEq] at hn
    exact hk rfl hn.1.symm
  | listing window reply => exact h
  | lookup id broken missing errand =>
    rw [Course.result]
    cases t.get? id with
    | none => exact h
    | some item =>
      dsimp only
      cases errand item with
      | answer a => exact h
      | edit kind reply =>
        refine Table.get?_commit_of_none now h ?_
        intro n hn
        rw [List.mem_singleton] at hn
        cases kind <;> cases hn

/-- A course keeps every item under its own identifier. -/
theorem Course.isKeyed_result (c : Course R) (h : t.IsKeyed) :
    (c.result t now fresh).2.IsKeyed := by
  cases c with
  | refused a => exact h
  | creation name reply => exact h.commit
  | listing window reply => exact h
  | lookup id broken missing errand =>
    rw [Course.result]
    cases t.get? id with
    | none => exact h
    | some item =>
      dsimp only
      cases errand item with
      | answer a => exact h
      | edit kind reply => exact h.commit

end ItemCatalog.Service
