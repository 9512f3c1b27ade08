import ItemCatalog.Stage.Basic
import ItemCatalog.Storage.Table
import ItemCatalog.Surroundings

/-!
# Stations

Stages that leave their name as a mark, and then either end the call or pass it on, changed or not,
to whatever comes next. A station may ask its surroundings anything before it decides. Main
statement: stations are asked in their order up to the first that ends the call, each with the call
as the ones before it have left it; if none does, the handler is run once with the call that the
last of them has passed on, and otherwise not at all (`stations_in_order`).

## Main definitions

* `Serving.Quiet`: a program leaves no marks.
* `Stage.Decision`, `Station`: what a station makes of a call, and the station.
* `Program.noting`: surroundings in which marks are kept.
* `Station.Passed`, `Station.Halts`: stations pass a call on, all of them; one of them ends it.
-/

namespace ItemCatalog
variable {α σ : Type}

/-! ## Marks -/

/-- The marks that a question leaves. -/
def Effect.marks : Effect → List String
  | .note mark => [mark]
  | _ => []

/-- Surroundings that keep the marks beside their state. -/
def Program.noting (respond : Program.Responder Effect.signature σ) :
    Program.Responder Effect.signature (σ × List String) := fun e s =>
  ((respond e s.1).1, (respond e s.1).2, s.2 ++ e.marks)

/-- Whether a program leaves no marks. -/
inductive Serving.Quiet : Serving α → Prop
  | done (a : α) : Quiet (.done a)
  | ask {e : Effect} (he : e.marks = []) {k : e.Answer → Serving α} :
      (∀ x, Quiet (k x)) → Quiet (.ask e k)

theorem Serving.Quiet.run_noting {p : Serving α} (h : p.Quiet)
    (respond : Program.Responder Effect.signature σ) (s : σ) (marks : List String) :
    p.run (Program.noting respond) (s, marks) =
      ((p.run respond s).1, (p.run respond s).2, marks) := by
  induction h generalizing s with
  | done a => rfl
  | ask he _ ih =>
    rw [Program.run_ask, Program.run_ask, ← ih]
    simp only [Program.noting, he, List.append_nil]

/-! ## Stations -/

/-- What a station makes of a call: it passes it on as it has left it, or ends it. -/
inductive Stage.Decision (α : Type)
  | pass (call : Call)
  | halt (ended : Call × Outcome (Reply α))

/-- What follows from a decision where something else comes next. -/
def Stage.Decision.follow (next : Handling α) :
    Stage.Decision α → Serving (Call × Outcome (Reply α))
  | .pass call => next call
  | .halt ended => .done ended

/-- A stage that leaves its name as its only mark, and decides. -/
structure Station (α : Type) where
  name : String
  decide : Call → Serving (Stage.Decision α)
  quiet : ∀ call, (decide call).Quiet

namespace Station

/-- The mark and the decision of a station. -/
def rule (station : Station α) (call : Call) : Serving (Stage.Decision α) := do
  Serving.note station.name
  station.decide call

/-- A station as a stage: what comes next is run once if the call is passed on, and its outcome is
that of the stage. -/
def stage (station : Station α) : Stage α where
  name := station.name
  wrap next call := do
    let decision ← station.rule call
    decision.follow next

/-- Stations as a pipeline. -/
def pipeline (stations : List (Station α)) : Pipeline α := stations.map stage

theorem names_pipeline (stations : List (Station α)) :
    (pipeline stations).names = stations.map name := by
  rw [Pipeline.names, pipeline, List.map_map]
  rfl

variable {respond : Program.Responder Effect.signature σ} {station : Station α}
  {stations before after : List (Station α)} {call : Call} {s t : σ} {marks : List String}
  {decision : Stage.Decision α} {ended : Call × Outcome (Reply α)} {inner : Handling α}

/-- A station adds its name to the marks, and nothing else. -/
theorem run_rule (h : (station.rule call).run respond s = (decision, t)) :
    (station.rule call).run (Program.noting respond) (s, marks) =
      (decision, t, marks ++ [station.name]) := by
  have hdecide := (station.quiet call).run_noting respond (respond (.note station.name) s).2
    (marks ++ [station.name])
  have hrule : (station.decide call).run respond (respond (.note station.name) s).2 =
      (decision, t) := h
  rw [hrule] at hdecide
  exact hdecide

/-- Whether stations pass a call on, one after another: from the call and the state of the
surroundings in the beginning to those that the last of them leaves. -/
inductive Passed (respond : Program.Responder Effect.signature σ) :
    List (Station α) → Call × σ → Call × σ → Prop
  | nil (place : Call × σ) : Passed respond [] place place
  | cons {station : Station α} {rest : List (Station α)} {call seen : Call} {s t : σ}
      {place : Call × σ} (hrule : (station.rule call).run respond s = (.pass seen, t))
      (hrest : Passed respond rest (seen, t) place) :
      Passed respond (station :: rest) (call, s) place

/-- There is no more than one place to which stations pass a call on. -/
theorem Passed.unique {start place other : Call × σ} (h : Passed respond stations start place)
    (h' : Passed respond stations start other) : place = other := by
  induction h with
  | nil place =>
    cases h'
    rfl
  | cons hrule _ ih =>
    cases h' with
    | cons hrule' hrest' =>
      rw [hrule] at hrule'
      cases hrule'
      exact ih hrest'

theorem passed_append {start place : Call × σ} (h : Passed respond (before ++ after) start place) :
    ∃ middle, Passed respond before start middle ∧ Passed respond after middle place := by
  induction before generalizing start with
  | nil => exact ⟨start, .nil start, h⟩
  | cons station rest ih =>
    cases h with
    | cons hrule hrest =>
      obtain ⟨middle, hbefore, hafter⟩ := ih hrest
      exact ⟨middle, .cons hrule hbefore, hafter⟩

/-- Whether a station ends a call that those before it pass on: the stations asked so far, what it
ends the call with, and the state that it leaves. -/
def Halts (respond : Program.Responder Effect.signature σ) (stations : List (Station α))
    (start : Call × σ) (asked : List (Station α)) (ended : Call × Outcome (Reply α)) (t : σ) :
    Prop :=
  ∃ before station after place, stations = before ++ station :: after ∧
    asked = before ++ [station] ∧ Passed respond before start place ∧
    (station.rule place.1).run respond place.2 = (.halt ended, t)

/-- Stations that pass a call on do not end it. -/
theorem Passed.not_halts {start place : Call × σ} {asked : List (Station α)}
    (h : Passed respond stations start place) : ¬Halts respond stations start asked ended t := by
  rintro ⟨before, station, after, middle, rfl, -, hbefore, hrule⟩
  obtain ⟨middle', hbefore', hafter⟩ := passed_append h
  cases hbefore.unique hbefore'
  cases hafter with
  | cons hrule' _ =>
    rw [hrule] at hrule'
    cases hrule'

/-- Either all stations pass a call on, or one of them ends it. -/
theorem passed_or_halts (respond : Program.Responder Effect.signature σ)
    (stations : List (Station α)) (start : Call × σ) :
    (∃ place, Passed respond stations start place) ∨
      ∃ asked ended t, Halts respond stations start asked ended t := by
  induction stations generalizing start with
  | nil => exact .inl ⟨start, .nil start⟩
  | cons station rest ih =>
    obtain ⟨call, s⟩ := start
    cases hrule : (station.rule call).run respond s with
    | mk decision t =>
      cases decision with
      | halt ended =>
        exact .inr ⟨[station], ended, t, [], station, rest, (call, s), rfl, rfl, .nil _, hrule⟩
      | pass seen =>
        rcases ih (seen, t) with ⟨place, hrest⟩ | ⟨_, ended, u, hhalts⟩
        · exact .inl ⟨place, .cons hrule hrest⟩
        · obtain ⟨before, last, after, place, rfl, -, hbefore, hlast⟩ := hhalts
          exact .inr ⟨_, ended, u, station :: before, last, after, place, rfl, rfl,
            .cons hrule hbefore, hlast⟩

/-! ## Runs -/

/-- Where stations pass a call on, what they are around is run with it, once, after their marks. -/
theorem run_around_of_passed {start place : Call × σ} (h : Passed respond stations start place) :
    ((pipeline stations).around inner start.1).run (Program.noting respond) (start.2, marks) =
      (inner place.1).run (Program.noting respond) (place.2, marks ++ stations.map name) := by
  induction h generalizing marks with
  | nil place => rw [List.map_nil, List.append_nil]; rfl
  | cons hrule _ ih =>
    rw [List.map_cons, List.append_cons, ← ih, pipeline, List.map_cons, Pipeline.around_cons, stage,
      Program.run_bind, run_rule hrule]
    rfl

/-- Where a station ends a call, that is the end, whatever comes after it. -/
theorem run_around_of_halts {start : Call × σ} {asked : List (Station α)}
    (h : Halts respond stations start asked ended t) :
    ((pipeline stations).around inner start.1).run (Program.noting respond) (start.2, marks) =
      (ended, t, marks ++ asked.map name) := by
  obtain ⟨before, station, after, place, rfl, rfl, hbefore, hrule⟩ := h
  -- For those before it the rest of the pipeline is what they are around.
  rw [pipeline, List.map_append, Pipeline.around_append, ← pipeline, run_around_of_passed hbefore,
    List.map_cons, Pipeline.around_cons, stage, Program.run_bind, run_rule hrule, List.map_append,
    ← List.append_assoc]
  rfl

/-- Whatever the surroundings, the stations, the handler and the call: either all stations pass the
call on, or one of them ends it. If all pass it on, their names are the marks, in order, and what
follows is one run of the handler, with the call as all of them have left it, and what is concluded
from its outcome. If one ends what those before it have passed on, the marks are the names up to its
own, and what follows is concluded from its own outcome, whatever the handler and the stations after
it. Stages of two lists are those of the first around those of the second, with any handler behind
them. -/
theorem stations_in_order (respond : Program.Responder Effect.signature σ)
    (stations : List (Station α)) (handler : Call → Serving (Outcome α)) (call : Call) (s : σ)
    (marks : List String) :
    let ran := ((pipeline stations).call call handler).run (Program.noting respond) (s, marks)
    ((∃ place, Passed respond stations (call, s) place) ∨
      ∃ asked ended t, Halts respond stations (call, s) asked ended t) ∧
    (∀ seen t, Passed respond stations (call, s) (seen, t) →
      (∀ asked ended u, ¬Halts respond stations (call, s) asked ended u) ∧
      ran = (handler seen >>= fun outcome =>
          Pipeline.conclude (seen, outcome.map .expected)).run (Program.noting respond)
        (t, marks ++ (pipeline stations).names)) ∧
    (∀ asked ended t, Halts respond stations (call, s) asked ended t →
      ran = (Pipeline.conclude ended).run (Program.noting respond)
        (t, marks ++ (pipeline asked).names)) ∧
    ∀ xs ys : Pipeline α, (xs ++ ys).call call handler =
      xs.around (ys.around (Pipeline.endpoint handler)) call >>= Pipeline.conclude := by
  refine ⟨passed_or_halts respond stations (call, s), fun seen t hpassed => ⟨?_, ?_⟩,
    fun asked ended t hhalts => ?_, fun xs ys => ?_⟩
  · exact fun _ _ _ => hpassed.not_halts
  · rw [Pipeline.call, Program.run_bind, run_around_of_passed hpassed, Pipeline.endpoint,
      Program.run_bind, Program.run_bind, names_pipeline]
    rfl
  · rw [Pipeline.call, Program.run_bind, run_around_of_halts hhalts, names_pipeline]
  · rw [Pipeline.call, Pipeline.around_append]

/-- Attaches a user to a call. -/
def identifying (user : User) : Station (Option User) where
  name := "identify"
  decide call := .done (.pass (call.withUser user))
  quiet _ := .done _

/-- Ends a call without a user. -/
def demanding : Station (Option User) where
  name := "demand"
  decide call := .done <| if call.user.isSome then .pass call
    else .halt (call, .failed (.status ⟨.unauthenticated, "who calls?", .empty⟩))
  quiet _ := .done _

/-- Of a station that attaches a user and one that asks for one it matters which comes first: in one
order the handler sees the user, in the other neither it nor the second station is run. -/
theorem identify_before_demand :
    let user : User := { id := "ann" }
    let call := Call.start "/catalog/Get" .empty ⟨1⟩
    let ran (stations : List (Station (Option User))) :=
      ((pipeline stations).call call fun seen => .done (.answered seen.user)).run
        (Program.noting (Surroundings.respond Storage.Table.backend)) ({ store := .empty }, [])
    (ran [identifying user, demanding]).1 = .replied (some user) ∧
    (ran [identifying user, demanding]).2.2 = ["identify", "demand"] ∧
    (ran [demanding, identifying user]).1 =
      .refused ⟨.unauthenticated, "who calls?", .empty⟩ ∧
    (ran [demanding, identifying user]).2.2 = ["demand"] := by
  intro user call ran
  have hseen := stations_in_order (Surroundings.respond Storage.Table.backend)
    [identifying user, demanding] (fun seen => .done (.answered seen.user)) call
    { store := .empty } []
  have hstopped := stations_in_order (Surroundings.respond Storage.Table.backend)
    [demanding, identifying user] (fun seen => .done (.answered seen.user)) call
    { store := .empty } []
  have hpassed := (hseen.2.1 (call.withUser user) _ (.cons rfl (.cons rfl (.nil _)))).2
  have hhalted := hstopped.2.2.1 [demanding] _ _
    ⟨[], demanding, [identifying user], _, rfl, rfl, .nil _, rfl⟩
  exact ⟨congrArg (·.1) hpassed, congrArg (·.2.2) hpassed, congrArg (·.1) hhalted,
    congrArg (·.2.2) hhalted⟩

end Station
end ItemCatalog
