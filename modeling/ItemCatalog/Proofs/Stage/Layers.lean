import ItemCatalog.Proofs.Stage.Passing

/-!
# Layers of metering and containment

Pipelines that are made of these two stages only, in any number and order, around any handler. Main
statement: what the caller gets depends on the outcome of the handler, and on the stages only if
that is a panic, and then only on whether there is a containment at all; what is metered of any
other outcome does not depend on where the containments stand (`faults_translate_once`).

## Main definitions

* `Layer`, `Pipeline.ofLayers`: the two stages, and a pipeline of them.
* `Outcome.contained`, `Outcome.passed`: an outcome behind one containment, and behind layers.
* `closing`: what the layers record of an outcome.
* `Pipeline.reported`: what the caller gets for an outcome behind layers.
-/

namespace ItemCatalog
open Serving Service

/-- A stage that meters or contains. -/
inductive Layer
  | metering
  | containment
deriving DecidableEq

/-- The stage that a layer is. -/
def Layer.stage {α : Type} : Layer → Stage α
  | metering => Stage.metering
  | containment => Stage.containment

/-- A pipeline of layers. -/
def Pipeline.ofLayers {α : Type} (layers : List Layer) : Pipeline α := layers.map Layer.stage

/-! ## Outcomes -/

namespace Outcome
variable {α : Type}

/-- An outcome behind containment. -/
def contained (outcome : Outcome (Reply α)) : Outcome (Reply α) :=
  match Stage.contained? outcome with
  | .ok answer => .answered answer
  | .error fault => .failed (.status fault.toStatus)

/-- Containing twice is containing once. -/
@[simp] theorem contained_contained (outcome : Outcome (Reply α)) :
    outcome.contained.contained = outcome.contained := by
  cases outcome <;> rfl

@[simp] theorem isPanic_map {β : Type} (f : α → β) (outcome : Outcome α) :
    (outcome.map f).isPanic = outcome.isPanic := by
  cases outcome <;> rfl

/-- An outcome behind layers: contained if any of them contains. -/
def passed (layers : List Layer) (outcome : Outcome (Reply α)) : Outcome (Reply α) :=
  if .containment ∈ layers then outcome.contained else outcome

@[simp] theorem passed_metering (layers : List Layer) (outcome : Outcome (Reply α)) :
    outcome.passed (.metering :: layers) = outcome.passed layers := by
  simp [passed]

@[simp] theorem passed_containment (layers : List Layer) (outcome : Outcome (Reply α)) :
    outcome.passed (.containment :: layers) = (outcome.passed layers).contained := by
  rw [passed, passed, if_pos List.mem_cons_self]
  split
  · rw [contained_contained]
  · rfl

end Outcome

/-- Metering records the same of a fault and of its status. -/
theorem Stage.endEvents_contained {α : Type} (call : Call) (d : Nat) {outcome : Outcome (Reply α)}
    (h : outcome.isPanic = false) :
    endEvents call d outcome.contained = endEvents call d outcome := by
  cases outcome with
  | answered a => rfl
  | failed fault => exact congrArg (failureEvents call · d) fault.code_toStatus
  | panicked panic => cases h

/-! ## Runs -/

namespace Service

/-- A trail before which something else was recorded. -/
def Trail.prepend (t : Trail) (events : List Metrics.Event) : Trail :=
  { t with recorded := events ++ t.recorded }

namespace Circumstances
variable {α : Type} (c : Circumstances)

theorem respond_prepend (e : Effect) (events : List Metrics.Event) (t : Trail) :
    c.respond e (t.prepend events) = ((c.respond e t).1, (c.respond e t).2.prepend events) := by
  cases e with
  | record event =>
    have hrecord : (t.prepend events).record event = (t.record event).prepend events := by
      simp only [Trail.prepend, Trail.record, List.append_assoc]
    exact congrArg (Prod.mk ()) hrecord
  | _ => rfl

/-- What was recorded before makes no difference to a call. -/
theorem run_prepend (p : Serving α) (events : List Metrics.Event) (t : Trail) :
    c.run p (t.prepend events) = ((c.run p t).1, (c.run p t).2.prepend events) := by
  induction p generalizing t with
  | done a => rfl
  | ask e k ih =>
    change c.run (k (c.respond e (t.prepend events)).1) (c.respond e (t.prepend events)).2 = _
    rw [respond_prepend]
    exact ih _ _

/-- Events that are recorded one after another. -/
theorem run_recordAll (events : List Metrics.Event) (t : Trail) :
    c.run (Stage.recordAll events) t = ((), { t with recorded := t.recorded ++ events }) := by
  induction events generalizing t with
  | nil =>
    rw [List.append_nil]
    rfl
  | cons e rest ih =>
    change c.run (Stage.recordAll rest) (t.record e) = _
    rw [ih, Trail.record, List.append_assoc, List.singleton_append]

theorem run_bind {β : Type} (p : Serving α) (f : α → Serving β) (t : Trail) :
    c.run (p >>= f) t = c.run (f (c.run p t).1) (c.run p t).2 :=
  Program.run_bind c.respond p f t

end Circumstances
end Service

/-! ## Stages -/

namespace Stage
variable {α : Type} (c : Circumstances) {next : Handling α} {call : Call} {t : Trail}

theorem run_containment (next : Handling α) (call : Call) (t : Trail) :
    c.run (containment.wrap next call) t =
      (((c.run (next call) t).1.1, (c.run (next call) t).1.2.contained),
        (c.run (next call) t).2) := by
  change c.run (next call >>= _) t = _
  rw [Circumstances.run_bind]
  rcases c.run (next call) t with ⟨⟨call, outcome⟩, t'⟩
  cases outcome <;> rfl

/-- What metering leaves of a call that ends with an outcome. -/
def settled (c : Circumstances) (call : Call) (outcome : Outcome (Reply α)) (t : Trail) : Trail :=
  { t.measure with
    recorded := t.recorded ++ endEvents call (c.nanos t.measured) outcome ++ [.leave] }

theorem run_metering (next : Handling α) (call : Call) (t : Trail) :
    c.run (metering.wrap next call) t =
      ((c.run (next call) (t.record .enter)).1,
        settled c (c.run (next call) (t.record .enter)).1.1
          (c.run (next call) (t.record .enter)).1.2 (c.run (next call) (t.record .enter)).2) := by
  rw [wrap_metering, Circumstances.run_bind]
  change c.run (next call >>= settle) (t.record .enter) = _
  rw [Circumstances.run_bind]
  rcases c.run (next call) (t.record .enter) with ⟨ended, t'⟩
  change c.run (recordAll _ >>= _) t'.measure = _
  rw [Circumstances.run_bind, Circumstances.run_recordAll]
  rfl

/-- What metering leaves, durations aside. -/
theorem timeless_settled (c : Circumstances) (call : Call) (outcome : Outcome (Reply α))
    (t : Trail) :
    (settled c call outcome t).recorded.map Metrics.Event.timeless =
      t.recorded.map Metrics.Event.timeless ++
        ((endEvents call 0 outcome).map Metrics.Event.timeless ++ [.leave]) := by
  rw [settled, List.map_append, List.map_append, timeless_endEvents ⟨rfl, rfl⟩ _ 0,
    List.append_assoc]
  rfl

/-- What layers record of an outcome, the innermost first, durations aside. -/
def closing (call : Call) (outcome : Outcome (Reply α)) : List Layer → List Metrics.Event
  | [] => []
  | .containment :: rest => closing call outcome rest
  | .metering :: rest =>
    closing call outcome rest ++
      ((endEvents call 0 (outcome.passed rest)).map Metrics.Event.timeless ++ [.leave])

/-- Of an outcome that is not a panic each metering records the same. -/
theorem closing_eq {call : Call} {outcome : Outcome (Reply α)} (h : outcome.isPanic = false)
    (layers : List Layer) :
    closing call outcome layers = (List.replicate (layers.count Layer.metering)
      ((endEvents call 0 outcome).map Metrics.Event.timeless ++ [.leave])).flatten := by
  induction layers with
  | nil => rfl
  | cons layer rest ih =>
    cases layer with
    | containment =>
      rw [closing, ih, List.count_cons_of_ne (by decide)]
    | metering =>
      have hpassed : endEvents call 0 (outcome.passed rest) = endEvents call 0 outcome := by
        rw [Outcome.passed]
        split
        · exact endEvents_contained call 0 h
        · rfl
      rw [closing, ih, hpassed, List.count_cons_self, List.replicate_succ', List.flatten_concat]

end Stage

namespace Pipeline
open Stage
variable {α : Type} (c : Circumstances) (handler : Call → Serving (Outcome α)) (call : Call)

/-- What a call has come to behind layers, and what they have recorded before and after what the
handler did by itself. -/
theorem run_around (layers : List Layer) (before : List Metrics.Event) :
    let alone := c.run (handler call)
    let ended := c.run ((ofLayers layers).around (endpoint handler) call) (Trail.prepend {} before)
    ended.1 = (call, (alone.1.map .expected).passed layers) ∧
      ended.2.recorded.map Metrics.Event.timeless =
        (before ++ List.replicate (layers.count Layer.metering) Metrics.Event.enter ++
          alone.2.recorded).map Metrics.Event.timeless ++
            closing call (alone.1.map .expected) layers := by
  intro alone
  induction layers generalizing before with
  | nil =>
    intro ended
    have hended : ended = ((call, alone.1.map .expected), alone.2.prepend before) := by
      change c.run (handler call >>= _) _ = _
      rw [Circumstances.run_bind, Circumstances.run_prepend]
      rfl
    rw [hended]
    refine ⟨rfl, ?_⟩
    simp [Trail.prepend, closing]
  | cons layer rest ih =>
    intro ended
    cases layer with
    | containment =>
      obtain ⟨hresult, hrecorded⟩ := ih before
      have hended : ended = _ :=
        run_containment c ((ofLayers rest).around (endpoint handler)) call _
      rw [hended, hresult]
      refine ⟨?_, ?_⟩
      · rw [Outcome.passed_containment]
      · rw [closing, List.count_cons_of_ne (by decide)]
        exact hrecorded
    | metering =>
      have henter :
          (Trail.prepend {} before).record .enter = Trail.prepend {} (before ++ [.enter]) := by
        simp only [Trail.prepend, Trail.record, List.append_nil]
      obtain ⟨hresult, hrecorded⟩ := ih (before ++ [.enter])
      have hended : ended = _ := run_metering c ((ofLayers rest).around (endpoint handler)) call _
      rw [hended, henter, hresult]
      refine ⟨?_, ?_⟩
      · rw [Outcome.passed_metering]
      · rw [timeless_settled, hrecorded, closing, List.count_cons_self, List.replicate_succ]
        simp only [List.append_assoc, List.cons_append, List.nil_append]

/-- What the caller gets for an outcome behind layers. -/
def reported (layers : List Layer) : Outcome α → Result α
  | .answered a => .replied a
  | .failed fault => .refused fault.toStatus
  | .panicked panic =>
    if .containment ∈ layers then .refused (Fault.unclassifiedStatus Fault.panicKind)
    else .escaped panic

/-- The layers matter for a panic only, and what matters of them is whether any contains. -/
theorem reported_congr {layers others : List Layer} {outcome : Outcome α}
    (h : outcome.isPanic = true →
      (Layer.containment ∈ layers ↔ Layer.containment ∈ others)) :
    reported layers outcome = reported others outcome := by
  cases outcome with
  | answered a => rfl
  | failed fault => rfl
  | panicked panic => simp only [reported, h rfl]

theorem run_conclude_passed (layers : List Layer) (outcome : Outcome α) (t : Trail) :
    c.run (conclude (call, (outcome.map .expected).passed layers)) t =
      (reported layers outcome, t) := by
  rw [Outcome.passed]
  cases outcome with
  | answered a => split <;> rfl
  | failed fault => split <;> rfl
  | panicked panic =>
    rw [reported]
    split <;> rfl

/-- What a call through layers comes to, and what they record. -/
theorem run_call (layers : List Layer) :
    let alone := c.run (handler call)
    let ended := c.run ((ofLayers layers).call call handler)
    ended.1 = reported layers alone.1 ∧
    ended.2.recorded.map Metrics.Event.timeless =
      (List.replicate (layers.count Layer.metering) Metrics.Event.enter ++
        alone.2.recorded).map Metrics.Event.timeless ++
          closing call (alone.1.map .expected) layers := by
  intro alone ended
  obtain ⟨hresult, hrecorded⟩ := run_around c handler call layers []
  have hended : ended = c.run (conclude _) _ := Circumstances.run_bind c _ conclude {}
  change (c.run ((ofLayers layers).around (endpoint handler) call) {}).1 = _ at hresult
  rw [hresult, run_conclude_passed] at hended
  rw [hended]
  exact ⟨rfl, hrecorded⟩

/-- Whatever metering and containment stages stand around a handler, in whatever order: an answer
reaches the caller as it is, and a fault as its status, which is unchanged where the handler has
made it itself. A panic reaches the caller as the status of its kind if there is a containment. Where
there is one, more stages make no difference to what the caller gets, and neither does their absence
where the handler does not panic; then the metrics, durations aside, depend only on how many stages
meter. -/
theorem faults_translate_once {α : Type} (c : Circumstances) (call : Call)
    (handler : Call → Serving (Outcome α)) (layers : List Layer) :
    let through (layers : List Layer) := c.run ((ofLayers layers).call call handler)
    let outcome := (c.run (handler call)).1
    (∀ a, outcome = .answered a → (through layers).1 = .replied a) ∧
    (∀ fault, outcome = .failed fault → (through layers).1 = .refused fault.toStatus) ∧
    (∀ status, outcome = .failed (.status status) → (through layers).1 = .refused status) ∧
    (∀ panic, outcome = .panicked panic → (through layers).1 =
      if .containment ∈ layers then .refused (Fault.unclassifiedStatus "panic")
      else .escaped panic) ∧
    (∀ more, layers.Sublist more → .containment ∈ layers →
      (through more).1 = (through layers).1) ∧
    (outcome.isPanic = false →
      (through (layers.filter (· ≠ .containment))).1 = (through layers).1 ∧
      ∀ others m, others.count Layer.metering = layers.count Layer.metering →
        ((through others).2.metrics m).timeless = ((through layers).2.metrics m).timeless) := by
  intro through outcome
  have hresult (layers : List Layer) : (through layers).1 = reported layers outcome :=
    (run_call c handler call layers).1
  refine ⟨?answered, ?failed, ?status, ?panicked, ?more, fun hpanic => ⟨?fewer, ?metered⟩⟩
  case answered => exact fun a h => by rw [hresult, h, reported]
  case failed => exact fun fault h => by rw [hresult, h, reported]
  case status => exact fun status h => by rw [hresult, h, reported, Fault.toStatus]
  case panicked => exact fun panic h => by rw [hresult, h, reported, Fault.panicKind]
  case more =>
    intro more hmore hcontained
    rw [hresult, hresult]
    exact reported_congr fun _ => ⟨fun _ => hcontained, fun _ => hmore.subset hcontained⟩
  case fewer =>
    rw [hresult, hresult]
    exact reported_congr fun h => absurd (h.symm.trans hpanic) (by decide)
  case metered =>
    intro others m hcount
    have hkind : (outcome.map Reply.expected).isPanic = false := by
      rwa [Outcome.isPanic_map]
    have hrecorded : (through others).2.recorded.map Metrics.Event.timeless =
        (through layers).2.recorded.map Metrics.Event.timeless := by
      rw [(run_call c handler call others).2, (run_call c handler call layers).2,
        closing_eq hkind, closing_eq hkind, hcount]
    rw [Trail.timeless_metrics, Trail.timeless_metrics, hrecorded]

/-- Of a handler that fails one metering records the same within a containment and around it. -/
theorem failure_within_and_around :
    let c := Circumstances.over Storage.Table.backend ⟨5, 0⟩ ⟨7⟩ .empty (fun _ => 0) fun n => n
    let call := Call.start "/catalog/Get" ⟨[]⟩ ⟨1⟩
    let handler : Call → Serving (Outcome Nat) :=
      fun _ => pure (.failed (.failure (.missing "Item" "7")))
    let through (layers : List Layer) := c.run ((ofLayers layers).call call handler)
    (through [.metering, .containment]).1 =
        .refused (Fault.failure (.missing "Item" "7")).toStatus ∧
      ((through [.containment, .metering]).2.metrics .empty).timeless =
        ((through [.metering, .containment]).2.metrics .empty).timeless := by
  intro c call handler through
  obtain ⟨-, hfailed, -, -, -, hfault⟩ :=
    faults_translate_once c call handler [.metering, .containment]
  obtain ⟨-, hmetered⟩ := hfault rfl
  exact ⟨hfailed _ rfl, hmetered [.containment, .metering] .empty (by decide)⟩

end Pipeline
end ItemCatalog
