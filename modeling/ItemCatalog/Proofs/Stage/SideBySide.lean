import ItemCatalog.Proofs.Service.Resembles
import ItemCatalog.Proofs.Stage.Admission

/-!
# Two calls in the pipeline

Two calls of one method pass the standard pipeline side by side. Main statement: if the same comes
of their authorization, and their handlers resemble each other wherever they are started, then so do
the calls, and they come to the same result (`resembles_call`).

## Main definitions

* `Outcome.Alike`: whether two outcomes differ in what is meant for the log at most.
* `Admission`, `Validator.admission`: what comes of the authorization of a call.
* `Pipeline.reached`: the call with which a handler is started.
-/

namespace ItemCatalog
open Serving

/-! ## Outcomes -/

/-- Whether two outcomes are the same but for what is meant for the log alone: the wording and the
source of a failure of storage, the message of a fault that is not classified, and what a panic
carries. -/
inductive Outcome.Alike {α : Type} : Outcome α → Outcome α → Prop
  | same (outcome : Outcome α) : Alike outcome outcome
  | storage (op : Operation) (message message' : String) (source source' : Option String) :
      Alike (.failed (.failure (.storage op message source)))
        (.failed (.failure (.storage op message' source')))
  | unclassified (kind message message' : String) :
      Alike (.failed (.unclassified kind message)) (.failed (.unclassified kind message'))
  | panicked (panic panic' : Panic) : Alike (.panicked panic) (.panicked panic')

theorem Outcome.Alike.map {α β : Type} {o o' : Outcome α} (h : o.Alike o') (f : α → β) :
    (o.map f).Alike (o'.map f) := by
  cases h with
  | same outcome => exact .same _
  | storage op message message' source source' => exact .storage op message message' source source'
  | unclassified kind message message' => exact .unclassified kind message message'
  | panicked panic panic' => exact .panicked panic panic'

/-! ## The gate -/

/-- What comes of the authorization of a call. -/
inductive Admission
  | noToken
  | badToken
  | validatorPanicked
  | notAllowed
  | allowed
deriving DecidableEq

/-- The status with which a call is turned away that is about an operation, if it is. -/
def Admission.status? (op : Operation) : Admission → Option Status
  | noToken => some Refusal.noToken.status
  | badToken => some Refusal.badToken.status
  | validatorPanicked => some Refusal.validatorPanicked.status
  | notAllowed =>
    some ⟨.permissionDenied, "Insufficient permissions for " ++ op.name ++ " operation", .empty⟩
  | allowed => none

namespace Validator

/-- What comes of the authorization of a call with some metadata that is about an operation. -/
def admission (validator : Validator) (metadata : Metadata) (op : Operation) : Admission :=
  match metadata.bearer? with
  | none => .noToken
  | some token =>
    match validator.judge token with
    | .rejected => .badToken
    | .panicked => .validatorPanicked
    | .accepted user => if user.allows op then .allowed else .notAllowed

/-- The decision about a call shows what comes of its authorization. -/
theorem status?_admission (validator : Validator) (call : Call) :
    (validator.admission call.metadata call.operation).status? call.operation =
      match validator.decide call with
      | .ok _ => none
      | .error refusal => some refusal.status := by
  cases htoken : call.metadata.bearer? with
  | none =>
    rw [decide_of_none htoken, admission, htoken]
    rfl
  | some token =>
    cases hjudge : validator.judge token with
    | rejected =>
      rw [decide_of_rejected htoken hjudge]
      simp only [admission, htoken, hjudge]
      rfl
    | panicked =>
      rw [decide_of_panicked htoken hjudge]
      simp only [admission, htoken, hjudge]
      rfl
    | accepted user =>
      rw [decide_of_accepted htoken hjudge]
      simp only [admission, htoken, hjudge]
      cases user.allows call.operation <;> rfl

end Validator

/-- Whether two calls are of one method and so about one operation. -/
structure Call.SameRoute (call call' : Call) : Prop where
  method : call.method = call'.method
  operation : call.operation = call'.operation

namespace Call.SameRoute
variable {call call' call'' : Call}

theorem symm (h : call.SameRoute call') : call'.SameRoute call :=
  ⟨h.method.symm, h.operation.symm⟩

theorem trans (h : call.SameRoute call') (h' : call'.SameRoute call'') : call.SameRoute call'' :=
  ⟨h.method.trans h'.method, h.operation.trans h'.operation⟩

end Call.SameRoute

/-- Whether two calls ended in related ways. -/
structure Stage.Alongside {α : Type} (R : Outcome (Reply α) → Outcome (Reply α) → Prop)
    (x y : Call × Outcome (Reply α)) : Prop where
  route : x.1.SameRoute y.1
  outcome : R x.2 y.2

/-- The call with which a handler behind the gate, if there is one, is started, if it is. -/
def Pipeline.reached (validator : Option Validator) (call : Call) : Option Call :=
  match validator with
  | none => some call
  | some validator =>
    if Call.isPublic call.method then some call
    else (validator.decide call).toOption.map call.withUser

namespace Pipeline
variable {validator : Validator} {call seen : Call} {user : User}

theorem reached_of_isPublic (h : Call.isPublic call.method = true) :
    reached (some validator) call = some call := if_pos h

theorem reached_of_ok (h : Call.isPublic call.method = false)
    (hdecide : validator.decide call = .ok user) :
    reached (some validator) call = some (call.withUser user) := by
  rw [reached, h, if_neg Bool.false_ne_true, hdecide]
  rfl

theorem sameRoute_of_reached {validator : Option Validator}
    (h : reached validator call = some seen) : seen.SameRoute call := by
  cases validator with
  | none =>
    cases h
    exact ⟨rfl, rfl⟩
  | some validator =>
    rw [reached] at h
    split at h
    · cases h
      exact ⟨rfl, rfl⟩
    · obtain ⟨user, _, rfl⟩ := Option.map_eq_some_iff.1 h
      exact ⟨rfl, rfl⟩

end Pipeline

/-! ## Stages -/

namespace Stage
open Pipeline
variable {α β γ : Type} {R : β → γ → Prop} {next next' : Handling α} {call call' : Call}

theorem resembles_logAll_bind (entries entries' : List Log.Entry) {f : Unit → Serving β}
    {g : Unit → Serving γ} (h : (f ()).Resembles R (g ())) :
    (logAll entries >>= f).Resembles R (logAll entries' >>= g) := by
  -- Nothing is seen of either list, so first one is used up and then the other.
  induction entries with
  | cons e rest ih => exact .left rfl fun _ => ih
  | nil =>
    induction entries' with
    | cons e rest ih => exact .right rfl fun _ => ih
    | nil => exact h

theorem resembles_recordAll_bind {events events' : List Metrics.Event} {f : Unit → Serving β}
    {g : Unit → Serving γ}
    (hevents : events.map Metrics.Event.timeless = events'.map Metrics.Event.timeless)
    (h : (f ()).Resembles R (g ())) :
    (recordAll events >>= f).Resembles R (recordAll events' >>= g) := by
  induction events generalizing events' with
  | nil =>
    rw [List.map_nil, eq_comm, List.map_eq_nil_iff] at hevents
    rw [hevents]
    exact h
  | cons e rest ih =>
    obtain ⟨e', rest', rfl, he, hrest⟩ := List.map_eq_cons_iff.1 hevents.symm
    exact .record he.symm (ih hrest.symm)

theorem timeless_endEvents (h : call.SameRoute call') (d d' : Nat) (outcome : Outcome (Reply α)) :
    (endEvents call d outcome).map Metrics.Event.timeless =
      (endEvents call' d' outcome).map Metrics.Event.timeless := by
  have hname : call.methodName = call'.methodName := congrArg Operation.methodName h.method
  cases outcome with
  | answered a =>
    simp only [endEvents, hname, h.operation, List.map_cons, Metrics.Event.timeless]
  | failed fault =>
    simp only [endEvents, failureEvents, hname, h.operation, List.map_append, List.map_cons,
      Metrics.Event.timeless]
  | panicked panic => rfl

/-- Metering records the same of calls that end alike. -/
theorem resembles_metering (h : (next call).Resembles (Alongside Eq) (next' call')) :
    (metering.wrap next call).Resembles (Alongside Eq) (metering.wrap next' call') := by
  rw [wrap_metering, wrap_metering]
  refine resembles_record_bind rfl (h.bind ?_)
  rintro ⟨call, outcome⟩ ⟨call', _⟩ ⟨hroute, rfl⟩
  refine resembles_elapsed_bind fun d d' => ?_
  refine resembles_recordAll_bind (timeless_endEvents hroute d d' outcome) ?_
  exact resembles_record_bind rfl (.done ⟨hroute, rfl⟩)

/-- Containment takes out of an outcome what is meant for the log. -/
theorem resembles_containment (h : (next call).Resembles (Alongside Outcome.Alike) (next' call')) :
    (containment.wrap next call).Resembles (Alongside Eq) (containment.wrap next' call') := by
  refine h.bind ?_
  rintro ⟨call, outcome⟩ ⟨call', outcome'⟩ ⟨hroute, halike⟩
  cases halike with
  | same outcome =>
    dsimp only
    cases contained? outcome with
    | ok answer => exact .done ⟨hroute, rfl⟩
    | error fault => exact resembles_log_bind (.done ⟨hroute, rfl⟩)
  | storage op message message' source source' => exact resembles_log_bind (.done ⟨hroute, rfl⟩)
  | unclassified kind message message' => exact resembles_log_bind (.done ⟨hroute, rfl⟩)
  | panicked panic panic' => exact resembles_log_bind (.done ⟨hroute, rfl⟩)

/-- Calls of whose authorization the same comes are turned away alike, or go on side by side. -/
theorem resembles_gate {validator : Validator} (hroute : call.SameRoute call')
    (hadmission : validator.admission call.metadata call.operation =
      validator.admission call'.metadata call'.operation)
    (hnext : ∀ seen seen', reached (some validator) call = some seen →
      reached (some validator) call' = some seen' →
        (next seen).Resembles (Alongside Eq) (next' seen')) :
    ((gate validator).wrap next call).Resembles (Alongside Eq)
      ((gate validator).wrap next' call') := by
  cases hopen : Call.isPublic call.method with
  | true =>
    have hopen' : Call.isPublic call'.method = true := hroute.method ▸ hopen
    rw [wrap_gate_of_isPublic hopen, wrap_gate_of_isPublic hopen']
    exact hnext call call' (reached_of_isPublic hopen) (reached_of_isPublic hopen')
  | false =>
    have hopen' : Call.isPublic call'.method = false := hroute.method ▸ hopen
    -- The status that each call is turned away with, if it is, depends on what comes of both only.
    have hstatus := validator.status?_admission call
    rw [hadmission, hroute.operation, Validator.status?_admission] at hstatus
    cases hdecide : validator.decide call with
    | error refusal =>
      cases hdecide' : validator.decide call' with
      | ok user =>
        rw [hdecide, hdecide'] at hstatus
        cases hstatus
      | error refusal' =>
        rw [hdecide, hdecide', Option.some.injEq] at hstatus
        rw [wrap_gate_of_error hopen hdecide, wrap_gate_of_error hopen' hdecide', hstatus]
        exact resembles_logAll_bind _ _ (resembles_logAll_bind _ _ (.done ⟨hroute, rfl⟩))
    | ok user =>
      cases hdecide' : validator.decide call' with
      | error refusal =>
        rw [hdecide, hdecide'] at hstatus
        cases hstatus
      | ok user' =>
        rw [wrap_gate_of_ok hopen hdecide, wrap_gate_of_ok hopen' hdecide']
        refine resembles_logAll_bind _ _ (resembles_logAll_bind _ _ ?_)
        exact hnext _ _ (reached_of_ok hopen hdecide) (reached_of_ok hopen' hdecide')

end Stage

/-! ## The standard pipeline -/

namespace Pipeline
open Stage
variable {α : Type} {call call' : Call} {handler handler' : Call → Serving (Outcome α)}

theorem resembles_endpoint (hroute : call.SameRoute call')
    (h : (handler call).Resembles Outcome.Alike (handler' call')) :
    (endpoint handler call).Resembles (Alongside Outcome.Alike) (endpoint handler' call') :=
  h.bind fun _ _ halike => .done ⟨hroute, halike.map Reply.expected⟩

theorem resembles_conclude {x y : Call × Outcome (Reply α)} (h : Alongside Eq x y) :
    (conclude x).Resembles Eq (conclude y) := by
  obtain ⟨call, outcome⟩ := x
  obtain ⟨call', outcome'⟩ := y
  obtain rfl : outcome = outcome' := h.outcome
  match outcome with
  | .answered (.expected a) => exact .done rfl
  | .answered .foreign => exact resembles_event_bind (.done rfl)
  | .failed fault => exact .done rfl
  | .panicked panic => exact .done rfl

/-- Calls of one method of whose authorization the same comes come to the same result and record the
same, durations aside, if their handlers resemble each other. -/
theorem resembles_call {validator : Option Validator} (hroute : call.SameRoute call')
    (hadmission : ∀ v ∈ validator,
      v.admission call.metadata call.operation = v.admission call'.metadata call'.operation)
    (hhandler : ∀ seen seen', reached validator call = some seen →
      reached validator call' = some seen' →
        (handler seen).Resembles Outcome.Alike (handler' seen')) :
    ((standard validator).call call handler).Resembles Eq
      ((standard validator).call call' handler') := by
  have hcontained : ∀ seen seen', reached validator call = some seen →
      reached validator call' = some seen' →
        (containment.wrap (endpoint handler) seen).Resembles (Alongside Eq)
          (containment.wrap (endpoint handler') seen') := by
    intro seen seen' hseen hseen'
    have hsame : seen.SameRoute seen' :=
      (sameRoute_of_reached hseen).trans (hroute.trans (sameRoute_of_reached hseen').symm)
    exact resembles_containment (resembles_endpoint hsame (hhandler seen seen' hseen hseen'))
  cases validator with
  | none =>
    have hmetered := resembles_metering (hcontained call call' rfl rfl)
    exact hmetered.bind fun _ _ => resembles_conclude
  | some validator =>
    have hgated := resembles_gate hroute (hadmission validator rfl) hcontained
    exact (resembles_metering hgated).bind fun _ _ => resembles_conclude

end Pipeline
end ItemCatalog
