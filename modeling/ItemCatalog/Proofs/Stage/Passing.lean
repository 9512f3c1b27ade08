import ItemCatalog.Proofs.Service.Protocol
import ItemCatalog.Proofs.Stage.SideBySide

/-!
# Passing the stages

A call that passes the standard pipeline, with a book kept of it. Main statement: if the handler
keeps to a protocol, the call does, and however it comes to its result, the book is closed in the
same way: with the events of that result, and then the one of leaving (`keepsTo_call`).

## Main definitions

* `Outcome.settled`, `Result.outcome`: the result to which an outcome comes, and the outcome with
which a result passes metering.
* `Protocol.Inside`: in which states of its book a call passes the stages freely.
* `Pipeline.Closed`: how the book of a call is closed.
-/

namespace ItemCatalog
open Serving

variable {σ α β : Type} {P : Protocol σ} {In : σ → Prop} {s : σ} {Post : σ → β → Prop}

/-- What the caller gets for the outcome of a handler. -/
def Outcome.settled : Outcome α → Result α
  | .answered a => .replied a
  | .failed fault => .refused fault.toStatus
  | .panicked panic => .refused (Fault.ofPanic panic).toStatus

/-- The outcome for which the caller gets a result. -/
def Result.outcome : Result α → Outcome (Reply α)
  | .replied a => .answered (.expected a)
  | .refused status => .failed (.status status)
  | .escaped panic => .panicked panic

/-- Whether in certain states everything may be asked but storage, and nothing but the entering or
leaving of a call leads out of these states. -/
structure Protocol.Inside (P : Protocol σ) (In : σ → Prop) : Prop where
  asks : ∀ {s e}, In s → (∀ r, e ≠ .storage r) → P.asks s e
  record : ∀ {s event}, In s → event.flight? = none → In (P.record s event)

theorem Protocol.Inside.foldl (hi : P.Inside In) (hs : In s) {events : List Metrics.Event}
    (hflight : ∀ e ∈ events, e.flight? = none) : In (events.foldl P.record s) := by
  induction events generalizing s with
  | nil => exact hs
  | cons e rest ih =>
    have he : In (P.record s e) := hi.record hs (hflight e List.mem_cons_self)
    exact ih he fun e' he' => hflight e' (List.mem_cons_of_mem e he')

/-- The book of a call that records some events last, and leaves. -/
def Protocol.close (P : Protocol σ) (s : σ) (events : List Metrics.Event) : σ :=
  P.record (events.foldl P.record s) .leave

/-! ## Stages -/

namespace Stage

theorem keepsTo_logAll_bind (hi : P.Inside In) (hs : In s) (entries : List Log.Entry)
    {f : Unit → Serving β} (h : KeepsTo P Post s (f ())) :
    KeepsTo P Post s (logAll entries >>= f) := by
  induction entries with
  | nil => exact h
  | cons e rest ih => exact .ask (hi.asks hs nofun) fun _ _ => ih

theorem keepsTo_recordAll_bind (hi : P.Inside In) (hs : In s) {events : List Metrics.Event}
    (hflight : ∀ e ∈ events, e.flight? = none) {f : Unit → Serving β}
    (h : KeepsTo P Post (events.foldl P.record s) (f ())) :
    KeepsTo P Post s (recordAll events >>= f) := by
  induction events generalizing s with
  | nil => exact h
  | cons e rest ih =>
    have he : In (P.record s e) := hi.record hs (hflight e List.mem_cons_self)
    refine .ask (hi.asks hs nofun) fun _ _ => ?_
    exact ih he (fun e' he' => hflight e' (List.mem_cons_of_mem e he')) h

/-- What is recorded of the end of a call changes nothing about who is in flight. -/
theorem flight?_of_mem_endEvents {call : Call} {d : Nat} {outcome : Outcome (Reply α)}
    {e : Metrics.Event} (he : e ∈ endEvents call d outcome) : e.flight? = none := by
  cases outcome with
  | answered a =>
    simp only [endEvents, List.mem_cons, List.not_mem_nil, or_false] at he
    rcases he with rfl | rfl <;> rfl
  | failed fault =>
    simp only [endEvents, failureEvents, List.mem_append, List.mem_cons, List.not_mem_nil,
      or_false] at he
    rcases he with (rfl | rfl) | he
    · rfl
    · rfl
    · -- What else is recorded depends on the code, and is a rejection in each case.
      split at he
      · cases List.mem_singleton.1 he
        rfl
      · cases List.mem_singleton.1 he
        rfl
      · cases List.mem_singleton.1 he
        rfl
      · cases he
  | panicked panic => cases he

/-- What is recorded of the end of a call depends on its method only. -/
theorem endEvents_congr {call call' : Call} (h : call.SameRoute call') (d : Nat)
    (outcome : Outcome (Reply α)) : endEvents call d outcome = endEvents call' d outcome := by
  have hname : call.methodName = call'.methodName := congrArg Operation.methodName h.method
  cases outcome with
  | answered a => simp only [endEvents, hname, h.operation]
  | failed fault => simp only [endEvents, failureEvents, hname, h.operation]
  | panicked panic => rfl

/-- What metering finds when a call is through the rest of the stages: the call, still inside, with
the outcome of a result that is known to be right. -/
structure Through (In : σ → Prop) (Ended : σ → Result α → Prop) (call : Call) (s : σ)
    (ended : Call × Outcome (Reply α)) : Prop where
  route : ended.1.SameRoute call
  inside : In s
  result : ∃ r, Ended s r ∧ ended.2 = r.outcome

variable {Ended : σ → Result α → Prop} {call seen : Call} {handler : Call → Serving (Outcome α)}

/-- Behind containment a handler has come to the result in which its outcome settles. -/
theorem keepsTo_containment (hi : P.Inside In) (hroute : seen.SameRoute call)
    (h : KeepsTo P (fun s outcome => In s ∧ Ended s outcome.settled) s (handler seen)) :
    KeepsTo P (Through In Ended call) s
      (containment.wrap (Pipeline.endpoint handler) seen) := by
  refine KeepsTo.bind (KeepsTo.bind (h.mono ?_))
  rintro s outcome ⟨hs, hended⟩
  refine .done ?_
  cases outcome with
  | answered a => exact .done ⟨hroute, hs, _, hended, rfl⟩
  | failed fault =>
    exact keepsTo_log_bind (hi.asks hs nofun) (.done ⟨hroute, hs, _, hended, rfl⟩)
  | panicked panic =>
    exact keepsTo_log_bind (hi.asks hs nofun) (.done ⟨hroute, hs, _, hended, rfl⟩)

end Stage

/-! ## The standard pipeline -/

namespace Pipeline
open Stage
variable {Ended : σ → Result α → Prop} {call : Call} {handler : Call → Serving (Outcome α)}
  {validator : Option Validator}

theorem reached_of_error {validator : Validator} {refusal : Refusal}
    (h : Call.isPublic call.method = false) (hdecide : validator.decide call = .error refusal) :
    reached (some validator) call = none := by
  rw [reached, h, if_neg Bool.false_ne_true, hdecide]
  rfl

theorem call_standard_none (handler : Call → Serving (Outcome α)) :
    (standard none).call call handler = Serving.record .enter >>= fun _ =>
      containment.wrap (endpoint handler) call >>= fun ended => settle ended >>= conclude := by
  change metering.wrap (containment.wrap (endpoint handler)) call >>= conclude = _
  simp only [wrap_metering, bind_assoc]

/-- Whether the book of a call that has come to a result was closed with the events of that result,
in a state in which the result was known to be right. -/
def Closed (P : Protocol σ) (Ended : σ → Result α → Prop) (call : Call) (s : σ) (r : Result α) :
    Prop :=
  ∃ s' d, Ended s' r ∧ s = P.close s' (endEvents call d r.outcome)

/-- Metering closes the book, and the caller gets the result. -/
theorem keepsTo_conclude (hi : P.Inside In) {ended : Call × Outcome (Reply α)}
    (h : Through In Ended call s ended) :
    KeepsTo P (Closed P Ended call) s (settle ended >>= conclude) := by
  obtain ⟨call', outcome⟩ := ended
  obtain ⟨hroute, hs, r, hended, rfl⟩ := h
  refine KeepsTo.bind (keepsTo_elapsed_bind (hi.asks hs nofun) fun d => ?_)
  have hflight : ∀ e ∈ endEvents call' d r.outcome, e.flight? = none :=
    fun e he => flight?_of_mem_endEvents he
  refine keepsTo_recordAll_bind hi hs hflight ?_
  refine keepsTo_record_bind (hi.asks (hi.foldl hs hflight) nofun) (.done ?_)
  -- What is concluded from the outcome of a result is that result.
  have hclosed : Closed P Ended call (P.close s (endEvents call' d r.outcome)) r :=
    ⟨s, d, hended, by rw [endEvents_congr hroute]⟩
  cases r with
  | replied a => exact .done hclosed
  | refused status => exact .done hclosed
  | escaped panic => exact .done hclosed

/-- A call keeps to a protocol if its handler does. What is known of the result when the handler
ends, or when the gate turns the call away, is known of it when the book is closed. -/
theorem keepsTo_call (hi : P.Inside In) (henter : P.asks s (.record .enter))
    (hentered : In (P.record s .enter))
    (hhandler : ∀ seen, reached validator call = some seen →
      KeepsTo P (fun s outcome => In s ∧ Ended s outcome.settled) (P.record s .enter)
        (handler seen))
    (hrefused : reached validator call = none → ∀ v ∈ validator, ∀ refusal,
      v.decide call = .error refusal → Ended (P.record s .enter) (.refused refusal.status)) :
    KeepsTo P (Closed P Ended call) s ((standard validator).call call handler) := by
  have hcontained : ∀ seen, reached validator call = some seen →
      KeepsTo P (Through In Ended call) (P.record s .enter)
        (containment.wrap (endpoint handler) seen) := fun seen hseen =>
    keepsTo_containment hi (sameRoute_of_reached hseen) (hhandler seen hseen)
  cases validator with
  | none =>
    rw [call_standard_none]
    refine keepsTo_record_bind henter (KeepsTo.bind ((hcontained call rfl).mono ?_))
    exact fun _ _ => keepsTo_conclude hi
  | some validator =>
    rw [call_standard]
    refine keepsTo_record_bind henter (KeepsTo.bind ?_)
    refine KeepsTo.mono ?_ fun _ _ => keepsTo_conclude hi
    cases hopen : Call.isPublic call.method with
    | true =>
      rw [wrap_gate_of_isPublic hopen]
      exact hcontained call (reached_of_isPublic hopen)
    | false =>
      cases hdecide : validator.decide call with
      | ok user =>
        rw [wrap_gate_of_ok hopen hdecide]
        refine keepsTo_logAll_bind hi hentered _ (keepsTo_logAll_bind hi hentered _ ?_)
        exact hcontained _ (reached_of_ok hopen hdecide)
      | error refusal =>
        rw [wrap_gate_of_error hopen hdecide]
        refine keepsTo_logAll_bind hi hentered _ (keepsTo_logAll_bind hi hentered _ (.done ?_))
        have hended := hrefused (reached_of_error hopen hdecide) validator rfl refusal hdecide
        exact ⟨⟨rfl, rfl⟩, hentered, _, hended, rfl⟩

end Pipeline

/-! ## Calls of the service -/

/-- A call is opened before it asks storage for anything. -/
theorem Call.keepsTo_opened {path : String} {metadata : Metadata} {f : Call → Serving β}
    (hrandom : P.asks s .random) (h : ∀ id, KeepsTo P Post s (f (.start path metadata id))) :
    KeepsTo P Post s (Call.opened path metadata >>= f) := by
  rw [Call.opened]
  cases metadata.correlationId? with
  | some id => exact h id
  | none => exact .ask hrandom fun bits _ => h (.ofRandom bits)

/-- A call of a method keeps to a protocol if its handler does and if everything but storage may be
asked in the beginning. -/
theorem Service.keepsTo_serve {validator : Option Validator} {method : Method} {metadata : Metadata}
    {query : method.Query} {Ended : σ → Result method.Answer → Prop} (hi : P.Inside In)
    (hopen : ∀ e, (∀ r, e ≠ .storage r) → P.asks s e) (hentered : In (P.record s .enter))
    (hhandler : ∀ id seen,
      Pipeline.reached validator (.start method.path metadata id) = some seen →
        KeepsTo P (fun s outcome => In s ∧ Ended s outcome.settled) (P.record s .enter)
          (handler method query seen))
    (hrefused : ∀ id, Pipeline.reached validator (.start method.path metadata id) = none →
      ∀ v ∈ validator, ∀ refusal, v.decide (.start method.path metadata id) = .error refusal →
        Ended (P.record s .enter) (.refused refusal.status)) :
    KeepsTo P (fun s r => ∃ id, Pipeline.Closed P Ended (.start method.path metadata id) s r) s
      (serve validator method metadata query) := by
  refine Call.keepsTo_opened (hopen _ nofun) fun id => keepsTo_log_bind (hopen _ nofun) ?_
  have hcall := Pipeline.keepsTo_call hi (hopen _ nofun) hentered (hhandler id) (hrefused id)
  exact hcall.mono fun _ _ hclosed => ⟨id, hclosed⟩

end ItemCatalog
