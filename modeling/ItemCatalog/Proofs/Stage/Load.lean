import ItemCatalog.Proofs.Metrics.Tally
import Mathlib.Algebra.BigOperators.Ring.Finset

/-!
# Calls that are metered side by side

Any number of calls that pass the standard pipeline, each with a handler of its own. Each of their
questions is answered by itself, in any order and with any answer, so handlers may come to anything.
Main statement: the metrics show how many calls are in flight, and when none is, they add up to the
statuses that the callers have received (`Load.metrics_balance`).

## Main definitions

* `Passage`: a call that is to pass the standard pipeline, with its handler.
* `Load`: the calls under way, and what they have recorded.
* `Load.tick`, `Load.run`: one question answered, and many.
-/

namespace ItemCatalog
open Serving

/-- Everything may be asked, but nothing recorded except how long storage took. -/
def Protocol.timing : Protocol Unit where
  asks _ e := ∀ event, e = .record event → ∃ op duration, event = .database op duration

/-- A call that is to pass the standard pipeline. Its handler records nothing but how long storage
took. -/
structure Passage where
  Answer : Type
  path : String
  metadata : Metadata := .empty
  correlationId : Identifier := .nil
  handler : Call → Serving (Outcome Answer)
  timed : ∀ seen, KeepsTo .timing (fun _ _ => True) () (handler seen)

namespace Passage

/-- The last segment of the path. -/
def name (p : Passage) : String := Operation.methodName p.path

/-- The call before it enters the pipeline. -/
def call (p : Passage) : Call := .start p.path p.metadata p.correlationId

/-- The call with what comes after it, down to the label of the status that the caller receives. -/
def program (validator : Option Validator) (p : Passage) : Serving (Option String) := do
  let r ← (Pipeline.standard validator).call p.call p.handler
  return r.label?

end Passage

/-- Answers to everything that may be asked. -/
abbrev Answers := (e : Effect) → e.Answer

/-- Calls that are metered together: what each has still to do, and what has been recorded. -/
structure Load (ι : Type) where
  rest : ι → Serving (Option String)
  metrics : Metrics := .empty

namespace Load
variable {ι : Type} [DecidableEq ι]

/-- All calls before their first question. -/
def start (validator : Option Validator) (calls : ι → Passage) : Load ι where
  rest i := (calls i).program validator

/-- The next question of a call is answered, if it has any. -/
def tick (w : Load ι) (i : ι) (answers : Answers) : Load ι :=
  match w.rest i with
  | .done _ => w
  | .ask e resume =>
    { rest := Function.update w.rest i (resume (answers e)), metrics := w.metrics.after e }

/-- Questions of calls answered one after another. -/
def run (w : Load ι) (ticks : List (ι × Answers)) : Load ι :=
  ticks.foldl (fun w t => w.tick t.1 t.2) w

/-- Whether a call has ended. -/
def isDone (w : Load ι) (i : ι) : Bool :=
  match w.rest i with
  | .done _ => true
  | .ask .. => false

/-- The label of the status that the caller of a call has received, if it has received one. -/
def received? (w : Load ι) (i : ι) : Option String :=
  match w.rest i with
  | .done label => label
  | .ask .. => none

end Load

/-! ## One call -/

namespace Metrics.Tally

/-- A call enters before it asks anything else, and asks nothing more when it has left. -/
def protocol : Protocol Tally where
  asks t e := (t.entered = 0 ∧ e = .record .enter) ∨ (t.entered = 1 ∧ t.left = 0)
  record := record

theorem admits_protocol (t : Tally) (e : Effect) (x : e.Answer) : protocol.admits t e x := by
  cases e <;> exact trivial

theorem next_protocol (t : Tally) (e : Effect) (x : e.Answer) :
    protocol.next t e x = t.after e := by
  cases e <;> rfl

/-- Whether a call has entered and not left. -/
def Within (t : Tally) : Prop := t.entered = 1 ∧ t.left = 0

theorem inside_protocol : protocol.Inside Within where
  asks h _ := .inr h
  record {t event} h hflight := by
    cases event with
    | enter => cases hflight
    | leave => cases hflight
    | _ => exact h

/-- A call that closes its tally has entered once and left once. -/
theorem close_protocol {t : Tally} (ht : t.Within) {events : List Event}
    (hflight : ∀ e ∈ events, e.flight? = none) :
    protocol.close t events = ⟨1, 1, t.counted ++ events.flatMap Event.counted⟩ := by
  obtain ⟨entered, left, counted⟩ := t
  obtain ⟨rfl, rfl⟩ := ht
  change (events.foldl record _).record .leave = _
  rw [foldl_record _ hflight]
  rfl

/-- Whether a call has entered and left, and counts as one of the status that its caller got. -/
structure Ended (p : Passage) (t : Tally) (label : Option String) : Prop where
  entered : t.entered = 1
  left : t.left = 1
  counts : ∃ l, label = some l ∧ CountsAs t.counted p.name (.ofMethodName p.name) l

end Metrics.Tally

namespace Passage
open Metrics (Tally)

/-- Behind the gate a handler counts in no series. -/
theorem keepsTo_handler (p : Passage) (seen : Call) {t : Tally} (ht : t.Within)
    (hcounted : t.counted = []) :
    KeepsTo Tally.protocol (fun t _ => t.Within ∧ t.counted = []) t (p.handler seen) := by
  have hsimulate := (p.timed seen).simulate (P := Tally.protocol)
    (R := fun _ t => t.Within ∧ t.counted = []) ⟨ht, hcounted⟩ ?_
  · exact hsimulate.mono fun t _ ⟨_, h, _⟩ => h
  · rintro _ t e ⟨ht, hcounted⟩ hasks
    refine ⟨.inr ht, fun x _ => ⟨?_, ?_⟩⟩
    · cases e <;> exact trivial
    · rw [Tally.next_protocol]
      cases e with
      | record event =>
        obtain ⟨op, duration, rfl⟩ := hasks event rfl
        exact ⟨ht, (List.append_nil _).trans hcounted⟩
      | _ => exact ⟨ht, hcounted⟩

/-- A call enters first, leaves last, and counts as one of the status that its caller receives. -/
theorem keepsTo_program (validator : Option Validator) (p : Passage) :
    KeepsTo Tally.protocol (Tally.Ended p) {} (p.program validator) := by
  have hcall : KeepsTo Tally.protocol (Pipeline.Closed Tally.protocol
      (fun t r => t.Within ∧ t.counted = [] ∧ r.label?.isSome) p.call) {}
      ((Pipeline.standard validator).call p.call p.handler) := by
    refine Pipeline.keepsTo_call Tally.inside_protocol (.inl ⟨rfl, rfl⟩) ⟨rfl, rfl⟩ ?_ ?_
    · intro seen _
      refine (p.keepsTo_handler seen ⟨rfl, rfl⟩ rfl).mono ?_
      rintro t outcome ⟨ht, hcounted⟩
      refine ⟨ht, ht, hcounted, ?_⟩
      cases outcome <;> rfl
    · exact fun _ v _ refusal _ => ⟨⟨rfl, rfl⟩, rfl, rfl⟩
  refine KeepsTo.bind (hcall.mono ?_)
  rintro _ r ⟨t, d, ⟨ht, hcounted, hlabel⟩, rfl⟩
  obtain ⟨l, hl⟩ := Option.isSome_iff_exists.1 hlabel
  refine .done ?_
  have hop : p.call.operation = .ofMethodName p.name :=
    Call.operation_start p.path p.metadata p.correlationId
  have hcounts := Metrics.countsAs_endEvents hl p.call d
  rw [hop] at hcounts
  rw [Tally.close_protocol ht fun e he => Stage.flight?_of_mem_endEvents he, hcounted]
  exact ⟨rfl, rfl, l, hl, hcounts⟩

end Passage

/-! ## Many calls -/

namespace Load
open Metrics (CountsAs Series Tally)

variable {ι : Type} [DecidableEq ι] {calls : ι → Passage} {S : Finset ι} {tally : ι → Tally}
  {w : Load ι}

/-- What holds of calls of which some have begun: each call keeps to its tally, those that have
begun have entered, and the metrics are the sum of their tallies. -/
structure Kept (calls : ι → Passage) (S : Finset ι) (tally : ι → Tally) (w : Load ι) : Prop where
  keeps : ∀ i, KeepsTo Tally.protocol (Tally.Ended (calls i)) (tally i) (w.rest i)
  fresh : ∀ i ∉ S, tally i = {}
  entered : ∀ i ∈ S, 0 < (tally i).entered
  sums : w.metrics.Sums S tally
  gauge : w.metrics.gauge = if S = ∅ then none else some w.metrics.active

theorem kept_start (validator : Option Validator) (calls : ι → Passage) :
    Kept calls ∅ (fun _ => {}) (start validator calls) where
  keeps i := (calls i).keepsTo_program validator
  fresh _ _ := rfl
  entered _ hi := nomatch hi
  sums := ⟨fun _ => rfl, rfl⟩
  gauge := rfl

theorem Kept.getD_gauge (h : Kept calls S tally w) :
    w.metrics.gauge.getD 0 = w.metrics.active := by
  rw [h.gauge]
  split
  · next hempty =>
    rw [h.sums.active, hempty]
    rfl
  · rfl

/-- After any question of any call, the calls that have begun are kept as before. -/
theorem Kept.tick (h : Kept calls S tally w) (i : ι) (answers : Answers) :
    ∃ tally', Kept calls (insert i S) tally' (w.tick i answers) := by
  have hkeeps := h.keeps i
  rw [Load.tick]
  split
  · next label hrest =>
    -- A call that has ended has begun before.
    rw [hrest] at hkeeps
    have hi : i ∈ S := by
      by_contra hi
      have hentered := hkeeps.post.entered
      rw [h.fresh i hi] at hentered
      cases hentered
    rw [Finset.insert_eq_of_mem hi]
    exact ⟨tally, h⟩
  · next e resume hrest =>
    rw [hrest] at hkeeps
    have hfirst : i ∈ S ∨ e = .record .enter := by
      by_cases hi : i ∈ S
      · exact .inl hi
      · rcases hkeeps.asks with hasks | hasks
        · exact .inr hasks.2
        · rw [h.fresh i hi] at hasks
          cases hasks.1
    refine ⟨Function.update tally i ((tally i).after e), ?keeps, ?fresh, ?entered, ?sums, ?gauge⟩
    case keeps =>
      have hresume := hkeeps.resume (Tally.admits_protocol _ e (answers e))
      rw [Tally.next_protocol] at hresume
      exact KeepsTo.update h.keeps hresume
    case fresh => exact fun j => update_eq_of_notMem_insert h.fresh i _
    case entered =>
      intro j hj
      by_cases hji : j = i
      · subst hji
        rw [Function.update_self]
        rcases hfirst with hj | rfl
        · exact (h.entered j hj).trans_le (Tally.entered_le_after _ e)
        · exact Nat.succ_pos _
      · rw [Function.update_of_ne hji]
        exact h.entered j (Finset.mem_of_mem_insert_of_ne hj hji)
    case sums => exact h.sums.after (h.fresh i) e
    case gauge =>
      rw [if_neg (Finset.insert_ne_empty i S)]
      refine Metrics.gauge_after h.getD_gauge (hfirst.imp (fun hi => ?_) id)
      rw [h.gauge, if_neg (Finset.ne_empty_of_mem hi)]
      exact nofun

/-- The calls that have begun are those of which a question has been answered. -/
theorem exists_kept_run (validator : Option Validator) (calls : ι → Passage)
    (ticks : List (ι × Answers)) :
    ∃ tally,
      Kept calls (ticks.map Prod.fst).toFinset tally ((start validator calls).run ticks) := by
  induction ticks using List.reverseRecOn with
  | nil => exact ⟨_, kept_start validator calls⟩
  | append_singleton ticks t ih =>
    obtain ⟨tally, h⟩ := ih
    have hrun : (start validator calls).run (ticks ++ [t]) =
        ((start validator calls).run ticks).tick t.1 t.2 := List.foldl_concat ..
    have hbegun : ((ticks ++ [t]).map Prod.fst).toFinset =
        insert t.1 (ticks.map Prod.fst).toFinset := by
      ext j
      simp
    rw [hrun, hbegun]
    exact h.tick t.1 t.2

/-! ## What the metrics show -/

/-- A call that has begun is in flight, or it has ended and counts as one of the status that its
caller has received. -/
theorem Kept.cases (h : Kept calls S tally w) {i : ι} (hi : i ∈ S) :
    (w.isDone i = false ∧ (tally i).inside = 1) ∨
      (w.isDone i = true ∧ (tally i).inside = 0 ∧ ∃ l, w.received? i = some l ∧
        CountsAs (tally i).counted (calls i).name (.ofMethodName (calls i).name) l) := by
  have hkeeps := h.keeps i
  rw [isDone, received?]
  cases hrest : w.rest i with
  | done label =>
    rw [hrest] at hkeeps
    obtain ⟨hentered, hleft, l, hl, hcounts⟩ := hkeeps.post
    exact .inr ⟨rfl, by simp [Tally.inside, hentered, hleft], l, hl, hcounts⟩
  | ask e resume =>
    rw [hrest] at hkeeps
    rcases hkeeps.asks with hasks | ⟨hentered, hleft⟩
    · exact absurd hasks.1 (h.entered i hi).ne'
    · exact .inl ⟨rfl, by simp [Tally.inside, hentered, hleft]⟩

theorem Kept.active_eq (h : Kept calls S tally w) :
    w.metrics.active = (S.filter fun i => w.isDone i = false).card := by
  rw [h.sums.active, Finset.card_filter, Nat.cast_sum]
  refine Finset.sum_congr rfl fun i hi => ?_
  rcases h.cases hi with ⟨hflight, hinside⟩ | ⟨hended, hinside, _⟩
  · rw [hinside, if_pos hflight]
    rfl
  · rw [hinside, if_neg (by rw [hended]; nofun)]
    rfl

section Ended
variable (h : Kept calls S tally w) (hdone : ∀ i ∈ S, w.isDone i = true)
include h hdone

/-- If every call that has begun has ended, a series counts those of them that count in it. -/
theorem Kept.count_eq {s : Series} {p : ι → Prop} [DecidablePred p]
    (hp : ∀ i l, w.received? i = some l →
      CountsAs (tally i).counted (calls i).name (.ofMethodName (calls i).name) l →
        (tally i).counted.count s = if p i then 1 else 0) :
    w.metrics.count s = (S.filter p).card := by
  rw [h.sums.count, Finset.card_filter]
  refine Finset.sum_congr rfl fun i hi => ?_
  rcases h.cases hi with ⟨hflight, _⟩ | ⟨_, _, l, hl, hcounts⟩
  · rw [hdone i hi] at hflight
    cases hflight
  · exact hp i l hl hcounts

theorem Kept.requests_eq (m s : String) :
    w.metrics.count (.requests m s) =
      (S.filter fun i => (calls i).name = m ∧ w.received? i = some s).card := by
  refine h.count_eq hdone fun i l hl hcounts => ?_
  simp only [hcounts.requests, hl, Option.some.injEq]

theorem Kept.errors_eq (m : String) {s : String} (hs : s ≠ Metrics.success) :
    w.metrics.count (.errors m s) = w.metrics.count (.requests m s) := by
  rw [h.requests_eq hdone]
  refine h.count_eq hdone fun i l hl hcounts => ?_
  simp only [hcounts.errors, hl, Option.some.injEq, hs, ne_eq, not_false_eq_true, and_true]

theorem Kept.invalid_eq (m : String) :
    w.metrics.count (.invalid m) =
      w.metrics.count (.requests m StatusCode.invalidArgument.label) := by
  rw [h.requests_eq hdone]
  refine h.count_eq hdone fun i l hl hcounts => ?_
  simp only [hcounts.invalid, hl, Option.some.injEq]

theorem Kept.unauthorized_eq (o : Operation) (r : String) :
    w.metrics.count (.unauthorized o r) =
      if r ∈ Metrics.unauthorizedLabels then
        ∑ m ∈ (S.image fun i => (calls i).name).filter fun m => .ofMethodName m = o,
          w.metrics.count (.requests m r)
      else 0 := by
  have hcount : w.metrics.count (.unauthorized o r) = (S.filter fun i =>
      .ofMethodName (calls i).name = o ∧ w.received? i = some r ∧
        r ∈ Metrics.unauthorizedLabels).card := by
    refine h.count_eq hdone fun i l hl hcounts => ?_
    simp only [hcounts.unauthorized, hl, Option.some.injEq]
  rw [hcount]
  split
  · next hr =>
    -- The calls of the operation are those to one of its methods after another.
    rw [Finset.card_eq_sum_card_fiberwise (f := fun i => (calls i).name)
      (t := (S.image fun i => (calls i).name).filter fun m => .ofMethodName m = o)]
    · refine Finset.sum_congr rfl fun m hm => ?_
      rw [h.requests_eq hdone, Finset.filter_filter]
      refine congrArg Finset.card (Finset.filter_congr fun i _ => ?_)
      have hop : (calls i).name = m → Operation.ofMethodName (calls i).name = o := by
        rintro rfl
        exact (Finset.mem_filter.1 hm).2
      simp only [hr, and_true]
      exact ⟨fun hi => ⟨hi.2, hi.1.2⟩, fun hi => ⟨⟨hop hi.1, hi.2⟩, hi.1⟩⟩
    · intro i hi
      obtain ⟨hi, hop, _⟩ := Finset.mem_filter.1 hi
      exact Finset.mem_filter.2 ⟨Finset.mem_image_of_mem _ hi, hop⟩
  · next hr => simp [hr]

end Ended

/-- In every run of calls through the standard pipeline, with a validator or without one, whatever
their handlers come to: the number of active calls is the number of those that have begun and have
not ended, and so is the gauge from the first of them on. Whenever none is in flight, the requests
to a method with a status are the calls to it whose callers received that status; the errors are the
requests that were not successful; the invalid requests are those that were refused as such; and the
authorization failures of an operation are the requests to its methods that were refused for want of
a token or of a grant. -/
theorem metrics_balance (validator : Option Validator) (calls : ι → Passage)
    (ticks : List (ι × Answers)) :
    let w := (start validator calls).run ticks
    let begun := (ticks.map Prod.fst).toFinset
    let inFlight := begun.filter fun i => w.isDone i = false
    let requests (m s : String) := w.metrics.count (.requests m s)
    w.metrics.active = inFlight.card ∧
    w.metrics.gauge = (if begun = ∅ then none else some (inFlight.card : Int)) ∧
    (inFlight = ∅ →
      (∀ m s, requests m s =
        (begun.filter fun i => (calls i).name = m ∧ w.received? i = some s).card) ∧
      (∀ m s, s ≠ Metrics.success → w.metrics.count (.errors m s) = requests m s) ∧
      (∀ m, w.metrics.count (.invalid m) = requests m StatusCode.invalidArgument.label) ∧
      ∀ o r, w.metrics.count (.unauthorized o r) =
        if r ∈ [StatusCode.unauthenticated.label, StatusCode.permissionDenied.label] then
          ∑ m ∈ (begun.image fun i => (calls i).name).filter fun m => .ofMethodName m = o,
            requests m r
        else 0) := by
  intro w begun inFlight requests
  obtain ⟨tally, h⟩ := exists_kept_run validator calls ticks
  refine ⟨h.active_eq, ?_, fun hempty => ?_⟩
  · rw [h.gauge, h.active_eq]
  · have hdone : ∀ i ∈ begun, w.isDone i = true := by
      intro i hi
      simpa using Finset.filter_eq_empty_iff.1 hempty hi
    exact ⟨h.requests_eq hdone, fun m s => h.errors_eq hdone m, h.invalid_eq hdone,
      h.unauthorized_eq hdone⟩

/-- Answers of a storage that is out of reach. -/
def unreachable : Answers
  | .storage .start => ()
  | .storage (.save _) => Identifier.nil
  | .storage (.find _) => Except.error (Storage.Error.unavailable "")
  | .storage (.page _) => Except.error (Storage.Error.unavailable "")
  | .storage (.update _) => ()
  | .storage (.delete _) => ()
  | .storage .commit => Except.error (Storage.Error.unavailable "")
  | .storage .count => Except.error (Storage.Error.unavailable "")
  | .random => (0 : BitVec 128)
  | .elapsed => (20 : Nat)
  | .record _ => ()
  | .log _ => ()
  | .note _ => ()

/-- A call that is answered, one whose handler panics, and one without a token. -/
def trio (i : Nat) : Passage where
  Answer := Unit
  path := "/s/GetItem"
  metadata := if i < 2 then Pipeline.posing "r" else .empty
  handler _ := .done (if i = 1 then .panicked .other else .answered ())
  timed _ := .done trivial

/-- The three calls in turns. -/
def turns (n : Nat) : List (Nat × Answers) := (List.range n).map fun k => (k % 3, unreachable)

/-- After four turns three calls are in flight; when all of them have ended, one request was
successful, one ended with an internal error, and one was not authorized. -/
theorem trio_balances :
    let during := (start (some Pipeline.porter) trio).run (turns 4)
    let after := (start (some Pipeline.porter) trio).run (turns 30)
    during.metrics.active = 3 ∧ after.metrics.gauge = some 0 ∧
      after.metrics.count (.requests "GetItem" "success") = 1 ∧
      after.metrics.count (.errors "GetItem" "internal") = 1 ∧
      after.metrics.count (.invalid "GetItem") = 0 ∧
      after.metrics.count (.unauthorized .read "unauthenticated") = 1 := by
  intro during after
  have hduring := (metrics_balance (some Pipeline.porter) trio (turns 4)).1
  obtain ⟨_, hgauge, hafter⟩ := metrics_balance (some Pipeline.porter) trio (turns 30)
  have hempty :
      (((turns 30).map Prod.fst).toFinset.filter fun i => after.isDone i = false) = ∅ := by
    decide +kernel
  obtain ⟨hrequests, herrors, hinvalid, hunauthorized⟩ := hafter hempty
  have hinternal : after.metrics.count (.requests "GetItem" "internal") = 1 :=
    (hrequests _ _).trans (by decide +kernel)
  refine ⟨hduring.trans (by decide +kernel), hgauge.trans (by decide +kernel),
    (hrequests _ _).trans (by decide +kernel), ?_, ?_, ?_⟩
  · exact (herrors _ _ (by decide)).trans hinternal
  · exact (hinvalid _).trans ((hrequests _ _).trans (by decide +kernel))
  · exact (hunauthorized .read _).trans (by decide +kernel)

end Load
end ItemCatalog
