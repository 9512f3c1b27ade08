import ItemCatalog.Proofs.Metrics.Events
import ItemCatalog.Proofs.Stage.Passing
import Mathlib.Algebra.BigOperators.Group.Finset.Piecewise

/-!
# What each call has recorded

The metrics of a service add up what its calls have recorded. A tally is kept for each call: how
often it entered and left, and the series in which it counted. Main statements: if the metrics are
the sum of tallies, they still are after a question of one call (`Sums.after`), and a call counts in
the series of the status that its caller receives (`countsAs_endEvents`).

## Main definitions

* `Metrics.Tally`: what one call has recorded.
* `Metrics.Sums`: whether metrics are the sum of the tallies of some calls.
* `Result.label?`: the label of the status that a caller receives.
* `Metrics.CountsAs`: how often a call counts in each series if its caller receives that status.
-/

namespace ItemCatalog

/-! ## Sums over calls -/

/-- If what one call adds to a sum grows, and it was nothing unless the call was in the sum before,
then the sum grows by as much. -/
theorem sum_insert_update {ι β M : Type} [DecidableEq ι] [AddCommMonoid M] (f : β → M)
    {S : Finset ι} {own : ι → β} {i : ι} {x : β} {d : M} (hx : f x = f (own i) + d)
    (hnew : i ∉ S → f (own i) = 0) :
    ∑ j ∈ insert i S, f (Function.update own i x j) = ∑ j ∈ S, f (own j) + d := by
  simp only [Function.apply_update fun _ => f]
  by_cases hi : i ∈ S
  · rw [Finset.insert_eq_of_mem hi, Finset.sum_update_of_mem hi, hx,
      Finset.sum_eq_add_sum_sdiff_singleton_of_mem hi fun j => f (own j)]
    exact add_right_comm _ _ _
  · rw [Finset.sum_insert hi, Function.update_self, Finset.sum_update_of_notMem hi, hx, hnew hi,
      zero_add, add_comm]

/-- Calls that are not in the sum after one of them has come in were not in it before. -/
theorem update_eq_of_notMem_insert {ι β : Type} [DecidableEq ι] {S : Finset ι} {own : ι → β} {b : β}
    (h : ∀ j ∉ S, own j = b) (i : ι) (x : β) {j : ι} (hj : j ∉ insert i S) :
    Function.update own i x j = b := by
  rw [Finset.mem_insert, not_or] at hj
  rw [Function.update_of_ne hj.1]
  exact h j hj.2

/-- What is recorded by a question. -/
def Effect.event? : Effect → Option Metrics.Event
  | .record event => some event
  | _ => none

namespace Metrics

/-! ## Questions -/

/-- What a question makes of metrics. -/
def after (m : Metrics) (e : Effect) : Metrics := e.event?.elim m m.record

/-- A gauge that shows the number of calls in flight goes on to do so, once it shows anything. -/
theorem gauge_after {m : Metrics} (h : m.gauge.getD 0 = m.active) {e : Effect}
    (hshown : m.gauge ≠ none ∨ e = .record .enter) :
    (m.after e).gauge = some (m.after e).active := by
  rw [after]
  cases hevent : e.event? with
  | none =>
    rcases hshown with hshown | rfl
    · obtain ⟨n, hn⟩ := Option.ne_none_iff_exists'.1 hshown
      rw [Option.elim_none, ← h, hn, Option.getD_some]
    · cases hevent
  | some event =>
    obtain ⟨hactive, hgauge⟩ := flight_record m event
    rw [Option.elim_some, hactive, hgauge, h]
    cases hflight : event.flight? with
    | some n => rfl
    | none =>
      rcases hshown with hshown | rfl
      · obtain ⟨n, hn⟩ := Option.ne_none_iff_exists'.1 hshown
        rw [← h, hn]
        simp
      · cases hevent
        cases hflight

/-! ## Tallies -/

/-- What one call has recorded: how often it entered and left, and the series it counted in. -/
structure Tally where
  entered : Nat := 0
  left : Nat := 0
  counted : List Series := []

namespace Tally

/-- The tally of a call that has recorded one more event. -/
def record (t : Tally) : Event → Tally
  | .enter => { t with entered := t.entered + 1 }
  | .leave => { t with left := t.left + 1 }
  | e => { t with counted := t.counted ++ e.counted }

/-- What a question makes of the tally of its call. -/
def after (t : Tally) (e : Effect) : Tally := e.event?.elim t t.record

theorem entered_le_after (t : Tally) (e : Effect) : t.entered ≤ (t.after e).entered := by
  cases e with
  | record event => cases event <;> simp [after, Effect.event?, record]
  | _ => exact le_rfl

/-- How many times more a call has entered than left. -/
def inside (t : Tally) : Int := t.entered - t.left

theorem inside_record (t : Tally) (e : Event) :
    (t.record e).inside = t.inside + e.flight?.getD 0 := by
  cases e <;> simp [inside, record, Event.flight?] <;> omega

theorem count_record (t : Tally) (e : Event) (s : Series) :
    (t.record e).counted.count s = t.counted.count s + e.counted.count s := by
  cases e with
  | enter => rfl
  | leave => rfl
  | _ => exact List.count_append

/-- What is recorded while a call neither enters nor leaves adds to the series it counts in. -/
theorem foldl_record (t : Tally) {events : List Event} (h : ∀ e ∈ events, e.flight? = none) :
    events.foldl record t =
      { t with counted := t.counted ++ events.flatMap Event.counted } := by
  induction events generalizing t with
  | nil => simp
  | cons e rest ih =>
    have he : t.record e = { t with counted := t.counted ++ e.counted } := by
      have hflight := h e List.mem_cons_self
      cases e with
      | enter => cases hflight
      | leave => cases hflight
      | _ => rfl
    rw [List.foldl_cons, ih _ fun e' he' => h e' (List.mem_cons_of_mem e he'), he]
    simp

end Tally

/-- Whether metrics are the sum of the tallies of some calls. -/
structure Sums {ι : Type} (m : Metrics) (S : Finset ι) (tally : ι → Tally) : Prop where
  count : ∀ s, m.count s = ∑ i ∈ S, (tally i).counted.count s
  active : m.active = ∑ i ∈ S, (tally i).inside

/-- A question of a call adds the same to the metrics and to the tally of that call. -/
theorem Sums.after {ι : Type} [DecidableEq ι] {m : Metrics} {S : Finset ι} {tally : ι → Tally}
    (h : m.Sums S tally) {i : ι} (hnew : i ∉ S → tally i = {}) (e : Effect) :
    (m.after e).Sums (insert i S) (Function.update tally i ((tally i).after e)) := by
  constructor
  · intro s
    have hadd : ((tally i).after e).counted.count s =
        (tally i).counted.count s + (e.event?.elim [] Event.counted).count s := by
      rw [Tally.after]
      cases e.event? with
      | none => simp
      | some event => exact Tally.count_record _ event s
    have hcount : (m.after e).count s = m.count s + (e.event?.elim [] Event.counted).count s := by
      rw [Metrics.after]
      cases e.event? with
      | none => simp
      | some event => exact count_record m event s
    rw [hcount, h.count s]
    refine (sum_insert_update (fun t : Tally => t.counted.count s) hadd fun hi => ?_).symm
    rw [hnew hi]
    rfl
  · have hadd : ((tally i).after e).inside =
        (tally i).inside + (e.event?.bind Event.flight?).getD 0 := by
      rw [Tally.after]
      cases e.event? with
      | none => simp
      | some event => exact Tally.inside_record _ event
    have hactive : (m.after e).active = m.active + (e.event?.bind Event.flight?).getD 0 := by
      rw [Metrics.after]
      cases e.event? with
      | none => simp
      | some event => exact (flight_record m event).1
    rw [hactive, h.active]
    refine (sum_insert_update Tally.inside hadd fun hi => ?_).symm
    rw [hnew hi]
    rfl

end Metrics

/-! ## The end of a call -/

/-- The label of the status that the caller receives. -/
def Result.label? {α : Type} : Result α → Option String
  | .replied _ => some Metrics.success
  | .refused status => some status.code.label
  | .escaped _ => none

/-- Whether the caller receives an answer. -/
def Result.answered {α : Type} : Result α → Bool
  | .replied _ => true
  | _ => false

theorem StatusCode.label_injective : Function.Injective StatusCode.label := by
  intro a b h
  cases a <;> cases b <;> first | rfl | exact absurd h (by decide)

theorem StatusCode.label_ne_success (code : StatusCode) : code.label ≠ Metrics.success := by
  cases code <;> decide

theorem Result.label_eq_success_iff {α : Type} {r : Result α} {l : String}
    (h : r.label? = some l) : l = Metrics.success ↔ r.answered = true := by
  cases r with
  | replied a =>
    cases h
    exact iff_of_true rfl rfl
  | refused status =>
    cases h
    exact iff_of_false status.code.label_ne_success nofun
  | escaped panic => cases h

theorem Operation.name_injective : Function.Injective Operation.name := by
  intro a b h
  cases a <;> cases b <;> first | rfl | exact absurd h (by decide)

namespace Metrics

/-- The labels of the statuses of calls that are not authorized. -/
def unauthorizedLabels : List String :=
  [StatusCode.unauthenticated.label, StatusCode.permissionDenied.label]

/-- How often a call to a method, of an operation, counts in each series if its caller receives a
status. -/
structure CountsAs (counted : List Series) (name : String) (op : Operation) (label : String) :
    Prop where
  requests : ∀ m s, counted.count (.requests m s) = if name = m ∧ label = s then 1 else 0
  errors : ∀ m s, counted.count (.errors m s) =
    if name = m ∧ label = s ∧ s ≠ success then 1 else 0
  invalid : ∀ m, counted.count (.invalid m) =
    if name = m ∧ label = StatusCode.invalidArgument.label then 1 else 0
  unauthorized : ∀ o r, counted.count (.unauthorized o r) =
    if op = o ∧ label = r ∧ r ∈ unauthorizedLabels then 1 else 0
  changes : ∀ o s, Series.changes? o = some s →
    counted.count s = if op = o ∧ label = success then 1 else 0

theorem countsAs_success (name : String) (op : Operation) :
    CountsAs (.requests name success :: (Series.changes? op).toList) name op success where
  requests m s := by
    cases op <;> simp [Series.requests, Series.changes?, List.count_cons]
  errors m s := by
    have hnone : ¬(name = m ∧ success = s ∧ s ≠ success) := fun h => h.2.2 h.2.1.symm
    rw [if_neg hnone]
    cases op <;> simp [Series.requests, Series.errors, Series.changes?]
  invalid m := by
    have hne : success ≠ StatusCode.invalidArgument.label := by decide
    cases op <;> simp [Series.requests, Series.invalid, Series.changes?, hne]
  unauthorized o r := by
    have hnone : ¬(op = o ∧ success = r ∧ r ∈ unauthorizedLabels) := by
      rintro ⟨_, rfl, h⟩
      exact absurd h (by decide)
    rw [if_neg hnone]
    cases op <;> simp [Series.requests, Series.unauthorized, Series.changes?]
  changes o s hs := by
    cases op <;> cases o <;> cases hs <;> simp [Series.requests, Series.changes?]

/-- The series in which a call that is turned down for a reason counts beside its request. -/
def rejections (name : String) (op : Operation) : StatusCode → List Series
  | .invalidArgument => [.invalid name]
  | .unauthenticated => [.unauthorized op StatusCode.unauthenticated.label]
  | .permissionDenied => [.unauthorized op StatusCode.permissionDenied.label]
  | _ => []

theorem counted_failureEvents (call : Call) (code : StatusCode) (d : Nat) :
    (Stage.failureEvents call code d).flatMap Event.counted =
      .requests call.methodName code.label :: .errors call.methodName code.label ::
        rejections call.methodName call.operation code := by
  cases code <;> rfl

theorem label_mem_unauthorizedLabels {code : StatusCode} :
    code.label ∈ unauthorizedLabels ↔ code = .unauthenticated ∨ code = .permissionDenied := by
  simp [unauthorizedLabels, StatusCode.label_injective.eq_iff]

theorem countsAs_failure (name : String) (op : Operation) (code : StatusCode) :
    CountsAs (.requests name code.label :: .errors name code.label :: rejections name op code) name
      op code.label where
  requests m s := by
    have hrest : (rejections name op code).count (.requests m s) = 0 := by
      cases code <;> simp [rejections, Series.requests, Series.invalid, Series.unauthorized]
    rw [List.count_cons, List.count_cons, hrest]
    simp [Series.requests, Series.errors]
  errors m s := by
    have hrest : (rejections name op code).count (.errors m s) = 0 := by
      cases code <;> simp [rejections, Series.errors, Series.invalid, Series.unauthorized]
    have hne : code.label = s → s ≠ success := fun h => h ▸ code.label_ne_success
    rw [List.count_cons, List.count_cons, hrest]
    simp [Series.requests, Series.errors, and_iff_left_of_imp hne]
  invalid m := by
    have hrest : (rejections name op code).count (.invalid m) =
        if name = m ∧ code = .invalidArgument then 1 else 0 := by
      cases code <;> simp [rejections, Series.invalid, Series.unauthorized, List.count_cons]
    rw [List.count_cons, List.count_cons, hrest]
    simp [Series.requests, Series.errors, Series.invalid, StatusCode.label_injective.eq_iff]
  unauthorized o r := by
    have hrest : (rejections name op code).count (.unauthorized o r) =
        if op = o ∧ code.label = r ∧ code.label ∈ unauthorizedLabels then 1 else 0 := by
      simp only [label_mem_unauthorizedLabels]
      cases code <;>
        simp [rejections, Series.invalid, Series.unauthorized, List.count_cons,
          Operation.name_injective.eq_iff, StatusCode.label]
    have hmem : code.label = r ∧ r ∈ unauthorizedLabels ↔
        code.label = r ∧ code.label ∈ unauthorizedLabels :=
      and_congr_right fun h => h ▸ Iff.rfl
    rw [List.count_cons, List.count_cons, hrest]
    simp [Series.requests, Series.errors, Series.unauthorized, hmem]
  changes o s hs := by
    have hrest : (rejections name op code).count s = 0 := by
      cases o <;> cases hs <;> cases code <;>
        simp [rejections, Series.invalid, Series.unauthorized]
    rw [if_neg fun h => code.label_ne_success h.2, List.count_cons, List.count_cons, hrest]
    cases o <;> cases hs <;> simp [Series.requests, Series.errors]

/-- Whatever a call comes to, it counts as one of the status that its caller receives. -/
theorem countsAs_endEvents {α : Type} {r : Result α} {label : String} (h : r.label? = some label)
    (call : Call) (d : Nat) :
    CountsAs ((Stage.endEvents call d r.outcome).flatMap Event.counted) call.methodName
      call.operation label := by
  cases r with
  | replied a =>
    cases h
    have hcounted : (Stage.endEvents call d (Result.replied a).outcome).flatMap Event.counted =
        .requests call.methodName success :: (Series.changes? call.operation).toList := by
      simp [Result.outcome, Stage.endEvents, Event.counted]
    rw [hcounted]
    exact countsAs_success call.methodName call.operation
  | refused status =>
    cases h
    rw [Result.outcome, Stage.endEvents, counted_failureEvents]
    exact countsAs_failure call.methodName call.operation status.code
  | escaped panic => cases h

end Metrics
end ItemCatalog
