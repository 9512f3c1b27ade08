import ItemCatalog.Metrics.Guard
import ItemCatalog.Proofs.Metrics.Events
import Mathlib.Data.List.Induction
import Mathlib.Data.List.Nodup

/-!
# Metrics over a sequence of steps

Events are recorded, and markers of calls in flight taken and released, in any order. Main
statements: every counter and every histogram has exactly what was recorded in it (`counters_run`,
`samplesOf_run`), the number of calls in flight and the gauge are the number of markers held
(`inv_run`), and the order of the steps makes no difference as long as no marker is released before
it is taken (`metrics_of_steps`).

## Main definitions

* `Step`: an event recorded, or a marker taken or released. Markers have names, so that they can be
  told apart in another order.
* `Tracked`: metrics with the names of the markers taken.
* `recorded`, `held`: the events that steps record, and the markers that they take and keep.
* `Orderly`: markers are released after they are taken, and each is taken once.
-/

namespace ItemCatalog.Metrics
variable {γ : Type}

/-! ## Steps -/

/-- Something that is done with metrics. What is recorded says nothing of calls in flight. -/
inductive Step (γ : Type)
  | record (event : Event) (aside : event.flight? = none)
  | take (marker : γ)
  | release (marker : γ)

namespace Step

/-- The event that a step records. -/
def event? : Step γ → Option Event
  | record event _ => some event
  | _ => none

/-- The marker that a step takes. -/
def taken? : Step γ → Option γ
  | take marker => some marker
  | _ => none

/-- The marker that a step releases. -/
def released? : Step γ → Option γ
  | release marker => some marker
  | _ => none

end Step

/-- The events that are recorded. -/
def recorded (steps : List (Step γ)) : List Event := steps.filterMap Step.event?

/-- The markers that are taken. -/
def takes (steps : List (Step γ)) : List γ := steps.filterMap Step.taken?

/-- The markers that are released. -/
def releases (steps : List (Step γ)) : List γ := steps.filterMap Step.released?

/-- Whether each marker is taken once at most, and released after that only. -/
structure Orderly (steps : List (Step γ)) : Prop where
  distinct : (takes steps).Nodup
  inOrder : ∀ before marker after, steps = before ++ .release marker :: after →
    marker ∈ takes before

theorem recorded_concat (steps : List (Step γ)) (step : Step γ) :
    recorded (steps ++ [step]) = recorded steps ++ step.event?.toList := by
  cases step <;> simp [recorded, Step.event?]

theorem takes_concat (steps : List (Step γ)) (step : Step γ) :
    takes (steps ++ [step]) = takes steps ++ step.taken?.toList := by
  cases step <;> simp [takes, Step.taken?]

theorem releases_concat (steps : List (Step γ)) (step : Step γ) :
    releases (steps ++ [step]) = releases steps ++ step.released?.toList := by
  cases step <;> simp [releases, Step.released?]

theorem mem_releases {steps : List (Step γ)} {marker : γ} :
    marker ∈ releases steps ↔ .release marker ∈ steps := by
  rw [releases, List.mem_filterMap]
  constructor
  · rintro ⟨step, hstep, hmarker⟩
    cases step <;> cases hmarker
    exact hstep
  · intro h
    exact ⟨_, h, rfl⟩

namespace Orderly

/-- A marker that is released was taken. -/
theorem mem_takes {steps : List (Step γ)} {marker : γ} (h : Orderly steps)
    (hmarker : marker ∈ releases steps) : marker ∈ takes steps := by
  obtain ⟨before, after, rfl⟩ := List.append_of_mem (mem_releases.1 hmarker)
  rw [takes, List.filterMap_append]
  exact List.mem_append_left _ (h.inOrder before marker after rfl)

/-- One more step keeps a sequence orderly if it takes no marker that was taken before, and releases
none that was not. -/
theorem concat_iff (steps : List (Step γ)) (step : Step γ) : Orderly (steps ++ [step]) ↔
    Orderly steps ∧ (∀ marker ∈ step.taken?, marker ∉ takes steps) ∧
      ∀ marker ∈ step.released?, marker ∈ takes steps := by
  have htaken : (takes (steps ++ [step])).Nodup ↔
      (takes steps).Nodup ∧ ∀ marker ∈ step.taken?, marker ∉ takes steps := by
    rw [takes_concat, List.nodup_append]
    cases step.taken? with
    | none => simp
    | some marker =>
      simp only [Option.toList_some, List.nodup_singleton, List.mem_singleton, forall_eq, true_and,
        Option.mem_some_iff, forall_eq']
      exact and_congr_right fun _ => List.forall_mem_ne'
  constructor
  · intro h
    obtain ⟨hdistinct, hnew⟩ := htaken.1 h.distinct
    refine ⟨⟨hdistinct, ?_⟩, hnew, fun marker hmarker => ?_⟩
    · rintro before marker after rfl
      exact h.inOrder before marker (after ++ [step]) (by simp)
    · cases step <;> cases hmarker
      exact h.inOrder steps marker [] rfl
  · rintro ⟨h, hnew, hreleased⟩
    refine ⟨htaken.2 ⟨h.distinct, hnew⟩, fun before marker after hsplit => ?_⟩
    rcases List.eq_nil_or_concat after with rfl | ⟨after, last, rfl⟩
    · obtain ⟨rfl, hlast⟩ := List.append_inj' hsplit rfl
      cases hlast
      exact hreleased marker rfl
    · rw [List.concat_eq_append, ← List.cons_append, ← List.append_assoc] at hsplit
      exact h.inOrder before marker after (List.append_inj' hsplit rfl).1

end Orderly

variable [DecidableEq γ] {steps : List (Step γ)} {marker : γ}

/-- The markers that are taken and not released. -/
def held (steps : List (Step γ)) : List γ := (takes steps).filter (· ∉ releases steps)

/-- A marker that is taken is held from then on. -/
theorem held_take (h : marker ∉ releases steps) :
    held (steps ++ [.take marker]) = held steps ++ [marker] := by
  simp [held, takes_concat, releases_concat, Step.taken?, Step.released?, List.filter_append, h]

/-- A marker that is released is not held any more. -/
theorem held_release (h : (takes steps).Nodup) :
    held (steps ++ [.release marker]) = (held steps).erase marker := by
  have hnodup : (held steps).Nodup := h.filter _
  rw [hnodup.erase_eq_filter, held, held, List.filter_filter, takes_concat, releases_concat]
  simp only [Step.taken?, Option.toList_none, List.append_nil]
  refine List.filter_congr fun m _ => ?_
  by_cases hm : m = marker
  · simp [Step.released?, hm]
  · simp [Step.released?, hm]

/-- Metrics with the names of the markers taken, in order. -/
structure Tracked (γ : Type) where
  guarded : Guarded := .empty
  taken : List γ := []

namespace Tracked

/-- The metrics themselves. -/
def metrics (t : Tracked γ) : Metrics := t.guarded.metrics

/-- What a step does. A marker is released by its number. -/
def step (t : Tracked γ) : Step γ → Tracked γ
  | .record event _ => { t with guarded := t.guarded.record event }
  | .take marker => ⟨t.guarded.take, t.taken ++ [marker]⟩
  | .release marker => { t with guarded := t.guarded.release (t.taken.idxOf marker) }

/-- What steps come to. -/
def run (steps : List (Step γ)) : Tracked γ := steps.foldl step {}

theorem run_concat (steps : List (Step γ)) (next : Step γ) :
    run (steps ++ [next]) = (run steps).step next := by
  rw [run, List.foldl_append]
  rfl

/-! ## Counters and histograms -/

/-- Markers leave counters and histograms alone. -/
theorem recorded_step (t : Tracked γ) (next : Step γ) :
    (t.step next).metrics.counters = (next.event?.elim t.metrics t.metrics.record).counters ∧
      (t.step next).metrics.samples = (next.event?.elim t.metrics t.metrics.record).samples := by
  cases next with
  | record event _ => exact ⟨rfl, rfl⟩
  | take marker => exact ⟨rfl, rfl⟩
  | release marker =>
    simp only [step, metrics, Guarded.release]
    split <;> exact ⟨rfl, rfl⟩

/-- A step changes no counter in which it does not count. -/
theorem counters_step_of_not (t : Tracked γ) {next : Step γ} {s : Series}
    (h : ∀ e ∈ next.event?, ¬e.Counts s) :
    (t.step next).metrics.counters.get? s = t.metrics.counters.get? s := by
  rw [(recorded_step t next).1]
  cases hevent : next.event? with
  | none => rfl
  | some e => rw [Option.elim_some, counters_record, if_neg (h e hevent)]

/-- A step changes no histogram of which it is not a sample. -/
theorem samples_step_of_not (t : Tracked γ) {next : Step γ} {s : Series}
    (h : ∀ e ∈ next.event?, ∀ d, ¬e.Samples s d) :
    (t.step next).metrics.samples.get? s = t.metrics.samples.get? s := by
  rw [(recorded_step t next).2]
  cases hevent : next.event? with
  | none => rfl
  | some e =>
    have hnone : e.durations s = [] := List.eq_nil_iff_forall_not_mem.2 fun d hd =>
      h e hevent d (Event.mem_durations.1 hd)
    rw [Option.elim_some, samples_record, if_pos hnone]

/-- A counter is there once something has counted in it, and is the number of events that have. -/
theorem counters_run (steps : List (Step γ)) (s : Series) :
    (run steps).metrics.counters.get? s =
      if (recorded steps).countP (·.Counts s) = 0 then none
      else some ((recorded steps).countP (·.Counts s)) := by
  -- The last step is split off: what is there before it is the count so far, or nothing at zero.
  induction steps using List.reverseRecOn with
  | nil => rfl
  | append_singleton steps next ih =>
    rw [run_concat, (recorded_step _ next).1, recorded_concat, List.countP_append]
    cases next.event? with
    | none => simpa using ih
    | some e =>
      have hcount : (run steps).metrics.count s = (recorded steps).countP (·.Counts s) := by
        rw [count, ih]
        split <;> simp [*]
      rw [Option.elim_some, counters_record, hcount]
      by_cases h : e.Counts s
      · simp [h]
      · simpa [h] using ih

/-- A histogram has the samples that were recorded in it, in order. -/
theorem samplesOf_run (steps : List (Step γ)) (s : Series) :
    (run steps).metrics.samplesOf s = (recorded steps).flatMap (·.durations s) := by
  induction steps using List.reverseRecOn with
  | nil => rfl
  | append_singleton steps next ih =>
    rw [run_concat, samplesOf, (recorded_step _ next).2, recorded_concat, List.flatMap_append, ← ih]
    cases next.event? with
    | none => simp [samplesOf]
    | some e =>
      rw [Option.elim_some, samples_record]
      by_cases h : e.durations s = []
      · simp [h, samplesOf]
      · simp [h]

/-- So its count is that of the events that were a sample of it. -/
theorem length_samplesOf_run (steps : List (Step γ)) (s : Series) :
    ((run steps).metrics.samplesOf s).length =
      (recorded steps).countP fun e => ∃ d, e.Samples s d := by
  rw [samplesOf_run]
  induction recorded steps with
  | nil => rfl
  | cons e rest ih =>
    rw [List.flatMap_cons, List.length_append, ih, Event.length_durations, List.countP_cons,
      Nat.add_comm]
    simp only [decide_eq_true_eq]

/-! ## Calls in flight -/

/-- Whether the markers of metrics are those of some steps. -/
structure Inv (t : Tracked γ) (steps : List (Step γ)) : Prop where
  taken : t.taken = takes steps
  inFlight : t.guarded.inFlight = (takes steps).map fun m => decide (m ∉ releases steps)
  active : t.metrics.active = (held steps).length
  gauge : t.metrics.gauge = if takes steps = [] then none else some ((held steps).length : Int)

variable {t : Tracked γ}

theorem Inv.gauge_getD (h : t.Inv steps) : t.metrics.gauge.getD 0 = (held steps).length := by
  rw [h.gauge]
  by_cases hnone : takes steps = []
  · simp [hnone, held]
  · simp [hnone]

/-- Whether the marker that a step releases is still in flight. -/
theorem Inv.getElem?_idxOf (h : t.Inv steps) (hmarker : marker ∈ takes steps) :
    t.guarded.inFlight[t.taken.idxOf marker]? = some (decide (marker ∉ releases steps)) := by
  rw [h.inFlight, h.taken, List.getElem?_map, List.getElem?_idxOf hmarker, Option.map_some]

/-- Releasing a marker again changes nothing. -/
theorem Inv.step_release_again (h : t.Inv steps) (hmarker : marker ∈ takes steps)
    (hagain : marker ∈ releases steps) : t.step (.release marker) = t := by
  have hdone : ¬t.guarded.inFlight[t.taken.idxOf marker]? = some true := by
    rw [h.getElem?_idxOf hmarker]
    simp [hagain]
  rw [step, Guarded.release, if_neg hdone]

/-- A marker is released for the first time: it is no longer in flight. -/
theorem Inv.step_release (h : t.Inv steps) (hdistinct : (takes steps).Nodup)
    (hmarker : marker ∈ takes steps) (hfirst : marker ∉ releases steps) :
    (t.step (.release marker)).Inv (steps ++ [.release marker]) := by
  have htakes : takes (steps ++ [.release marker]) = takes steps := by
    simp [takes_concat, Step.taken?]
  have hreleases : releases (steps ++ [.release marker]) = releases steps ++ [marker] := by
    simp [releases_concat, Step.released?]
  have hinFlight : t.guarded.inFlight[t.taken.idxOf marker]? = some true := by
    rw [h.getElem?_idxOf hmarker]
    simp [hfirst]
  have hstep : t.step (.release marker) =
      ⟨⟨t.metrics.record .leave, t.guarded.inFlight.set (t.taken.idxOf marker) false⟩,
        t.taken⟩ := by
    rw [step, Guarded.release, if_pos hinFlight]
    rfl
  have hheld : marker ∈ held steps := by simp [held, hmarker, hfirst]
  have hlength : ((held (steps ++ [.release marker])).length : Int) = (held steps).length - 1 := by
    have hpos := List.length_pos_of_mem hheld
    rw [held_release hdistinct, List.length_erase_of_mem hheld]
    omega
  obtain ⟨hactive, hgauge⟩ := flight_record t.metrics .leave
  rw [hstep]
  constructor
  · exact h.taken.trans htakes.symm
  · have hupdate : (fun m => decide (m ∉ releases steps ++ [marker])) =
        Function.update (fun m => decide (m ∉ releases steps)) marker false := by
      funext m
      by_cases hm : m = marker
      · simp [hm]
      · simp [hm]
    rw [htakes, hreleases, hupdate, List.Nodup.map_update hdistinct, if_pos hmarker, h.inFlight,
      h.taken]
  · rw [hlength, ← h.active]
    exact hactive
  · have hsome : takes (steps ++ [.release marker]) ≠ [] := by
      rw [htakes]
      exact List.ne_nil_of_mem hmarker
    rw [if_neg hsome, hlength, ← h.gauge_getD]
    exact hgauge

/-- A marker is taken: it is in flight. -/
theorem Inv.step_take (h : t.Inv steps) (hnew : marker ∉ releases steps) :
    (t.step (.take marker)).Inv (steps ++ [.take marker]) := by
  have htakes : takes (steps ++ [.take marker]) = takes steps ++ [marker] := by
    simp [takes_concat, Step.taken?]
  have hreleases : releases (steps ++ [.take marker]) = releases steps := by
    simp [releases_concat, Step.released?]
  have hlength : ((held (steps ++ [.take marker])).length : Int) = (held steps).length + 1 := by
    rw [held_take hnew]
    simp
  obtain ⟨hactive, hgauge⟩ := flight_record t.metrics .enter
  constructor
  · rw [htakes, ← h.taken]
    rfl
  · rw [htakes, hreleases, List.map_append, ← h.inFlight, List.map_singleton, decide_eq_true hnew]
    rfl
  · rw [hlength, ← h.active]
    exact hactive
  · rw [if_neg (by simp [htakes]), hlength, ← h.gauge_getD]
    exact hgauge

/-- What changes nothing about the markers keeps them right. -/
theorem Inv.of_same (h : t.Inv steps) {t' : Tracked γ} {steps' : List (Step γ)}
    (htaken : t'.taken = t.taken) (hinFlight : t'.guarded.inFlight = t.guarded.inFlight)
    (hactive : t'.metrics.active = t.metrics.active) (hgauge : t'.metrics.gauge = t.metrics.gauge)
    (htakes : takes steps' = takes steps)
    (hreleases : ∀ m, m ∈ releases steps' ↔ m ∈ releases steps) : t'.Inv steps' := by
  have hheld : held steps' = held steps := by
    simp only [held, htakes, hreleases]
  constructor
  · rw [htaken, htakes, h.taken]
  · simp only [hinFlight, htakes, hreleases, h.inFlight]
  · rw [hactive, hheld, h.active]
  · rw [hgauge, htakes, hheld, h.gauge]

/-- Every step of an orderly sequence keeps the markers right. -/
theorem Inv.step (h : t.Inv steps) {next : Step γ} (horder : Orderly (steps ++ [next])) :
    (t.step next).Inv (steps ++ [next]) := by
  obtain ⟨hinit, hnew, hreleased⟩ := (Orderly.concat_iff steps next).1 horder
  cases next with
  | record event haside =>
    obtain ⟨hactive, hgauge⟩ := flight_record t.metrics event
    rw [haside] at hactive hgauge
    refine h.of_same rfl rfl (hactive.trans (Int.add_zero _)) hgauge ?_ fun m => ?_
    · simp [takes_concat, Step.taken?]
    · simp [releases_concat, Step.released?]
  | take marker =>
    exact h.step_take fun hmarker => hnew marker rfl (hinit.mem_takes hmarker)
  | release marker =>
    have htaken := hreleased marker rfl
    by_cases hagain : marker ∈ releases steps
    · -- It is among the released ones already, so neither the state nor what is held changes.
      have hsame := h.step_release_again htaken hagain
      rw [hsame]
      refine h.of_same rfl rfl rfl rfl ?_ fun m => ?_
      · simp [takes_concat, Step.taken?]
      · simp only [releases_concat, Step.released?, Option.toList_some, List.mem_append,
          List.mem_singleton, or_iff_left_iff_imp]
        rintro rfl
        exact hagain
    · exact h.step_release hinit.distinct htaken hagain

/-- Whatever orderly steps were taken, the markers are right. -/
theorem inv_run (h : Orderly steps) : (run steps).Inv steps := by
  induction steps using List.reverseRecOn with
  | nil => exact ⟨rfl, rfl, rfl, rfl⟩
  | append_singleton steps next ih =>
    rw [run_concat]
    exact (ih ((Orderly.concat_iff steps next).1 h).1).step h

end Tracked

/-! ## Other orders -/

/-- In another order the same number of markers is held. -/
theorem length_held_of_perm {steps' : List (Step γ)} (h : steps'.Perm steps) :
    (held steps').length = (held steps).length := by
  have hreleases (m : γ) : m ∈ releases steps' ↔ m ∈ releases steps :=
    (h.filterMap Step.released?).mem_iff
  simp only [held, hreleases]
  exact ((h.filterMap Step.taken?).filter _).length_eq

/-- Whatever is recorded, taken and released: every counter has the number of the events that count
in it, and is there if that is not zero; every histogram has the number of the events that are a
sample of it. A step changes no other counter and no other histogram. If markers are released only
after they are taken, and each is taken once, then the number of calls in flight is that of the
markers taken and not released, so it is never negative, and the gauge shows it too as soon as a
marker has been taken; releasing a marker again changes nothing; and the same steps in another order
of that kind lead to the same counters, the same counts of histograms, the same number of calls in
flight and the same gauge. All this is about the series as they are recorded, each under its own
labels; `Metrics.lines` comes after it, and shows series as one whose labels come out the same. -/
theorem metrics_of_steps (steps : List (Step γ)) :
    let m := (Tracked.run steps).metrics
    (∀ s, m.counters.get? s =
      if (recorded steps).countP (·.Counts s) = 0 then none
      else some ((recorded steps).countP (·.Counts s))) ∧
    (∀ s, (m.samplesOf s).length = (recorded steps).countP fun e => ∃ d, e.Samples s d) ∧
    (∀ next s,
      ((∀ e ∈ Step.event? next, ¬e.Counts s) →
        (Tracked.run (steps ++ [next])).metrics.counters.get? s = m.counters.get? s) ∧
      ((∀ e ∈ Step.event? next, ∀ d, ¬e.Samples s d) →
        (Tracked.run (steps ++ [next])).metrics.samples.get? s = m.samples.get? s)) ∧
    (Orderly steps →
      m.active = (held steps).length ∧
      m.gauge = (if takes steps = [] then none else some m.active) ∧
      (∀ marker, marker ∈ releases steps →
        Tracked.run (steps ++ [.release marker]) = Tracked.run steps) ∧
      ∀ steps', steps'.Perm steps → Orderly steps' →
        let m' := (Tracked.run steps').metrics
        (∀ s, m'.counters.get? s = m.counters.get? s ∧
          (m'.samplesOf s).length = (m.samplesOf s).length) ∧
        m'.active = m.active ∧ m'.gauge = m.gauge) := by
  intro m
  refine ⟨Tracked.counters_run steps, Tracked.length_samplesOf_run steps, fun next s => ⟨?_, ?_⟩,
    fun horder => ?_⟩
  · intro h
    rw [Tracked.run_concat, Tracked.counters_step_of_not _ h]
  · intro h
    rw [Tracked.run_concat, Tracked.samples_step_of_not _ h]
  · have hinv := Tracked.inv_run horder
    refine ⟨hinv.active, hinv.active ▸ hinv.gauge, fun marker hmarker => ?_,
      fun steps' hperm horder' => ⟨fun s => ?_, ?_, ?_⟩⟩
    · rw [Tracked.run_concat]
      exact hinv.step_release_again (horder.mem_takes hmarker) hmarker
    · have hrecorded : (recorded steps').Perm (recorded steps) := hperm.filterMap Step.event?
      rw [Tracked.counters_run, Tracked.counters_run, Tracked.length_samplesOf_run,
        Tracked.length_samplesOf_run, hrecorded.countP_eq, hrecorded.countP_eq]
      exact ⟨rfl, rfl⟩
    · rw [(Tracked.inv_run horder').active, hinv.active, length_held_of_perm hperm]
    · have htakes : takes steps' = [] ↔ takes steps = [] := by
        rw [← List.length_eq_zero_iff, ← List.length_eq_zero_iff, takes, takes,
          (hperm.filterMap Step.taken?).length_eq]
      rw [(Tracked.inv_run horder').gauge, hinv.gauge, length_held_of_perm hperm]
      simp only [htakes]

/-- One of two calls is over, and its marker released twice. -/
def twoCalls : List (Step Nat) :=
  [.take 1, .record (.request "GetItem" "ok" 5) rfl, .take 2, .release 1, .release 1]

/-- The other call is in flight, also if it begins before the request is recorded. -/
theorem twoCalls_one_in_flight :
    let m := (Tracked.run twoCalls).metrics
    let m' := (Tracked.run [.take 1, .take 2, .record (.request "GetItem" "ok" 5) rfl, .release 1,
      .release 1]).metrics
    m.counters.get? (.requests "GetItem" "ok") = some 1 ∧
    m.counters.get? (.requests "GetItem" "not_found") = none ∧
    (m.samplesOf (.requestDuration "GetItem" "ok")).length = 1 ∧
    m.active = 1 ∧ m.gauge = some 1 ∧ m'.active = 1 ∧ m'.gauge = some 1 := by
  intro m m'
  have hnil : Orderly ([] : List (Step Nat)) := ⟨List.nodup_nil, by simp⟩
  have h1 := (Orderly.concat_iff [] (.take 1)).2 ⟨hnil, by decide, by decide⟩
  have h2 := (Orderly.concat_iff _ (.record (.request "GetItem" "ok" 5) rfl)).2
    ⟨h1, by decide, by decide⟩
  have h3 := (Orderly.concat_iff _ (.take 2)).2 ⟨h2, by decide, by decide⟩
  have h4 := (Orderly.concat_iff _ (.release 1)).2 ⟨h3, by decide, by decide⟩
  have h5 : Orderly twoCalls := (Orderly.concat_iff _ (.release 1)).2 ⟨h4, by decide, by decide⟩
  have g2 := (Orderly.concat_iff _ (.take 2)).2 ⟨h1, by decide, by decide⟩
  have g3 := (Orderly.concat_iff _ (.record (.request "GetItem" "ok" 5) rfl)).2
    ⟨g2, by decide, by decide⟩
  have g4 := (Orderly.concat_iff _ (.release 1)).2 ⟨g3, by decide, by decide⟩
  have g5 := (Orderly.concat_iff _ (.release 1)).2 ⟨g4, by decide, by decide⟩
  obtain ⟨hcounters, hsamples, -, horderly⟩ := metrics_of_steps twoCalls
  obtain ⟨hactive, hgauge, -, hperm⟩ := horderly h5
  obtain ⟨-, hactive', hgauge'⟩ := hperm _ (.cons _ (.swap _ _ _)) g5
  have hone : m.active = 1 := hactive.trans (by decide)
  have hshown : m.gauge = some 1 := hgauge.trans (by rw [if_neg (by decide)]; exact congrArg _ hone)
  exact ⟨hcounters _, hcounters _, (hsamples _).trans (by decide), hone, hshown,
    hactive'.trans hone, hgauge'.trans hshown⟩

end ItemCatalog.Metrics
