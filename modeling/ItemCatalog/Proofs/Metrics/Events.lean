import ItemCatalog.Metrics.Basic

/-!
# What an event does to metrics

Main statements: an event counts once in one series at most (`counters_record`), it is a sample of
one series at most (`samples_record`), and it changes the number of calls in flight and the gauge
alike (`flight_record`).

## Main definitions

* `Event.Counts`, `Event.Samples`: the series that an event is to count in, and the one that it is
  to be a sample of.
* `Event.durations`: the samples of a series that an event brings.
-/

namespace ItemCatalog.Metrics

/-! ## Counters -/

/-- The series in which an event counts, by family and labels. -/
inductive Event.Counts : Event → Series → Prop
  | request (method status : String) (duration : Nat) :
      Counts (.request method status duration)
        ⟨.requests, [("method", method), ("status", status)]⟩
  | error (method errorType : String) :
      Counts (.error method errorType) ⟨.errors, [("method", method), ("error_type", errorType)]⟩
  | created : Counts (.change .create) ⟨.created, []⟩
  | updated : Counts (.change .update) ⟨.updated, []⟩
  | deleted : Counts (.change .delete) ⟨.deleted, []⟩
  | invalid (method : String) : Counts (.invalid method) ⟨.invalid, [("method", method)]⟩
  | unauthorized (operation : Operation) (reason : String) :
      Counts (.unauthorized operation reason)
        ⟨.unauthorized, [("operation", operation.name), ("reason", reason)]⟩

theorem Event.counts_iff {e : Event} {s : Series} : e.Counts s ↔ s ∈ e.counted := by
  constructor
  · intro h
    cases h <;> exact List.mem_singleton.2 rfl
  · intro h
    cases e with
    | change operation =>
      cases operation with
      | create => cases List.mem_singleton.1 h; exact .created
      | update => cases List.mem_singleton.1 h; exact .updated
      | delete => cases List.mem_singleton.1 h; exact .deleted
      | read => cases h
    | request method status d => cases List.mem_singleton.1 h; exact .request method status d
    | error method errorType => cases List.mem_singleton.1 h; exact .error method errorType
    | invalid method => cases List.mem_singleton.1 h; exact .invalid method
    | unauthorized operation reason =>
      cases List.mem_singleton.1 h
      exact .unauthorized operation reason
    | enter => cases h
    | leave => cases h
    | database operation d => cases h

instance (e : Event) (s : Series) : Decidable (e.Counts s) :=
  decidable_of_iff (s ∈ e.counted) Event.counts_iff.symm

/-- An event counts in one series at most. -/
theorem Event.counted_cases (e : Event) : e.counted = [] ∨ ∃ s, e.counted = [s] := by
  cases e with
  | change operation => cases operation <;> simp [counted, Series.changes?]
  | _ => simp [counted]

theorem counters_foldl_sample (l : List (Series × Nat)) (m : Metrics) :
    (l.foldl (fun m e => m.sample e.1 e.2) m).counters = m.counters := by
  induction l generalizing m with
  | nil => rfl
  | cons t rest ih => exact ih (m.sample t.1 t.2)

theorem count_foldl_bump (l : List Series) (m : Metrics) (s : Series) :
    (l.foldl bump m).count s = m.count s + l.count s := by
  induction l generalizing m with
  | nil => rfl
  | cons t rest ih =>
    rw [List.foldl_cons, ih, count_bump, List.count_cons]
    by_cases h : s = t
    · subst h; simp; omega
    · simp [h, Ne.symm h]

/-- Of an event only that it counts reaches the counters. -/
theorem counters_record_eq (m : Metrics) (e : Event) :
    (m.record e).counters = (e.counted.foldl bump m).counters := by
  rw [← counters_foldl_sample e.sampled (e.counted.foldl bump m), record]
  cases e.flight? <;> rfl

/-- An event counts in its own series, and in no other. -/
theorem count_record (m : Metrics) (e : Event) (s : Series) :
    (m.record e).count s = m.count s + e.counted.count s := by
  rw [← count_foldl_bump, count, counters_record_eq, count]

/-- An event counts once in the series that it counts in, and changes no other counter. -/
theorem counters_record (m : Metrics) (e : Event) (s : Series) :
    (m.record e).counters.get? s =
      if e.Counts s then some (m.count s + 1) else m.counters.get? s := by
  simp only [counters_record_eq, Event.counts_iff]
  rcases e.counted_cases with hnone | ⟨t, hone⟩
  · simp [hnone]
  · simp only [hone, List.foldl_cons, List.foldl_nil, bump, Assoc.get?_alter, List.mem_singleton]
    by_cases h : s = t
    · subst h
      rfl
    · rw [if_neg h, if_neg h]

/-! ## Samples -/

/-- The series of which an event is a sample, and its duration. -/
inductive Event.Samples : Event → Series → Nat → Prop
  | request (method status : String) (duration : Nat) :
      Samples (.request method status duration)
        ⟨.requestDuration, [("method", method), ("status", status)]⟩ duration
  | database (operation : Operation) (duration : Nat) :
      Samples (.database operation duration)
        ⟨.databaseDuration, [("operation", operation.name)]⟩ duration

theorem Event.samples_iff {e : Event} {s : Series} {d : Nat} :
    e.Samples s d ↔ (s, d) ∈ e.sampled := by
  constructor
  · intro h
    cases h <;> exact List.mem_singleton.2 rfl
  · intro h
    cases e with
    | request method status d => cases List.mem_singleton.1 h; exact .request method status d
    | database operation d => cases List.mem_singleton.1 h; exact .database operation d
    | _ => cases h

/-- The samples of a series that an event brings. -/
def Event.durations (e : Event) (s : Series) : List Nat :=
  (e.sampled.filter (·.1 = s)).map (·.2)

theorem Event.mem_durations {e : Event} {s : Series} {d : Nat} :
    d ∈ e.durations s ↔ e.Samples s d := by
  simp [durations, samples_iff]

theorem Event.durations_ne_nil_iff {e : Event} {s : Series} :
    e.durations s ≠ [] ↔ ∃ d, e.Samples s d := by
  simp only [← mem_durations]
  exact ⟨List.exists_mem_of_ne_nil _, fun ⟨d, hd⟩ => List.ne_nil_of_mem hd⟩

instance (e : Event) (s : Series) : Decidable (∃ d, e.Samples s d) :=
  decidable_of_iff (e.durations s ≠ []) Event.durations_ne_nil_iff

/-- An event is a sample of one series at most. -/
theorem Event.sampled_cases (e : Event) : e.sampled = [] ∨ ∃ s d, e.sampled = [(s, d)] := by
  cases e <;> simp [sampled]

theorem Event.length_durations (e : Event) (s : Series) :
    (e.durations s).length = if ∃ d, e.Samples s d then 1 else 0 := by
  simp only [← durations_ne_nil_iff, durations]
  rcases e.sampled_cases with hnone | ⟨t, d, hone⟩
  · simp [hnone]
  · by_cases h : t = s
    · simp [hone, h]
    · simp [hone, h]

theorem samples_foldl_bump (l : List Series) (m : Metrics) :
    (l.foldl bump m).samples = m.samples := by
  induction l generalizing m with
  | nil => rfl
  | cons t rest ih => exact ih (m.bump t)

theorem samples_record_eq (m : Metrics) (e : Event) :
    (m.record e).samples =
      (e.sampled.foldl (fun m s => m.sample s.1 s.2) (e.counted.foldl bump m)).samples := by
  rw [record]
  cases e.flight? <;> rfl

/-- The samples that an event brings are added to their series, and no other series changes. -/
theorem samples_record (m : Metrics) (e : Event) (s : Series) :
    (m.record e).samples.get? s =
      if e.durations s = [] then m.samples.get? s
      else some (m.samplesOf s ++ e.durations s) := by
  rw [samples_record_eq, Event.durations]
  rcases e.sampled_cases with hnone | ⟨t, d, hone⟩
  · rw [hnone, List.foldl_nil, samples_foldl_bump]
    rfl
  · rw [hone, List.foldl_cons, List.foldl_nil, sample, Assoc.get?_alter, samples_foldl_bump]
    by_cases h : s = t
    · subst h
      simp [samplesOf]
    · simp [h, Ne.symm h]

/-! ## Calls in flight -/

/-- Counting and sampling leave the calls in flight alone. -/
theorem flight_foldl {β : Type} {f : Metrics → β → Metrics}
    (hf : ∀ m b, (f m b).active = m.active ∧ (f m b).gauge = m.gauge) (l : List β) (m : Metrics) :
    (l.foldl f m).active = m.active ∧ (l.foldl f m).gauge = m.gauge := by
  induction l generalizing m with
  | nil => exact ⟨rfl, rfl⟩
  | cons b rest ih => exact ⟨(ih (f m b)).1.trans (hf m b).1, (ih (f m b)).2.trans (hf m b).2⟩

/-- The gauge shows the number of calls in flight from the first event that changes it. -/
theorem flight_record (m : Metrics) (e : Event) :
    (m.record e).active = m.active + e.flight?.getD 0 ∧
      (m.record e).gauge = (e.flight?.map (m.gauge.getD 0 + ·)).or m.gauge := by
  obtain ⟨hactive, hgauge⟩ := flight_foldl (f := bump) (fun _ _ => ⟨rfl, rfl⟩) e.counted m
  obtain ⟨hactive', hgauge'⟩ := flight_foldl
    (f := fun m (s : Series × Nat) => m.sample s.1 s.2) (fun _ _ => ⟨rfl, rfl⟩) e.sampled
    (e.counted.foldl bump m)
  simp only [record]
  cases e.flight? with
  | none => simp [hactive, hactive', hgauge, hgauge']
  | some n => simp [shift, hactive, hactive', hgauge, hgauge']

end ItemCatalog.Metrics
