import ItemCatalog.Assoc
import ItemCatalog.Operation

/-!
# Metrics

What the service counts and times: counters and histograms by series, and the calls in flight. A
series is a family with the values of its labels. Main statements: what each event does to each
series.
-/

namespace ItemCatalog.Metrics

/-- The kinds of families. -/
inductive Kind
  | counter
  | gauge
  | histogram
deriving DecidableEq

/-- The families of series. -/
inductive Family
  | requests
  | requestDuration
  | errors
  | created
  | updated
  | deleted
  | active
  | databaseDuration
  | invalid
  | unauthorized
deriving DecidableEq

/-- A family with the values of its labels. -/
structure Series where
  family : Family
  labels : List (String × String) := []
deriving DecidableEq

/-- Something that is recorded. Durations are in nanoseconds. -/
inductive Event
  /-- A call begins. -/
  | enter
  /-- A call is over, however it ended. -/
  | leave
  | request (method status : String) (duration : Nat)
  | error (method errorType : String)
  /-- An operation succeeded; reading changes nothing and is not counted. -/
  | change (operation : Operation)
  | database (operation : Operation) (duration : Nat)
  | invalid (method : String)
  | unauthorized (operation : Operation) (reason : String)
deriving DecidableEq

/-- The requests to a method that ended with a status. -/
def Series.requests (method status : String) : Series :=
  ⟨.requests, [("method", method), ("status", status)]⟩

/-- The durations of those requests. -/
def Series.requestDuration (method status : String) : Series :=
  ⟨.requestDuration, [("method", method), ("status", status)]⟩

/-- The failed requests to a method. -/
def Series.errors (method errorType : String) : Series :=
  ⟨.errors, [("method", method), ("error_type", errorType)]⟩

/-- The successful changes by an operation. -/
def Series.changes? : Operation → Option Series
  | .create => some ⟨.created, []⟩
  | .update => some ⟨.updated, []⟩
  | .delete => some ⟨.deleted, []⟩
  | .read => none

/-- The durations of storage operations. -/
def Series.databaseDuration (operation : Operation) : Series :=
  ⟨.databaseDuration, [("operation", operation.name)]⟩

/-- The requests to a method that failed its checks. -/
def Series.invalid (method : String) : Series := ⟨.invalid, [("method", method)]⟩

/-- The calls that were not allowed an operation. -/
def Series.unauthorized (operation : Operation) (reason : String) : Series :=
  ⟨.unauthorized, [("operation", operation.name), ("reason", reason)]⟩

/-- The series that an event counts in. -/
def Event.counted : Event → List Series
  | .enter => []
  | .leave => []
  | .request method status _ => [.requests method status]
  | .error method errorType => [.errors method errorType]
  | .change operation => (Series.changes? operation).toList
  | .database .. => []
  | .invalid method => [.invalid method]
  | .unauthorized operation reason => [.unauthorized operation reason]

/-- The series that an event is a sample of, with the duration. -/
def Event.sampled : Event → List (Series × Nat)
  | .request method status duration => [(.requestDuration method status, duration)]
  | .database operation duration => [(.databaseDuration operation, duration)]
  | _ => []

end Metrics

/-- Everything recorded so far: counts, samples in the order in which they came, the calls in
flight, and the gauge that shows their number once there has been one. -/
structure Metrics where
  counters : Assoc Metrics.Series Nat
  samples : Assoc Metrics.Series (List Nat)
  active : Int
  gauge : Option Int

namespace Metrics

/-- Nothing recorded. -/
def empty : Metrics := ⟨.empty, .empty, 0, none⟩

instance : Inhabited Metrics := ⟨empty⟩

/-- Counts one more in a series. -/
def bump (m : Metrics) (s : Series) : Metrics :=
  { m with counters := m.counters.alter s fun n => n.getD 0 + 1 }

/-- Adds a sample to a series. -/
def sample (m : Metrics) (s : Series) (duration : Nat) : Metrics :=
  { m with samples := m.samples.alter s fun l => l.getD [] ++ [duration] }

/-- Changes the number of calls in flight. -/
def shift (m : Metrics) (by' : Int) : Metrics :=
  { m with active := m.active + by', gauge := some (m.gauge.getD 0 + by') }

/-- How an event changes the number of calls in flight, if it does. -/
def Event.flight? : Event → Option Int
  | .enter => some 1
  | .leave => some (-1)
  | _ => none

/-- Records an event. -/
def record (m : Metrics) (e : Event) : Metrics :=
  let m := e.counted.foldl bump m
  let m := e.sampled.foldl (fun m s => m.sample s.1 s.2) m
  match e.flight? with
  | some n => m.shift n
  | none => m

/-- The count of a series. -/
def count (m : Metrics) (s : Series) : Nat := (m.counters.get? s).getD 0

/-- The samples of a series. -/
def samplesOf (m : Metrics) (s : Series) : List Nat := (m.samples.get? s).getD []

@[simp] theorem count_empty (s : Series) : empty.count s = 0 := rfl
@[simp] theorem samplesOf_empty (s : Series) : empty.samplesOf s = [] := rfl

@[simp] theorem count_bump (m : Metrics) (s t : Series) :
    (m.bump s).count t = m.count t + if t = s then 1 else 0 := by
  by_cases h : t = s
  · subst h; simp [count, bump, Assoc.get?_alter]
  · simp [count, bump, Assoc.get?_alter, h]

@[simp] theorem count_sample (m : Metrics) (s t : Series) (d : Nat) :
    (m.sample s d).count t = m.count t := rfl

@[simp] theorem count_shift (m : Metrics) (n : Int) (t : Series) :
    (m.shift n).count t = m.count t := rfl

@[simp] theorem samplesOf_bump (m : Metrics) (s t : Series) :
    (m.bump s).samplesOf t = m.samplesOf t := rfl

@[simp] theorem samplesOf_sample (m : Metrics) (s t : Series) (d : Nat) :
    (m.sample s d).samplesOf t = m.samplesOf t ++ if t = s then [d] else [] := by
  by_cases h : t = s
  · subst h; simp [samplesOf, sample, Assoc.get?_alter]
  · simp [samplesOf, sample, Assoc.get?_alter, h]

@[simp] theorem samplesOf_shift (m : Metrics) (n : Int) (t : Series) :
    (m.shift n).samplesOf t = m.samplesOf t := rfl

end Metrics
end ItemCatalog
