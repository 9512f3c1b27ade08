import ItemCatalog.Decimal.Shortest
import ItemCatalog.Metrics.Basic

/-!
# The exposition of metrics

Metrics as text for a scraper: for each family with anything in it a help line, a type line and
its samples. Label values are escaped, and series whose labels come out the same are shown as one.
-/

namespace ItemCatalog.Metrics

/-- Every family. -/
def Family.all : List Family :=
  [.requests, .requestDuration, .errors, .created, .updated, .deleted, .active, .databaseDuration,
    .invalid, .unauthorized]

/-- The name of a family. -/
def Family.name : Family → String
  | .requests => "itemstore_requests_total"
  | .requestDuration => "itemstore_request_duration_seconds"
  | .errors => "itemstore_errors_total"
  | .created => "itemstore_entities_created_total"
  | .updated => "itemstore_entities_updated_total"
  | .deleted => "itemstore_entities_deleted_total"
  | .active => "itemstore_active_connections"
  | .databaseDuration => "itemstore_database_operation_duration_seconds"
  | .invalid => "itemstore_validation_errors_total"
  | .unauthorized => "itemstore_authorization_failures_total"

/-- What a family measures, in words. -/
def Family.help : Family → String
  | .requests => "Total gRPC calls by method and outcome"
  | .requestDuration => "End-to-end gRPC call duration"
  | .errors => "Failed gRPC calls by method and status"
  | .created => "Items created"
  | .updated => "Items updated"
  | .deleted => "Items deleted"
  | .active => "Calls currently in flight"
  | .databaseDuration => "Storage round-trip duration by operation"
  | .invalid => "Calls rejected by request validation"
  | .unauthorized => "Calls rejected by authorization by operation and reason"

/-- The kind of a family. -/
def Family.kind : Family → Kind
  | .requestDuration => .histogram
  | .databaseDuration => .histogram
  | .active => .gauge
  | _ => .counter

/-- The word for a kind. -/
def Kind.word : Kind → String
  | .counter => "counter"
  | .gauge => "gauge"
  | .histogram => "histogram"

/-- The upper bounds of the buckets of durations: their texts and their values in nanoseconds. -/
def buckets : List (String × Nat) :=
  [("0.001", 1000000), ("0.005", 5000000), ("0.01", 10000000), ("0.025", 25000000),
    ("0.05", 50000000), ("0.1", 100000000), ("0.25", 250000000), ("0.5", 500000000),
    ("1", 1000000000), ("2.5", 2500000000), ("5", 5000000000), ("10", 10000000000)]

/-! ## Labels -/

/-- Escapes a label value, a single backslash being held back until what follows it is known. -/
def escapeFrom : (held : Bool) → List Char → List Char
  | held, [] => if held then ['\\', '\\'] else []
  | held, '\n' :: rest => '\\' :: 'n' :: escapeFrom held rest
  | _, '"' :: rest => '\\' :: '"' :: escapeFrom false rest
  | held, '\\' :: rest =>
    if held then '\\' :: '\\' :: escapeFrom false rest else escapeFrom true rest
  | held, c :: rest =>
    if held then '\\' :: '\\' :: c :: escapeFrom false rest else c :: escapeFrom false rest

/-- A label value between its quotes: newlines, quotes and backslashes are escaped, two
backslashes in a row being taken for one that is escaped already. -/
def escape (value : String) : String := String.ofList (escapeFrom false value.toList)

/-- One label with its value. -/
def labelText (label : String × String) : String :=
  label.1 ++ "=\"" ++ escape label.2 ++ "\""

/-- Labels between braces; nothing where there are none. -/
def braces (labels : List String) : String :=
  if labels.isEmpty then "" else "\x7b" ++ String.intercalate "," labels ++ "\x7d"

/-! ## Samples -/

/-- A duration in seconds. -/
def seconds (nanos : Nat) : Float :=
  Float.ofNat (nanos / 1000000000) + Float.ofNat (nanos % 1000000000) / 1000000000.0

/-- The lines of one histogram. -/
def histogramLines (name : String) (labels : List String) (samples : List Nat) : List String :=
  let count := toString samples.length
  let bucket := fun (bound n : String) =>
    name ++ "_bucket" ++ braces (labels ++ ["le=\"" ++ bound ++ "\""]) ++ " " ++ n
  buckets.map (fun b => bucket b.1 (toString (samples.countP fun d => d ≤ b.2))) ++
    [bucket "+Inf" count,
      name ++ "_sum" ++ braces labels ++ " " ++
        Decimal.text (samples.foldl (fun sum d => sum + seconds d) 0.0),
      name ++ "_count" ++ braces labels ++ " " ++ count]

/-- The counters of a family by the text of their labels. -/
def shownCounters (m : Metrics) (family : Family) : Assoc (List String) Nat :=
  (m.counters.entries.filter fun e => e.1.family = family).foldl
    (fun shown e => shown.insert (e.1.labels.map labelText) e.2) .empty

/-- The samples of a family by the text of their labels. -/
def shownSamples (m : Metrics) (family : Family) : Assoc (List String) (List Nat) :=
  (m.samples.entries.filter fun e => e.1.family = family).foldl
    (fun shown e => shown.alter (e.1.labels.map labelText) fun l => l.getD [] ++ e.2) .empty

/-- The lines of a family below its head. -/
def bodyLines (m : Metrics) (family : Family) : List String :=
  match family.kind with
  | .counter =>
    (m.shownCounters family).entries.map fun e =>
      family.name ++ braces e.1 ++ " " ++ toString e.2
  | .histogram =>
    (m.shownSamples family).entries.flatMap fun e => histogramLines family.name e.1 e.2
  | .gauge => m.gauge.toList.map fun n => family.name ++ " " ++ toString n

/-- The lines of a family, none if nothing was recorded in it. -/
def familyLines (m : Metrics) (family : Family) : List String :=
  let body := m.bodyLines family
  if body.isEmpty then []
  else
    ("# HELP " ++ family.name ++ " " ++ family.help) ::
      ("# TYPE " ++ family.name ++ " " ++ family.kind.word) :: body

/-- Every line of the exposition. -/
def lines (m : Metrics) : List String := Family.all.flatMap m.familyLines

/-- A short description of the state. -/
def summary (m : Metrics) : String :=
  "Metrics \x7b active: " ++ toString m.active ++ ", .. \x7d"

end ItemCatalog.Metrics
