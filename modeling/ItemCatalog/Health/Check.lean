import ItemCatalog.Effect
import ItemCatalog.Message.Check

/-!
# Health checks

Checks of the parts of a running service, and the summary of a list of checks: one report for each
of them, in order, and the worst condition of all. Main statements: a summary reports what was
checked, and no report is worse than the summary.
-/

namespace ItemCatalog.Health

/-- The condition of a part of the service, the worse the later. -/
inductive Condition
  | healthy
  | degraded
  | unhealthy
deriving DecidableEq

namespace Condition

/-- The name of a condition. -/
def name : Condition → String
  | healthy => "healthy"
  | degraded => "degraded"
  | unhealthy => "unhealthy"

/-- How bad a condition is. -/
def severity : Condition → Nat
  | healthy => 0
  | degraded => 1
  | unhealthy => 2

/-- The worse of two conditions. -/
def worse (a b : Condition) : Condition := if a.severity < b.severity then b else a

/-- The worst of some conditions; nothing is wrong where nothing is checked. -/
def worst (l : List Condition) : Condition := l.foldl worse healthy

@[simp] theorem severity_worse (a b : Condition) :
    (worse a b).severity = max a.severity b.severity := by
  unfold worse
  split <;> omega

end Condition

/-- What a check found. -/
structure Finding where
  condition : Condition
  description : String
deriving DecidableEq

/-- A check of a part of the service. -/
structure Check where
  name : String
  examine : Serving Finding

/-- What is reported of one check. -/
structure Report where
  name : String
  finding : Finding
  /-- How many milliseconds the check took. -/
  duration : Nat
deriving DecidableEq

/-- What is reported of a list of checks. -/
structure Summary where
  condition : Condition
  reports : List Report
deriving DecidableEq

/-- The summary of reports. -/
def Summary.ofReports (reports : List Report) : Summary where
  condition := .worst (reports.map (·.finding.condition))
  reports := reports

/-- Runs one check. -/
def Check.run (check : Check) : Serving Report := do
  let finding ← check.examine
  let nanos ← Serving.elapsed
  return ⟨check.name, finding, nanos / 1000000⟩

/-- Runs checks in order. -/
def runAll : List Check → Serving (List Report)
  | [] => return []
  | check :: rest => do
    let report ← check.run
    let reports ← runAll rest
    return report :: reports

/-- Runs checks and sums up what they found. -/
def runChecks (checks : List Check) : Serving Summary := do
  let reports ← runAll checks
  return .ofReports reports

/-! ## The standard checks -/

/-- Passes as long as anything runs at all. -/
def selfCheck : Check where
  name := "self"
  examine := return ⟨.healthy, "Service is running"⟩

/-- What a count of the stored items says about storage. -/
def storageFinding : Except Storage.Error Nat → Serving Finding
  | .ok count =>
    return ⟨.healthy, "Storage is reachable (" ++ toString count ++ " items)"⟩
  | .error e => do
    Serving.event .warn "Storage health check failed" [("error", e.message)]
    return ⟨.unhealthy, "Storage is unreachable"⟩

/-- Counts the stored items. -/
def storageCheck (count : Serving (Except Storage.Error Nat)) : Check where
  name := "storage"
  examine := do
    let result ← count
    storageFinding result

/-- What the check of an identifier's text says about the checks of requests. -/
def serviceFinding (id : Identifier) : Finding :=
  match Identifier.require id.text Field.id with
  | .ok read =>
    if read = id then ⟨.healthy, "Service layer is operational"⟩
    else ⟨.degraded, "Service layer validation is inconsistent"⟩
  | .error _ => ⟨.degraded, "Service layer validation is inconsistent"⟩

/-- Writes a fresh identifier and reads it back. -/
def serviceCheck : Check where
  name := "service"
  examine := do
    let id ← Serving.freshIdentifier
    return serviceFinding id

end ItemCatalog.Health
