import ItemCatalog.Health.Check
import ItemCatalog.Metrics.Exposition

/-!
# Probes

The paths under which a running service can be asked for its health and its metrics, and the
answers to requests for them.
-/

namespace ItemCatalog.Health

/-- The checks behind the two probes. -/
structure Probes where
  /-- Whether the process is up. -/
  liveness : List Check
  /-- Whether it can serve calls. -/
  readiness : List Check

/-- The standard probes of a service whose items are counted by `count`. -/
def Probes.standard (count : Serving (Except Storage.Error Nat)) : Probes where
  liveness := [selfCheck]
  readiness := [storageCheck count, serviceCheck]

/-- What a path leads to. -/
inductive Target
  | live
  | ready
  | metrics
deriving DecidableEq

/-- What a path leads to, if anything. A query after it does not matter. -/
def Target.ofPath? (path : String) : Option Target :=
  match String.ofList (path.toList.takeWhile fun c => c != '?' && c != '#') with
  | "/health/live" => some live
  | "/health/ready" => some ready
  | "/metrics" => some metrics
  | _ => none

/-- What an answer holds. -/
inductive Body
  | none
  | summary (summary : Summary)
  /-- The lines of the metrics. -/
  | metrics (lines : List String)
deriving DecidableEq

/-- The answer to a request. -/
structure Response where
  code : Nat
  contentType : Option String := Option.none
  /-- The methods that are allowed, where another one was used. -/
  allow : Option String := Option.none
  body : Body := .none
deriving DecidableEq

namespace Response

/-- The answer to a request for a path that leads nowhere. -/
def notFound : Response where
  code := 404

/-- The answer to a request with a method other than the two that read. -/
def notAllowed : Response where
  code := 405
  allow := some "GET,HEAD"

/-- A service is available unless something is unhealthy. -/
def codeOf : Condition → Nat
  | .unhealthy => 503
  | _ => 200

/-- The answer with a summary. -/
def ofSummary (summary : Summary) : Response where
  code := codeOf summary.condition
  contentType := some "application/json"
  body := .summary summary

/-- The answer with the metrics. -/
def ofMetrics (m : Metrics) : Response where
  code := 200
  contentType := some "text/plain; version=0.0.4"
  body := .metrics m.lines

/-- An answer without what it holds. -/
def headOnly (response : Response) : Response := { response with body := .none }

end Response

/-- Answers a request to read a target; `metrics` is how they stand. -/
def Probes.read (probes : Probes) (metrics : Metrics) : Target → Serving Response
  | .live => do
    let summary ← runChecks probes.liveness
    return .ofSummary summary
  | .ready => do
    let summary ← runChecks probes.readiness
    return .ofSummary summary
  | .metrics => return .ofMetrics metrics

/-- Answers a request. -/
def Probes.answer (probes : Probes) (metrics : Metrics) (method path : String) :
    Serving Response :=
  match Target.ofPath? path, method with
  | none, _ => return .notFound
  | some target, "GET" => probes.read metrics target
  | some target, "HEAD" => do
    let response ← probes.read metrics target
    return response.headOnly
  | some _, _ => return .notAllowed

end ItemCatalog.Health
