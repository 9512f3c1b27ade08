import ItemCatalog.Health.Probes
import ItemCatalog.Proofs.Call
import ItemCatalog.Storage.Faulty
import Mathlib.Data.List.Forall2

/-!
# What the probes tell

A check is a program that ends with a finding, and what it ends with is up to the answers that it
gets. Main statement: `probes_tell_worst`, by which a summary has one report for each check, in
order, and the worst condition of all, and the standard readiness probe tells whether the items can
be counted and nothing else.

## Main definitions

* `Program.Ends`: the values that a program may end with, whatever it is answered.
* `Check.MayReport`: the reports that there may be of a check.
* `Condition.WorstOf`: the worst of some conditions, as an upper bound that is reached.
* `Response.untimed`: an answer without what differs from one measurement to the next.
-/

namespace ItemCatalog

/-! ## The values that a program may end with -/

namespace Program
variable {S : Signature} {α β σ : Type}

/-- Whether some answers lead a program to a value. -/
def Ends : Program S α → α → Prop
  | done b, a => b = a
  | ask _ resume, a => ∃ x, (resume x).Ends a

@[simp] theorem ends_done {a b : α} : (done b : Program S α).Ends a ↔ b = a := Iff.rfl

@[simp] theorem ends_ask {q : S.Question} {resume : S.Answer q → Program S α} {a : α} :
    (ask q resume).Ends a ↔ ∃ x, (resume x).Ends a := Iff.rfl

@[simp] theorem ends_request {q : S.Question} (x : S.Answer q) : (request q).Ends x :=
  ⟨x, rfl⟩

/-- A program after another ends where it may from an end of the other. -/
@[simp] theorem ends_bind_iff {p : Program S α} {f : α → Program S β} {b : β} :
    (p >>= f).Ends b ↔ ∃ a, p.Ends a ∧ (f a).Ends b := by
  induction p with
  | done a => simp
  | ask q resume ih =>
    simp only [ask_bind, ends_ask, ih]
    constructor
    · rintro ⟨x, a, ha, hb⟩
      exact ⟨a, ⟨x, ha⟩, hb⟩
    · rintro ⟨a, ⟨x, ha⟩, hb⟩
      exact ⟨x, a, ha, hb⟩

/-- A run ends with one of the values that there may be. -/
theorem ends_run (p : Program S α) (respond : Responder S σ) (s : σ) :
    p.Ends (p.run respond s).1 := by
  induction p generalizing s with
  | done a => rfl
  | ask q resume ih => exact ⟨_, ih _ _⟩

end Program

namespace Health
open Program

/-! ## The worst condition -/

namespace Condition
variable {c d : Condition} {l : List Condition}

theorem eq_of_severity_eq (h : c.severity = d.severity) : c = d := by
  revert h
  cases c <;> cases d <;> decide

/-- Whether a condition is the worst of some: none of them is worse, and it is one of them unless
nothing is wrong. -/
def WorstOf (c : Condition) (l : List Condition) : Prop :=
  (∀ d ∈ l, d.severity ≤ c.severity) ∧ (c = healthy ∨ c ∈ l)

theorem worse_eq_or (a b : Condition) : worse a b = a ∨ worse a b = b := by
  rw [worse]
  split
  · exact .inr rfl
  · exact .inl rfl

/-- No condition is worse than the worst of it, those known before included. -/
theorem severity_le_foldl (h : d ∈ c :: l) : d.severity ≤ (l.foldl worse c).severity := by
  -- What is known already stands in front of the list, so one statement covers both.
  induction l generalizing c d with
  | nil => rw [List.mem_singleton.1 h, List.foldl_nil]
  | cons b l ih =>
    have hworse : (worse c b).severity ≤ (l.foldl worse (worse c b)).severity :=
      ih (List.mem_cons_self ..)
    rw [severity_worse] at hworse
    rw [List.foldl_cons]
    rcases List.mem_cons.1 h with rfl | h
    · omega
    · rcases List.mem_cons.1 h with rfl | h
      · omega
      · exact ih (List.mem_cons_of_mem _ h)

theorem foldl_worse_mem (c : Condition) (l : List Condition) : l.foldl worse c ∈ c :: l := by
  induction l generalizing c with
  | nil => exact List.mem_singleton_self c
  | cons b l ih =>
    rw [List.foldl_cons]
    have hmem := ih (worse c b)
    rcases worse_eq_or c b with h | h
    · rw [h] at hmem ⊢
      exact List.mem_cons.2 ((List.mem_cons.1 hmem).imp_right (List.mem_cons_of_mem _))
    · rw [h] at hmem ⊢
      exact List.mem_cons_of_mem _ hmem

theorem eq_worst_iff : c = worst l ↔ c.WorstOf l := by
  have hreached := List.mem_cons.1 (foldl_worse_mem healthy l)
  constructor
  · rintro rfl
    exact ⟨fun d hd => severity_le_foldl (List.mem_cons_of_mem _ hd), hreached⟩
  · rintro ⟨hbound, hmem⟩
    have hle : c.severity ≤ (worst l).severity := severity_le_foldl (List.mem_cons.2 hmem)
    have hge : (worst l).severity ≤ c.severity := by
      rcases hreached with h | h
      · rw [worst, h]
        exact Nat.zero_le _
      · exact hbound _ h
    exact eq_of_severity_eq (Nat.le_antisymm hle hge)

/-- The worst of some conditions is that something is unhealthy just if something is. -/
theorem WorstOf.eq_unhealthy_iff (h : c.WorstOf l) : c = unhealthy ↔ unhealthy ∈ l := by
  constructor
  · rintro rfl
    exact h.2.resolve_left (by decide)
  · intro hmem
    have hbound : 2 ≤ c.severity := h.1 _ hmem
    cases c with
    | healthy => cases hbound
    | degraded => exact absurd hbound (by decide)
    | unhealthy => rfl

end Condition

/-! ## Summaries -/

/-- Whether there may be a report of a check: it has the name of the check and what the check found,
however long that took. -/
def Check.MayReport (check : Check) (report : Report) : Prop :=
  report.name = check.name ∧ check.examine.Ends report.finding

theorem Check.ends_run_iff {check : Check} {report : Report} :
    check.run.Ends report ↔ check.MayReport report := by
  rw [Check.run, MayReport, ends_bind_iff]
  simp only [ends_bind_iff, pure_eq, ends_done]
  constructor
  · rintro ⟨finding, hfinding, nanos, -, rfl⟩
    exact ⟨rfl, hfinding⟩
  · rintro ⟨hname, hfinding⟩
    -- Any duration may be measured, so the one in the report has to be scaled up only.
    refine ⟨_, hfinding, report.duration * 1000000, ends_request _, ?_⟩
    rw [Nat.mul_div_cancel _ (by decide), ← hname]

theorem ends_runAll_iff {checks : List Check} {reports : List Report} :
    (runAll checks).Ends reports ↔ List.Forall₂ Check.MayReport checks reports := by
  induction checks generalizing reports with
  | nil => rw [runAll, pure_eq, ends_done, List.forall₂_nil_left_iff, eq_comm]
  | cons check rest ih =>
    rw [runAll, List.forall₂_cons_left_iff]
    simp only [ends_bind_iff, pure_eq, ends_done, Check.ends_run_iff, ih]
    constructor
    · rintro ⟨report, hreport, reports, hreports, rfl⟩
      exact ⟨report, reports, hreport, hreports, rfl⟩
    · rintro ⟨report, reports, hreport, hreports, rfl⟩
      exact ⟨report, hreport, reports, hreports, rfl⟩

/-- The conditions in some reports. -/
def conditions (reports : List Report) : List Condition := reports.map (·.finding.condition)

theorem Summary.ofReports_eq_iff {reports : List Report} {summary : Summary} :
    .ofReports reports = summary ↔
      reports = summary.reports ∧ summary.condition.WorstOf (conditions reports) := by
  rw [← Condition.eq_worst_iff]
  constructor
  · rintro rfl
    exact ⟨rfl, rfl⟩
  · obtain ⟨condition, reported⟩ := summary
    rintro ⟨rfl, rfl⟩
    rfl

/-- A summary has one report for each check, in order, and the worst condition of all; and whatever
each check may find for itself, there may be a summary of it. -/
theorem ends_runChecks_iff {checks : List Check} {summary : Summary} :
    (runChecks checks).Ends summary ↔
      List.Forall₂ Check.MayReport checks summary.reports ∧
        summary.condition.WorstOf (conditions summary.reports) := by
  rw [runChecks, ends_bind_iff]
  simp only [ends_runAll_iff, pure_eq, ends_done, Summary.ofReports_eq_iff]
  constructor
  · rintro ⟨_, hreports, rfl, hworst⟩
    exact ⟨hreports, hworst⟩
  · rintro ⟨hreports, hworst⟩
    exact ⟨_, hreports, rfl, hworst⟩

/-! ## Answers -/

/-- Whether checks are those that a path asks for. -/
inductive Probes.Asks (probes : Probes) (path : String) : List Check → Prop
  | live : Target.ofPath? path = some .live → probes.Asks path probes.liveness
  | ready : Target.ofPath? path = some .ready → probes.Asks path probes.readiness

variable {probes : Probes} {metrics : Metrics} {path : String} {checks : List Check}
  {summary : Summary}

/-- A path that asks for checks is answered with their summary. -/
theorem Probes.answer_get (h : probes.Asks path checks) :
    probes.answer metrics "GET" path =
      runChecks checks >>= fun summary => .done (.ofSummary summary) := by
  cases h with
  | live h => simp only [answer, h, Probes.read, pure_eq]
  | ready h => simp only [answer, h, Probes.read, pure_eq]

theorem Probes.answer_head (h : probes.Asks path checks) :
    probes.answer metrics "HEAD" path =
      runChecks checks >>= fun summary => .done (Response.ofSummary summary).headOnly := by
  cases h with
  | live h => simp only [answer, h, Probes.read, pure_eq, bind_assoc, done_bind]
  | ready h => simp only [answer, h, Probes.read, pure_eq, bind_assoc, done_bind]

namespace Response

theorem codeOf_eq_503_iff {c : Condition} : codeOf c = 503 ↔ c = .unhealthy := by
  cases c <;> decide

theorem codeOf_eq_200_iff {c : Condition} : codeOf c = 200 ↔ c ≠ .unhealthy := by
  cases c <;> decide

theorem codeOf_eq_200_iff_of_ne {c : Condition} (h : c ≠ .degraded) :
    codeOf c = 200 ↔ c = .healthy := by
  revert h
  cases c <;> decide

/-- A summary is answered by 503 if a report is of something unhealthy, and by 200 if none is. -/
theorem code_ofSummary (h : summary.condition.WorstOf (conditions summary.reports)) :
    ((ofSummary summary).code = 503 ↔
        ∃ report ∈ summary.reports, report.finding.condition = .unhealthy) ∧
      ((ofSummary summary).code = 200 ↔
        ∀ report ∈ summary.reports, report.finding.condition ≠ .unhealthy) := by
  have hunhealthy : summary.condition = .unhealthy ↔
      ∃ report ∈ summary.reports, report.finding.condition = .unhealthy := by
    rw [h.eq_unhealthy_iff, conditions, List.mem_map]
  constructor
  · rw [ofSummary, codeOf_eq_503_iff, hunhealthy]
  · rw [ofSummary, codeOf_eq_200_iff, ne_eq, hunhealthy]
    simp only [not_exists, not_and, ne_eq]

end Response

/-! ## Answers without durations -/

/-- A report without how long the check took. -/
def Report.untimed (report : Report) : Report := { report with duration := 0 }

/-- A summary without how long the checks took. -/
def Summary.untimed (summary : Summary) : Summary :=
  { summary with reports := summary.reports.map Report.untimed }

/-- What an answer holds, without how long the checks took. -/
def Body.untimed : Body → Body
  | .summary summary => .summary summary.untimed
  | body => body

/-- An answer without how long the checks took. -/
def Response.untimed (response : Response) : Response :=
  { response with body := response.body.untimed }

/-! ## The standard readiness probe -/

/-- The finding that an identifier is read back as it was written. -/
def operational : Finding := ⟨.healthy, "Service layer is operational"⟩

theorem serviceFinding_ofRandom (bits : BitVec 128) :
    serviceFinding (.ofRandom bits) = operational := by
  unfold serviceFinding
  rw [Identifier.require_text (Identifier.ofRandom_ne_nil bits)]
  exact if_pos rfl

/-- What a count of the items says about storage. -/
def storageFound : Except Storage.Error Nat → Finding
  | .ok count => ⟨.healthy, "Storage is reachable (" ++ toString count ++ " items)"⟩
  | .error _ => ⟨.unhealthy, "Storage is unreachable"⟩

/-- The summary of the standard readiness probe for a count of the items, and how long it took to
count them and to read an identifier. -/
def readySummary (result : Except Storage.Error Nat) (counting reading : Nat) : Summary :=
  .ofReports [⟨"storage", storageFound result, counting⟩, ⟨"service", operational, reading⟩]

/-- The standard readiness probe is healthy if items were counted, and else unhealthy. -/
theorem condition_readySummary (result : Except Storage.Error Nat) (counting reading : Nat) :
    (readySummary result counting reading).condition ≠ .degraded ∧
      ((readySummary result counting reading).condition = .healthy ↔ ∃ n, result = .ok n) ∧
      ((readySummary result counting reading).condition = .unhealthy ↔
        ∃ e, result = .error e) := by
  cases result with
  | ok n =>
    have hhealthy : (readySummary (.ok n) counting reading).condition = .healthy := rfl
    simp [hhealthy]
  | error e =>
    have hunhealthy : (readySummary (.error e) counting reading).condition = .unhealthy := rfl
    simp [hunhealthy]

section Readiness
variable {σ : Type} (count : Serving (Except Storage.Error Nat))
  (respond : Responder Effect.signature σ) (s : σ)

/-- A run of a check reports what it found. -/
theorem Check.run_run (check : Check) :
    ∃ duration, (check.run.run respond s).1 =
      ⟨check.name, (check.examine.run respond s).1, duration⟩ := by
  rw [Check.run, run_bind]
  exact ⟨_, rfl⟩

theorem run_runAll_cons (check : Check) (rest : List Check) :
    ((runAll (check :: rest)).run respond s).1 =
      (check.run.run respond s).1 ::
        ((runAll rest).run respond (check.run.run respond s).2).1 := by
  rw [runAll, run_bind, run_bind, pure_eq, run_done]

theorem run_storageCheck :
    ((storageCheck count).examine.run respond s).1 = storageFound (count.run respond s).1 := by
  rw [storageCheck, run_bind]
  cases (count.run respond s).1 with
  | ok n => rfl
  | error e => rfl

theorem run_serviceCheck : (serviceCheck.examine.run respond s).1 = operational := by
  have hfound : (serviceCheck.examine.run respond s).1 =
      serviceFinding (.ofRandom (respond .random s).1) := by
    rw [serviceCheck, Serving.freshIdentifier, ask_bind, run_ask, done_bind, pure_eq, run_done]
  exact hfound.trans (serviceFinding_ofRandom _)

/-- The standard readiness probe tells what a count says about storage, and that identifiers are
read. -/
theorem run_readiness :
    ∃ counting reading,
      ((runChecks (Probes.standard count).readiness).run respond s).1 =
        readySummary (count.run respond s).1 counting reading := by
  obtain ⟨counting, hstorage⟩ := (storageCheck count).run_run respond s
  obtain ⟨reading, hservice⟩ :=
    serviceCheck.run_run respond ((storageCheck count).run.run respond s).2
  rw [run_storageCheck] at hstorage
  rw [run_serviceCheck] at hservice
  refine ⟨counting, reading, ?_⟩
  rw [Probes.standard, runChecks, run_bind, run_runAll_cons, run_runAll_cons, hstorage, hservice]
  rfl

variable (metrics : Metrics) (path : String)

/-- The answer of the standard readiness probe in some surroundings. -/
def readyAnswer : Response :=
  (((Probes.standard count).answer metrics "GET" path).run respond s).1

variable {path}

theorem readyAnswer_eq (h : Target.ofPath? path = some .ready) :
    ∃ counting reading, readyAnswer count respond s metrics path =
      .ofSummary (readySummary (count.run respond s).1 counting reading) := by
  obtain ⟨counting, reading, hsummary⟩ := run_readiness count respond s
  refine ⟨counting, reading, ?_⟩
  rw [readyAnswer, Probes.answer_get (.ready h), run_bind, run_done, hsummary]

end Readiness

theorem untimed_readyAnswer {σ : Type} {count : Serving (Except Storage.Error Nat)}
    {respond : Responder Effect.signature σ} {s : σ} {e : Storage.Error}
    (h : Target.ofPath? path = some .ready) (hcount : (count.run respond s).1 = .error e) :
    (readyAnswer count respond s metrics path).untimed =
      .ofSummary (readySummary (.error (.unavailable "")) 0 0) := by
  obtain ⟨counting, reading, hanswer⟩ := readyAnswer_eq count respond s metrics h
  rw [hanswer, hcount]
  rfl

/-- A run of checks ends with a summary that has one report for each check, in order, with what the
check found, and the worst condition of all; and there may be any such summary. It is answered by
503 if something is unhealthy, and by 200 if nothing is, with a body or without. The standard
readiness probe always finds the reading of identifiers healthy, whatever random bits they are made
of. So it is healthy, and answered by 200, just if the items can be counted; otherwise it is
unhealthy, and answered by 503, and durations aside the answer is the same whatever kept storage
from counting. -/
theorem probes_tell_worst :
    (∀ checks (σ : Type) (respond : Responder Effect.signature σ) s,
      (runChecks checks).Ends ((runChecks checks).run respond s).1) ∧
    (∀ checks summary, (runChecks checks).Ends summary ↔
      List.Forall₂ Check.MayReport checks summary.reports ∧
        summary.condition.WorstOf (conditions summary.reports)) ∧
    (∀ (probes : Probes) metrics path checks, probes.Asks path checks → ∀ response,
      ((probes.answer metrics "GET" path).Ends response ↔ ∃ summary,
        (runChecks checks).Ends summary ∧ response = .ofSummary summary) ∧
      ((probes.answer metrics "HEAD" path).Ends response ↔ ∃ summary,
        (runChecks checks).Ends summary ∧ response = (Response.ofSummary summary).headOnly)) ∧
    (∀ checks summary, (runChecks checks).Ends summary →
      ((Response.ofSummary summary).code = 503 ↔
        ∃ report ∈ summary.reports, report.finding.condition = .unhealthy) ∧
      ((Response.ofSummary summary).code = 200 ↔
        ∀ report ∈ summary.reports, report.finding.condition ≠ .unhealthy)) ∧
    (∀ path, Target.ofPath? path = some .ready →
      ∀ metrics count (σ : Type) (respond : Responder Effect.signature σ) s,
      ∃ condition storage service,
        readyAnswer count respond s metrics path = .ofSummary ⟨condition, [storage, service]⟩ ∧
        service.finding.condition = .healthy ∧ condition ≠ .degraded ∧
        (condition = .healthy ↔ ∃ n, (count.run respond s).1 = .ok n) ∧
        (condition = .unhealthy ↔ ∃ e, (count.run respond s).1 = .error e) ∧
        ((readyAnswer count respond s metrics path).code = 200 ↔
          ∃ n, (count.run respond s).1 = .ok n) ∧
        ((readyAnswer count respond s metrics path).code = 503 ↔
          ∃ e, (count.run respond s).1 = .error e)) ∧
    ∀ path path', Target.ofPath? path = some .ready → Target.ofPath? path' = some .ready →
      ∀ metrics metrics' count count' (σ σ' : Type) (respond : Responder Effect.signature σ)
        (respond' : Responder Effect.signature σ') s s' e e',
      (count.run respond s).1 = .error e → (count'.run respond' s').1 = .error e' →
      (readyAnswer count respond s metrics path).untimed =
        (readyAnswer count' respond' s' metrics' path').untimed := by
  refine ⟨fun checks _ => ends_run (runChecks checks), fun _ _ => ends_runChecks_iff, ?answered,
    ?coded, ?ready, ?silent⟩
  case answered =>
    intro probes metrics path checks h response
    rw [Probes.answer_get h, Probes.answer_head h, ends_bind_iff, ends_bind_iff]
    simp only [ends_done, eq_comm, and_self]
  case coded =>
    intro checks summary h
    exact Response.code_ofSummary (ends_runChecks_iff.1 h).2
  case ready =>
    intro path h metrics count σ respond s
    obtain ⟨counting, reading, hanswer⟩ := readyAnswer_eq count respond s metrics h
    obtain ⟨hdegraded, hhealthy, hunhealthy⟩ :=
      condition_readySummary (count.run respond s).1 counting reading
    refine ⟨_, _, _, hanswer, rfl, hdegraded, hhealthy, hunhealthy, ?_, ?_⟩
    · rw [hanswer, ← hhealthy]
      exact Response.codeOf_eq_200_iff_of_ne hdegraded
    · rw [hanswer, ← hunhealthy]
      exact Response.codeOf_eq_503_iff
  case silent =>
    intro path path' h h' metrics metrics' count count' σ σ' respond respond' s s' e e' he he'
    rw [untimed_readyAnswer h he, untimed_readyAnswer h' he']

/-- A check with a fixed finding. -/
def fixed (name : String) (condition : Condition) : Check := ⟨name, return ⟨condition, ""⟩⟩

/-- The answer of the standard readiness probe over a store with nothing in it. -/
def readyOver (b : Storage.Backend Storage.Table) (path : String) : Response :=
  readyAnswer (Serving.storage .count) (Surroundings.respond b) Call.untouched .empty path

/-- Something unhealthy is worse than something degraded; a table can be counted; and two outages
look alike, under two spellings of the path. -/
theorem outages_look_alike :
    (∃ response, (Probes.answer ⟨[], [fixed "slow" .degraded, fixed "down" .unhealthy]⟩ .empty
        "GET" "/health/ready").Ends response ∧ response.code = 503) ∧
      (readyOver Storage.Table.backend "/health/ready").code = 200 ∧
      (readyOver (.unreachable (.unavailable "gone")) "/health/ready").untimed =
        (readyOver (.unreachable (.database "password")) "/health/ready?verbose").untimed := by
  obtain ⟨-, hreports, hanswers, hcoded, hready, hsilent⟩ := probes_tell_worst
  have hpath : Target.ofPath? "/health/ready" = some .ready := by decide +kernel
  have hquery : Target.ofPath? "/health/ready?verbose" = some .ready := by decide +kernel
  refine ⟨?_, ?_, ?_⟩
  · have hsummary : (runChecks [fixed "slow" .degraded, fixed "down" .unhealthy]).Ends
        ⟨.unhealthy, [⟨"slow", ⟨.degraded, ""⟩, 7⟩, ⟨"down", ⟨.unhealthy, ""⟩, 3⟩]⟩ := by
      refine (hreports _ _).2 ⟨?_, ?_⟩
      · exact .cons ⟨rfl, rfl⟩ (.cons ⟨rfl, rfl⟩ .nil)
      · exact ⟨by decide, .inr (by decide)⟩
    refine ⟨_, (hanswers _ _ _ _ (.ready hpath) _).1.2 ⟨_, hsummary, rfl⟩, ?_⟩
    exact (hcoded _ _ hsummary).1.2 ⟨_, List.mem_cons_of_mem _ (List.mem_cons_self ..), rfl⟩
  · obtain ⟨_, _, _, -, -, -, -, -, hcode, -⟩ := hready _ hpath .empty (Serving.storage .count) _
      (Surroundings.respond Storage.Table.backend) Call.untouched
    exact hcode.2 ⟨0, rfl⟩
  · exact hsilent _ _ hpath hquery _ _ _ _ _ _ _ _ _ _ _ _ rfl rfl

end Health
end ItemCatalog
