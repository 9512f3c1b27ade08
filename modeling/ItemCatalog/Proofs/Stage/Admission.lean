import ItemCatalog.Proofs.Service.Demands

/-!
# Who gets past the gate

A pipeline starts the handler of a call once, or not at all. `Starts f seen` says that `f`, a
program made of a handler, does something, then what the handler does with the call `seen`, and then
something else, and that only the middle of it depends on the handler; `Skips f` says that nothing
of it does. Main statement: behind the gate a handler is started just for public methods and for
calls whose token is accepted for a user who holds the grant, with that user attached, and every
other call is refused with the status of the first test that it fails (`gate_decides`).

## Main definitions

* `Pipeline.Starts`, `Pipeline.Skips`: whether a handler is started, and with which call.
* `Pipeline.Refuses`: whether a call gets a status in place of being handled.
-/

namespace ItemCatalog

/-! ## Programs that differ in one place -/

/-- Any request may be answered, and any that can fail may fail. -/
instance (r : Storage.Request) : Nonempty r.Answer := by
  cases r with
  | start => exact ⟨()⟩
  | save name => exact ⟨Identifier.nil⟩
  | find id => exact ⟨.error (.conflict .nil)⟩
  | page window => exact ⟨.error (.conflict .nil)⟩
  | update item => exact ⟨()⟩
  | delete item => exact ⟨()⟩
  | commit => exact ⟨.error (.conflict .nil)⟩
  | count => exact ⟨.error (.conflict .nil)⟩

instance (e : Effect) : Nonempty e.Answer := by
  cases e with
  | storage r => exact inferInstanceAs (Nonempty r.Answer)
  | random => exact ⟨(0 : BitVec 128)⟩
  | elapsed => exact ⟨(0 : Nat)⟩
  | record event => exact ⟨()⟩
  | log entry => exact ⟨()⟩
  | note mark => exact ⟨()⟩

namespace Serving
variable {α β : Type} {p : Serving α} {q : Serving β} {a : α}

/-- If two programs are the same after the same beginning, they are the same in some place. -/
theorem exists_eq_of_bind_eq {f g : α → Serving β} (h : p >>= f = p >>= g) : ∃ a, f a = g a := by
  induction p with
  | done a => exact ⟨a, h⟩
  | ask e k ih =>
    have x : e.Answer := Classical.ofNonempty
    rw [Program.ask_bind, Program.ask_bind, Program.ask.injEq] at h
    exact ih x (congrFun (eq_of_heq h.2) x)

/-- A program that only has to end, and one that comes after it. -/
theorem Returns.bind (h : Returns p a) {f : α → Serving β} (hf : (f a).Follows q) :
    (p >>= f).Follows q := by
  rw [Returns] at h
  generalize hd : (.done a : Serving α) = d at h
  induction h with
  | done b =>
    cases hd
    exact hf
  | storage r _ _ => cases hd
  | aside he _ ih => exact .aside he fun x => ih x hd

end Serving

namespace Pipeline
variable {α β γ : Type} {f : (Call → Serving (Outcome α)) → Serving β} {call seen other : Call}

/-- Whether a program starts the handler of which it is made with a call, once and whatever the
handler is. -/
def Starts (f : (Call → Serving (Outcome α)) → Serving β) (seen : Call) : Prop :=
  ∃ (before : Serving Unit) (after : Outcome α → Serving β),
    ∀ handler, f handler = before >>= fun _ => handler seen >>= after

/-- Whether a program never starts the handler of which it is made. -/
def Skips (f : (Call → Serving (Outcome α)) → Serving β) : Prop :=
  ∀ handler handler', f handler = f handler'

/-- Whether a call is refused with a status before its handler is started. -/
def Refuses (stages : Pipeline α) (call : Call) (status : Status) : Prop :=
  Skips (stages.call call) ∧ ∀ handler, (stages.call call handler).Returns (.refused status)

/-- A handler that leaves a mark. -/
private def marking (mark : String) : Serving (Outcome α) :=
  .ask (.note mark) fun _ => .done (.panicked .other)

private theorem marking_bind_ne {before : Serving Unit} {after : Outcome α → Serving β} :
    (before >>= fun _ => marking "a" >>= after) ≠ (before >>= fun _ => marking "b" >>= after) := by
  intro h
  obtain ⟨_, heq⟩ := Serving.exists_eq_of_bind_eq h
  injection heq with hmark
  injection hmark with hmark
  exact absurd hmark (by decide)

/-- A program that starts its handler does not skip it. -/
theorem Starts.not_skips (h : Starts f seen) : ¬Skips f := by
  intro hskips
  obtain ⟨before, after, hf⟩ := h
  have heq := hskips (fun _ => marking "a") fun _ => marking "b"
  rw [hf, hf] at heq
  exact marking_bind_ne heq

/-- A handler is started with one call only: one that behaves differently with another call makes
no difference. -/
theorem Starts.unique (h : Starts f seen) (h' : Starts f other) : seen = other := by
  obtain ⟨before, after, hf⟩ := h
  obtain ⟨before', after', hf'⟩ := h'
  have heq : f (fun _ => marking "a") =
      f fun call => if call = seen then marking "a" else marking "b" := by
    rw [hf, hf, if_pos rfl]
  by_cases hother : other = seen
  · exact hother.symm
  · rw [hf', hf', if_neg hother] at heq
    exact absurd heq marking_bind_ne

theorem Starts.congr {g : (Call → Serving (Outcome α)) → Serving β} (h : Starts f seen)
    (hg : ∀ handler, g handler = f handler) : Starts g seen := by
  obtain ⟨before, after, hf⟩ := h
  exact ⟨before, after, fun handler => (hg handler).trans (hf handler)⟩

/-- Something that comes first leaves the call with which a program starts its handler. -/
theorem Starts.delay (h : Starts f seen) (first : Serving Unit) :
    Starts (fun handler => first >>= fun _ => f handler) seen := by
  obtain ⟨before, after, hf⟩ := h
  refine ⟨first >>= fun _ => before, after, fun handler => ?_⟩
  simp only [hf, bind_assoc]

/-- So does something that comes last. -/
theorem Starts.bind (h : Starts f seen) (last : β → Serving γ) :
    Starts (fun handler => f handler >>= last) seen := by
  obtain ⟨before, after, hf⟩ := h
  refine ⟨before, fun outcome => after outcome >>= last, fun handler => ?_⟩
  simp only [hf, bind_assoc]

end Pipeline

/-! ## Stages -/

namespace Stage
variable {α : Type} {inner : (Call → Serving (Outcome α)) → Handling α} {next : Handling α}
  {validator : Validator} {call seen : Call} {user : User}

/-- What metering does once the rest of the stages is through. -/
def settle (ended : Call × Outcome (Reply α)) : Serving (Call × Outcome (Reply α)) := do
  let duration ← Serving.elapsed
  recordAll (endEvents ended.1 duration ended.2)
  Serving.record .leave
  return ended

theorem wrap_metering (next : Handling α) (call : Call) :
    metering.wrap next call = Serving.record .enter >>= fun _ => next call >>= settle := rfl

theorem returns_logAll (entries : List Log.Entry) : (logAll entries).Returns () := by
  induction entries with
  | nil => exact .done ()
  | cons e rest ih => exact .aside rfl fun _ => ih

theorem returns_recordAll (events : List Metrics.Event) : (recordAll events).Returns () := by
  induction events with
  | nil => exact .done ()
  | cons e rest ih => exact .aside rfl fun _ => ih

theorem returns_settle (ended : Call × Outcome (Reply α)) : (settle ended).Returns ended := by
  refine .aside rfl fun duration => (returns_recordAll _).bind ?_
  exact .aside rfl fun _ => .done ended

theorem wrap_gate_of_isPublic (h : Call.isPublic call.method = true) :
    (gate validator).wrap next call = next call := if_pos h

/-- The gate lets a call pass once it has said something about the token and the user. -/
theorem wrap_gate_of_ok (h : Call.isPublic call.method = false)
    (hdecide : validator.decide call = .ok user) :
    (gate validator).wrap next call =
      logAll ((call.metadata.bearer?.map validator.remarks).getD []) >>= fun _ =>
        logAll (admissionEntries call user) >>= fun _ => next (call.withUser user) := by
  change (if Call.isPublic call.method then next call else _ : Serving _) = _
  rw [h, if_neg Bool.false_ne_true, hdecide]

/-- The gate turns a call away once it has said something about the token and the reason. -/
theorem wrap_gate_of_error {refusal : Refusal} (h : Call.isPublic call.method = false)
    (hdecide : validator.decide call = .error refusal) :
    (gate validator).wrap next call =
      logAll ((call.metadata.bearer?.map validator.remarks).getD []) >>= fun _ =>
        logAll [refusal.logEntry call] >>= fun _ =>
          return (call, .failed (.status refusal.status)) := by
  change (if Call.isPublic call.method then next call else _ : Serving _) = _
  rw [h, if_neg Bool.false_ne_true, hdecide]

/-- What the gate does with a call that it turns away. -/
theorem returns_turnedAway (call : Call) (refusal : Refusal) (entries : List Log.Entry) :
    Serving.Returns (α := Call × Outcome (Reply α))
      (logAll entries >>= fun _ => logAll [refusal.logEntry call] >>= fun _ =>
        return (call, .failed (.status refusal.status)))
      (call, .failed (.status refusal.status)) :=
  (returns_logAll entries).bind ((returns_logAll _).bind (.done _))

end Stage

/-! ## The standard pipeline -/

namespace Pipeline
variable {α : Type} {validator : Validator} {call seen : Call} {user : User}

theorem call_standard (handler : Call → Serving (Outcome α)) :
    (standard (some validator)).call call handler = Serving.record .enter >>= fun _ =>
      (Stage.gate validator).wrap (Stage.containment.wrap (endpoint handler)) call >>= fun ended =>
        Stage.settle ended >>= conclude := by
  change Stage.metering.wrap ((Stage.gate validator).wrap _) call >>= conclude = _
  simp only [Stage.wrap_metering, bind_assoc]
  rfl

/-- What is behind the gate starts the handler with the call that it is given. -/
theorem starts_contained (call : Call) :
    Starts (fun handler => (Stage.containment : Stage α).wrap (endpoint handler) call) call := by
  have hendpoint :
      Starts (fun handler : Call → Serving (Outcome α) => endpoint handler call) call :=
    ⟨pure (), fun outcome => return (call, outcome.map .expected), fun handler => rfl⟩
  exact hendpoint.bind _

/-- A public method needs no token. -/
theorem starts_of_isPublic (h : Call.isPublic call.method = true) :
    Starts ((standard (some validator) : Pipeline α).call call) call := by
  have hgate := (starts_contained (α := α) call).bind fun ended => Stage.settle ended >>= conclude
  refine (hgate.delay (Serving.record .enter)).congr fun handler => ?_
  rw [call_standard, Stage.wrap_gate_of_isPublic h]

/-- A call that is let pass reaches its handler as one of the user that its token belongs to. -/
theorem starts_of_ok (h : Call.isPublic call.method = false)
    (hdecide : validator.decide call = .ok user) :
    Starts ((standard (some validator) : Pipeline α).call call) (call.withUser user) := by
  have hgate := ((starts_contained (α := α) (call.withUser user)).delay
    (Stage.logAll (Stage.admissionEntries call user))).delay
    (Stage.logAll ((call.metadata.bearer?.map validator.remarks).getD []))
  have hmetered := (hgate.bind fun ended => Stage.settle ended >>= conclude).delay
    (Serving.record .enter)
  refine hmetered.congr fun handler => ?_
  rw [call_standard, Stage.wrap_gate_of_ok h hdecide]

/-- A call that is turned away never reaches its handler. -/
theorem refuses_of_error {refusal : Refusal} (h : Call.isPublic call.method = false)
    (hdecide : validator.decide call = .error refusal) :
    Refuses (standard (some validator) : Pipeline α) call refusal.status := by
  constructor
  · intro handler handler'
    rw [call_standard, call_standard, Stage.wrap_gate_of_error h hdecide,
      Stage.wrap_gate_of_error h hdecide]
  · intro handler
    rw [call_standard, Stage.wrap_gate_of_error h hdecide]
    refine .aside rfl fun _ => (Stage.returns_turnedAway call refusal _).bind ?_
    exact (Stage.returns_settle _).bind (.done _)

/-- A call that is not public reaches its handler just if its token is accepted for a user who is
allowed the operation. -/
theorem starts_iff (h : Call.isPublic call.method = false) :
    Starts ((standard (some validator) : Pipeline α).call call) seen ↔
      ∃ token user, call.metadata.bearer? = some token ∧ validator.judge token = .accepted user ∧
        user.allows call.operation = true ∧ seen = call.withUser user := by
  constructor
  · intro hstarts
    cases hdecide : validator.decide call with
    | error refusal => exact absurd (refuses_of_error h hdecide).1 hstarts.not_skips
    | ok user =>
      obtain ⟨token, htoken, hjudge, hallows⟩ := Validator.decide_eq_ok_iff.1 hdecide
      exact ⟨token, user, htoken, hjudge, hallows, hstarts.unique (starts_of_ok h hdecide)⟩
  · rintro ⟨token, user, htoken, hjudge, hallows, rfl⟩
    exact starts_of_ok h (Validator.decide_eq_ok_iff.2 ⟨token, htoken, hjudge, hallows⟩)

/-- Behind the gate of the standard pipeline, the handler of a public method is started with the
call as it is, and no user attached. Any other handler is started just if there is a token, it is
accepted, and its user is allowed the operation of the path; it then gets the call with that user
and that user's identity, whoever the metadata claim to be. In all other cases the handler is never
started, and the caller gets the status of the first of these tests that failed. -/
theorem gate_decides (α : Type) (validator : Validator) (path : String) (metadata : Metadata)
    (id : Identifier) :
    let stages : Pipeline α := standard (some validator)
    let call := Call.start path metadata id
    let op := Operation.ofMethod path
    (Call.isPublic path = true ↔
      ∃ known ∈ Call.publicMethods, Text.lower known = Text.lower path) ∧
    (Call.isPublic path = true →
      (∀ seen, Starts (stages.call call) seen ↔ seen = call) ∧ call.user = none) ∧
    (Call.isPublic path = false →
      (∀ seen, Starts (stages.call call) seen ↔
        ∃ token user, metadata.bearer? = some token ∧ validator.judge token = .accepted user ∧
          user.allows op = true ∧
          seen = { call with user := some user, userId := some user.id }) ∧
      (metadata.bearer? = none →
        Refuses stages call ⟨.unauthenticated, "Authorization token required", .empty⟩) ∧
      (∀ token, metadata.bearer? = some token →
        (validator.judge token = .rejected →
          Refuses stages call ⟨.unauthenticated, "Invalid authorization token", .empty⟩) ∧
        (validator.judge token = .panicked →
          Refuses stages call ⟨.internal, "Authorization service error", .empty⟩) ∧
        (∀ user, validator.judge token = .accepted user → user.allows op = false →
          Refuses stages call ⟨.permissionDenied,
            "Insufficient permissions for " ++ op.name ++ " operation", .empty⟩))) := by
  intro stages call op
  have hmetadata : call.metadata = metadata := Call.metadata_start path metadata id
  have hop : call.operation = op := Call.operation_start path metadata id
  refine ⟨?spelling, ?unlocked, ?locked⟩
  case spelling =>
    simp only [Call.isPublic, List.any_eq_true, Text.equalIgnoringCase, beq_iff_eq]
  case unlocked =>
    intro hpublic
    have hmethod : Call.isPublic call.method = true := hpublic
    have hstarts : Starts (stages.call call) call := starts_of_isPublic hmethod
    refine ⟨fun seen => ⟨fun h => h.unique hstarts, ?_⟩, rfl⟩
    rintro rfl
    exact hstarts
  case locked =>
    intro hpath
    have hclosed : Call.isPublic call.method = false := hpath
    refine ⟨fun seen => ?_, ?_, ?_⟩
    · rw [← hmetadata, ← hop]
      exact starts_iff hclosed
    · intro hnone
      exact refuses_of_error hclosed (Validator.decide_of_none (hmetadata ▸ hnone))
    · intro token htoken
      rw [← hmetadata] at htoken
      refine ⟨?_, ?_, ?_⟩
      · intro hjudge
        exact refuses_of_error hclosed (Validator.decide_of_rejected htoken hjudge)
      · intro hjudge
        exact refuses_of_error hclosed (Validator.decide_of_panicked htoken hjudge)
      · intro user hjudge hallows
        have hdecide : validator.decide call = _ := Validator.decide_of_accepted htoken hjudge
        rw [hop, hallows, if_neg Bool.false_ne_true] at hdecide
        exact refuses_of_error hclosed hdecide

/-- Accepts one token, of a user who may read, and breaks down over another. -/
def porter : Validator where
  judge token :=
    if token = "r" then .accepted { id := "ada", roles := .ofList ["read"] }
    else if token = "!" then .panicked
    else .rejected

/-- Metadata with a token, from a caller who claims to be somebody. -/
def posing (token : String) : Metadata :=
  ⟨[("x-user-id", Text.bytes "mallory"), ("authorization", Text.bytes token)]⟩

/-- The reader gets to read, under its own name; it does not get to delete anything; the token that
the validator breaks down over is no way in; and the health of the service is open to all. -/
theorem porter_decides :
    let stages : Pipeline Unit := standard (some porter)
    let reading := Call.start "/s/GetItem" (posing "Bearer r") .nil
    let asking := Call.start "/GRPC.health.v1.Health/CHECK" .empty .nil
    (reading.userId = some "mallory" ∧
      ∃ seen, Starts (stages.call reading) seen ∧ seen.userId = some "ada") ∧
    Refuses stages (Call.start "/s/DeleteItem" (posing "Bearer r") .nil)
      ⟨.permissionDenied, "Insufficient permissions for delete operation", .empty⟩ ∧
    Refuses stages (Call.start "/s/GetItem" (posing "!") .nil)
      ⟨.internal, "Authorization service error", .empty⟩ ∧
    Starts (stages.call asking) asking := by
  intro stages reading asking
  have hreader : (posing "Bearer r").bearer? = some "r" := by decide +kernel
  have hbreaking : (posing "!").bearer? = some "!" := by decide +kernel
  have hget : Call.isPublic "/s/GetItem" = false := by decide +kernel
  have hdelete : Call.isPublic "/s/DeleteItem" = false := by decide +kernel
  have hhealth : Call.isPublic "/GRPC.health.v1.Health/CHECK" = true := by decide +kernel
  have hread := (gate_decides Unit porter "/s/GetItem" (posing "Bearer r") .nil).2.2 hget
  have herase := (gate_decides Unit porter "/s/DeleteItem" (posing "Bearer r") .nil).2.2 hdelete
  have hbreak := (gate_decides Unit porter "/s/GetItem" (posing "!") .nil).2.2 hget
  have hask := (gate_decides Unit porter "/GRPC.health.v1.Health/CHECK" .empty .nil).2.1 hhealth
  refine ⟨⟨by decide +kernel, ?_⟩, ?_, ?_, (hask.1 _).2 rfl⟩
  · exact ⟨_, (hread.1 _).2 ⟨"r", _, hreader, rfl, by decide +kernel, rfl⟩, rfl⟩
  · exact (herase.2.2 "r" hreader).2.2 _ rfl (by decide +kernel)
  · exact (hbreak.2.2 "!" hbreaking).2.1 rfl

end Pipeline
end ItemCatalog
