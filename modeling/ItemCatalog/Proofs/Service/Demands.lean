import ItemCatalog.Proofs.Service.Course

/-!
# What a call may ask of storage

A call may end in many ways, but some requests it never makes: one that reads never stages a
change, and one that is turned away at the gate asks storage for nothing. `Serving.Asks P p` says
that whatever `p` is answered, each request that it makes of storage satisfies `P`. Main statement:
a call that passes the gate stages changes of its own method only, and only if its token grants
the operation (`asks_serve`).

## Main definitions

* `Serving.Asks`: what a program asks of storage, whatever it is answered.
* `Request.StagesFor`: whether a request stages no change but those of an operation.
* `Validator.Grants`: whether the token in some metadata belongs to a user who may do something.
-/

namespace ItemCatalog
open Storage (Change Request)

namespace Serving
variable {α β : Type} {P Q : Request → Prop} {p q : Serving α}

/-- Whether each request that a program makes of storage satisfies `P`. -/
inductive Asks (P : Request → Prop) : Serving α → Prop
  | done (a : α) : Asks P (.done a)
  | ask {e : Effect} {k : e.Answer → Serving α} :
      (∀ r, e = .storage r → P r) → (∀ x, Asks P (k x)) → Asks P (.ask e k)

theorem Asks.bind {f : α → Serving β} (h : Asks P p) (hf : ∀ a, Asks P (f a)) :
    Asks P (p >>= f) := by
  induction h with
  | done a => exact hf a
  | ask he _ ih => exact .ask he ih

theorem Asks.mono (h : Asks P p) (hPQ : ∀ r, P r → Q r) : Asks Q p := by
  induction h with
  | done a => exact .done a
  | ask he _ ih => exact .ask (fun r hr => hPQ r (he r hr)) ih

/-- After any answer a program asks for nothing that it might not ask for before. -/
theorem Asks.resume {e : Effect} {k : e.Answer → Serving α} (h : Asks P (.ask e k))
    (x : e.Answer) : Asks P (k x) := by
  cases h with
  | ask _ hk => exact hk x

theorem Asks.storage {r : Request} {k : r.Answer → Serving α}
    (h : Asks P (.ask (.storage r) k)) : P r := by
  cases h with
  | ask he _ => exact he r rfl

theorem asks_storage {r : Request} (h : P r) : Asks P (Serving.storage r) := by
  refine .ask ?_ fun x => .done x
  rintro _ ⟨⟩
  exact h

theorem asks_log (entry : Log.Entry) : Asks P (Serving.log entry) := .ask nofun fun x => .done x

theorem asks_record (event : Metrics.Event) : Asks P (Serving.record event) :=
  .ask nofun fun x => .done x

theorem asks_elapsed : Asks P Serving.elapsed := .ask nofun fun x => .done x

/-- A program makes no request that the one that it follows does not make. -/
theorem Follows.asks (h : Follows p q) (hq : Asks P q) : Asks P p := by
  induction h with
  | done a => exact .done a
  | storage r _ ih =>
    refine .ask ?_ fun x => ih x (hq.resume x)
    rintro _ ⟨⟩
    exact hq.storage
  | aside he _ ih =>
    exact .ask (fun r hr => absurd hr (Effect.ne_storage he r)) fun x => ih x hq

end Serving

/-! ## Operations -/

/-- The operation that a staged change belongs to. -/
def Storage.Change.operation : Change → Operation
  | .insert .. => .create
  | .update _ => .update
  | .delete _ => .delete

/-- The operation that a request stages a change for, if it stages any. -/
def Storage.Request.operation? : Request → Option Operation
  | .save _ => some .create
  | .update _ => some .update
  | .delete _ => some .delete
  | _ => none

/-- Whether a request stages no change but those of an operation. -/
def Storage.Request.StagesFor (op : Operation) (r : Request) : Prop :=
  ∀ other, r.operation? = some other → other = op

/-- The operation that the path of a method stands for is that of the method. -/
theorem Method.ofMethod_path (method : Method) :
    Operation.ofMethod method.path = method.operation := by
  cases method <;> decide +kernel

/-- The public methods are those of other services. -/
theorem Call.not_isPublic_methodPath (name : String) :
    Call.isPublic (methodPath name) = false := by
  rw [Bool.eq_false_iff]
  intro h
  obtain ⟨path, hmem, heq⟩ := List.any_eq_true.1 h
  have hlower : Text.lower path = Text.lower (methodPath name) := beq_iff_eq.1 heq
  have hpublic : ∀ p ∈ publicMethods, p.toList.take 2 = ['/', 'g'] := by decide +kernel
  have hservice : ("/" ++ serviceName ++ "/").toList.take 2 = ['/', 'i'] := by decide +kernel
  have hlength : 2 ≤ ("/" ++ serviceName ++ "/").toList.length := by decide +kernel
  have htake := congrArg (fun s => s.toList.take 2) hlower
  simp only [Text.toList_lower, ← List.map_take] at htake
  rw [hpublic path hmem, methodPath, String.toList_append, List.take_append_of_le_length hlength,
    hservice] at htake
  revert htake
  decide

/-! ## Grants -/

/-- Whether the token in some metadata is accepted for a user who may perform an operation. -/
def Validator.Grants (validator : Validator) (metadata : Metadata) (op : Operation) : Prop :=
  ∃ token user, metadata.bearer? = some token ∧ validator.judge token = .accepted user ∧
    user.allows op = true

namespace Validator
variable {validator : Validator} {call : Call} {token : String} {user : User}

theorem decide_of_none (h : call.metadata.bearer? = none) :
    validator.decide call = .error .noToken := by
  rw [Validator.decide, h]

theorem decide_of_rejected (h : call.metadata.bearer? = some token)
    (hjudge : validator.judge token = .rejected) : validator.decide call = .error .badToken := by
  simp only [Validator.decide, h, hjudge]

theorem decide_of_panicked (h : call.metadata.bearer? = some token)
    (hjudge : validator.judge token = .panicked) :
    validator.decide call = .error .validatorPanicked := by
  simp only [Validator.decide, h, hjudge]

theorem decide_of_accepted (h : call.metadata.bearer? = some token)
    (hjudge : validator.judge token = .accepted user) :
    validator.decide call =
      if user.allows call.operation then .ok user
      else .error (.notAllowed user call.operation) := by
  simp only [Validator.decide, h, hjudge]

/-- Those are let pass whose token is accepted for a user who is allowed the operation. -/
theorem decide_eq_ok_iff :
    validator.decide call = .ok user ↔
      ∃ token, call.metadata.bearer? = some token ∧ validator.judge token = .accepted user ∧
        user.allows call.operation = true := by
  constructor
  · intro h
    cases htoken : call.metadata.bearer? with
    | none =>
      rw [decide_of_none htoken] at h
      cases h
    | some token =>
      cases hjudge : validator.judge token with
      | rejected =>
        rw [decide_of_rejected htoken hjudge] at h
        cases h
      | panicked =>
        rw [decide_of_panicked htoken hjudge] at h
        cases h
      | accepted other =>
        rw [decide_of_accepted htoken hjudge] at h
        split at h
        · next hallows =>
          cases h
          exact ⟨token, rfl, hjudge, hallows⟩
        · cases h
  · rintro ⟨token, htoken, hjudge, hallows⟩
    rw [decide_of_accepted htoken hjudge, if_pos hallows]

/-- Whoever is let pass holds the grant. -/
theorem grants_of_decide (h : validator.decide call = .ok user) :
    validator.Grants call.metadata call.operation := by
  obtain ⟨token, htoken, hjudge, hallows⟩ := decide_eq_ok_iff.1 h
  exact ⟨token, user, htoken, hjudge, hallows⟩

end Validator

/-! ## Courses -/

namespace Service
variable {R : Type} {op : Operation}

/-- The operation of a change of an item that was read. -/
def Edit.operation : Edit → Operation
  | .rename _ => .update
  | .remove => .delete

theorem Edit.operation?_request (kind : Edit) (item : Item) :
    (kind.request item).operation? = some kind.operation := by
  cases kind <;> rfl

theorem stagesFor_of_operation? {r : Request} (h : r.operation? = none) : r.StagesFor op := by
  intro other hother
  rw [h] at hother
  cases hother

theorem asks_refused (a : R) : (Course.refused a).plan.Asks (Request.StagesFor op) := .done a

theorem asks_creation (name : String)
    (reply : Identifier → Except Storage.Error (List Item) → R) :
    (Course.creation name reply).plan.Asks (Request.StagesFor .create) := by
  refine (Serving.asks_storage (stagesFor_of_operation? rfl)).bind fun _ => ?_
  refine (Serving.asks_storage ?_).bind fun _ => ?_
  · rintro _ ⟨⟩
    rfl
  · exact (Serving.asks_storage (stagesFor_of_operation? rfl)).bind fun _ => .done _

theorem asks_listing (window : Window) (reply : Except Storage.Error (Page Item) → R) :
    (Course.listing window reply).plan.Asks (Request.StagesFor op) := by
  refine (Serving.asks_storage (stagesFor_of_operation? rfl)).bind fun _ => ?_
  exact (Serving.asks_storage (stagesFor_of_operation? rfl)).bind fun _ => .done _

/-- A call that looks an item up stages what its errand has it change. -/
theorem asks_lookup {id : Identifier} {broken : Storage.Error → R} {missing : R}
    {errand : Item → Errand R}
    (h : ∀ item kind reply, errand item = .edit kind reply → kind.operation = op) :
    (Course.lookup id broken missing errand).plan.Asks (Request.StagesFor op) := by
  refine (Serving.asks_storage (stagesFor_of_operation? rfl)).bind fun _ => ?_
  refine (Serving.asks_storage (stagesFor_of_operation? rfl)).bind fun found => ?_
  match found with
  | .error e => exact .done _
  | .ok none => exact .done _
  | .ok (some item) =>
    rw [lookupPlan]
    cases herrand : errand item with
    | answer a => exact .done a
    | edit kind reply =>
      refine (Serving.asks_storage ?_).bind fun _ => ?_
      · intro other hother
        rw [Edit.operation?_request, Option.some.injEq] at hother
        exact hother.symm.trans (h item kind reply herrand)
      · exact (Serving.asks_storage (stagesFor_of_operation? rfl)).bind fun _ => .done _

theorem asks_createCourse (request : ItemMessage) :
    (createCourse request).plan.Asks (Request.StagesFor .create) := by
  rw [createCourse]
  split
  · exact asks_refused _
  · exact asks_creation _ _

theorem asks_pageCourse (query : PageQuery) :
    (pageCourse query).plan.Asks (Request.StagesFor .read) := by
  rw [pageCourse]
  split
  · exact asks_refused _
  · exact asks_listing _ _

theorem asks_readCourse (key : ItemKey) :
    (readCourse key).plan.Asks (Request.StagesFor .read) := by
  rw [readCourse]
  split
  · exact asks_refused _
  · refine asks_lookup ?_
    rintro _ _ _ ⟨⟩

theorem asks_updateCourse (request : ItemMessage) :
    (updateCourse request).plan.Asks (Request.StagesFor .update) := by
  rw [updateCourse]
  split
  · exact asks_refused _
  · refine asks_lookup ?_
    intro item kind reply herrand
    rw [renameErrand] at herrand
    split at herrand
    · cases herrand
    · cases herrand
      rfl

theorem asks_deleteCourse (key : ItemKey) :
    (deleteCourse key).plan.Asks (Request.StagesFor .delete) := by
  rw [deleteCourse]
  split
  · exact asks_refused _
  · refine asks_lookup ?_
    rintro _ _ _ ⟨⟩
    rfl

/-- A method stages changes of its own operation only. -/
theorem asks_methodCourse (method : Method) (query : method.Query) :
    (methodCourse method query).plan.Asks (Request.StagesFor method.operation) := by
  cases method with
  | createItem => exact asks_createCourse query
  | getItems => exact asks_pageCourse query
  | getItem => exact asks_readCourse query
  | updateItem => exact asks_updateCourse query
  | deleteItem => exact asks_deleteCourse query

/-- So does its handler. -/
theorem asks_handler (method : Method) (query : method.Query) (call : Call) :
    (handler method query call).Asks (Request.StagesFor method.operation) :=
  ((follows_handle method call query).asks (asks_methodCourse method query)).bind fun _ => .done _

end Service

/-! ## Stages -/

section Stages
variable {α : Type} {P : Request → Prop} {next : Handling α} {call : Call}

theorem Pipeline.asks_endpoint {handler : Call → Serving (Outcome α)}
    (h : (handler call).Asks P) : (Pipeline.endpoint handler call).Asks P :=
  h.bind fun _ => .done _

theorem Pipeline.asks_conclude (ended : Call × Outcome (Reply α)) :
    (Pipeline.conclude ended).Asks P := by
  match ended with
  | (_, .answered (.expected a)) => exact .done _
  | (call, .answered .foreign) => exact (Serving.asks_log _).bind fun _ => .done _
  | (_, .failed fault) => exact .done _
  | (_, .panicked panic) => exact .done _

theorem Stage.asks_logAll (entries : List Log.Entry) : (logAll entries).Asks P := by
  induction entries with
  | nil => exact .done ()
  | cons e rest ih => exact (Serving.asks_log e).bind fun _ => ih

theorem Stage.asks_recordAll (events : List Metrics.Event) : (recordAll events).Asks P := by
  induction events with
  | nil => exact .done ()
  | cons e rest ih => exact (Serving.asks_record e).bind fun _ => ih

theorem Stage.asks_metering (h : (next call).Asks P) : (metering.wrap next call).Asks P := by
  refine (Serving.asks_record .enter).bind fun _ => h.bind fun ended => ?_
  refine Serving.asks_elapsed.bind fun duration => (asks_recordAll _).bind fun _ => ?_
  exact (Serving.asks_record .leave).bind fun _ => .done _

theorem Stage.asks_containment (h : (next call).Asks P) : (containment.wrap next call).Asks P := by
  refine h.bind fun ended => ?_
  obtain ⟨call, outcome⟩ := ended
  dsimp only
  split
  · exact .done _
  · exact (Serving.asks_log _).bind fun _ => .done _

/-- Nothing behind the gate is reached by a call that is not let pass. -/
theorem Stage.asks_gate {validator : Validator} (hclosed : Call.isPublic call.method = false)
    (h : ∀ user, validator.decide call = .ok user → (next (call.withUser user)).Asks P) :
    ((gate validator).wrap next call).Asks P := by
  change (if Call.isPublic call.method then next call else _ : Serving _).Asks P
  rw [hclosed, if_neg Bool.false_ne_true]
  refine (asks_logAll _).bind fun _ => ?_
  cases hdecide : validator.decide call with
  | error refusal => exact (asks_logAll _).bind fun _ => .done _
  | ok user => exact (asks_logAll _).bind fun _ => h user hdecide

/-- A call is opened without a question to storage. -/
theorem Call.asks_opened {path : String} {metadata : Metadata} {f : Call → Serving α}
    (h : ∀ id, (f (.start path metadata id)).Asks P) :
    (Call.opened path metadata >>= f).Asks P := by
  rw [Call.opened]
  cases metadata.correlationId? with
  | some id => exact h id
  | none => exact (.ask nofun fun bits => h (.ofRandom bits))

end Stages

/-- A call that passes the standard pipeline asks storage for something only if its token grants
the operation of its method, and then stages changes of that operation only. -/
theorem Service.asks_serve (validator : Validator) (method : Method) (metadata : Metadata)
    (query : method.Query) :
    (Service.serve (some validator) method metadata query).Asks fun r =>
      validator.Grants metadata method.operation ∧ r.StagesFor method.operation := by
  refine Call.asks_opened fun id => ?_
  refine (Serving.asks_log _).bind fun _ => ?_
  refine Serving.Asks.bind ?_ Pipeline.asks_conclude
  refine Stage.asks_metering ?_
  refine Stage.asks_gate (Call.not_isPublic_methodPath _) fun user hdecide => ?_
  refine Stage.asks_containment (Pipeline.asks_endpoint ?_)
  have hgrants := Validator.grants_of_decide hdecide
  rw [Call.operation_start, Call.metadata_start, method.ofMethod_path] at hgrants
  exact (asks_handler method query _).mono fun r hr => ⟨hgrants, hr⟩

end ItemCatalog
