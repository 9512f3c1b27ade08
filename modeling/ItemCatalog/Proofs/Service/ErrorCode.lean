import ItemCatalog.Proofs.Metadata
import ItemCatalog.Proofs.Stage.Passing

/-!
# Which refusals carry an error code

Every failure, and every fault that is not classified, becomes a status whose metadata say what kind
of failure it is. The statuses of the gate say nothing of the kind. Main statement: a refused call
finds an error code in the metadata of its status just if the gate let it pass
(`coded_iff_admitted`).
-/

namespace ItemCatalog
open Serving

/-! ## Error codes -/

/-- The error code in the metadata of a status. -/
def Status.errorCode? (status : Status) : Option (List UInt8) := status.metadata.get? "error-code"

/-- The status of a failure carries the code of its kind. -/
theorem Failure.errorCode?_status (failure : Failure) :
    failure.status.errorCode? = some (Text.bytes failure.errorCode) := by
  have hdetails : ∀ e ∈ failure.details, "error-code" ≠ e.1 := by
    cases failure <;> simp [details]
  have hstorable : (Text.bytes failure.errorCode).all Metadata.isStorable = true := by
    cases failure <;> rw [errorCode] <;> decide +kernel
  rw [Status.errorCode?, status, List.foldl_cons, Metadata.get?_foldl_set_of_ne _ hdetails]
  exact Metadata.get?_set_self _ hstorable

theorem Fault.errorCode?_unclassifiedStatus (kind : String) :
    (unclassifiedStatus kind).errorCode? = some (Text.bytes "INTERNAL_ERROR") := by
  rw [Status.errorCode?, unclassifiedStatus, Metadata.get?_set_of_ne _ (by decide)]
  exact Metadata.get?_set_self _ (by decide +kernel)

/-- The status of a call that is turned away at the gate carries nothing. -/
theorem Refusal.errorCode?_status (refusal : Refusal) : refusal.status.errorCode? = none := rfl

/-- Whether a refusal carries an error code just if something holds. -/
def Result.CodedIff {α : Type} (r : Result α) (admitted : Prop) : Prop :=
  ∀ status, r = .refused status → (status.errorCode?.isSome = true ↔ admitted)

/-- Whether an outcome carries an error code if it is a status that the handler has made itself. -/
def Outcome.IsCoded {α : Type} (outcome : Outcome α) : Prop :=
  ∀ status, outcome = .failed (.status status) → status.errorCode?.isSome = true

/-- Behind containment every refusal carries an error code. -/
theorem Outcome.IsCoded.settled {α : Type} {outcome : Outcome α} (h : outcome.IsCoded)
    {admitted : Prop} (hadmitted : admitted) : outcome.settled.CodedIff admitted := by
  intro status hstatus
  refine iff_of_true ?_ hadmitted
  match outcome with
  | .answered a => cases hstatus
  | .failed (.failure failure) =>
    cases hstatus
    rw [Fault.toStatus, failure.errorCode?_status]
    rfl
  | .failed (.status made) =>
    cases hstatus
    exact h made rfl
  | .failed (.unclassified kind message) =>
    cases hstatus
    rw [Fault.toStatus, Fault.errorCode?_unclassifiedStatus]
    rfl
  | .panicked panic =>
    cases hstatus
    rw [Fault.ofPanic, Fault.toStatus, Fault.errorCode?_unclassifiedStatus]
    rfl

/-! ## Who is admitted -/

theorem Validator.admission_eq_allowed_iff (validator : Validator) (call : Call) :
    validator.admission call.metadata call.operation = .allowed ↔
      ∃ user, validator.decide call = .ok user := by
  have hstatus := validator.status?_admission call
  cases hdecide : validator.decide call with
  | ok user =>
    rw [hdecide] at hstatus
    refine iff_of_true ?_ ⟨user, rfl⟩
    cases hadmission : validator.admission call.metadata call.operation with
    | allowed => rfl
    | _ => simp [hadmission, Admission.status?] at hstatus
  | error refusal =>
    rw [hdecide] at hstatus
    refine iff_of_false (fun hallowed => ?_) nofun
    rw [hallowed] at hstatus
    cases hstatus

/-- Whether a call passes the gate, if there is one. -/
def Pipeline.Admits (validator : Option Validator) (call : Call) : Prop :=
  ∀ v ∈ validator,
    Call.isPublic call.method = true ∨ v.admission call.metadata call.operation = .allowed

theorem Pipeline.admits_iff (validator : Option Validator) (call : Call) :
    Admits validator call ↔ reached validator call ≠ none := by
  cases validator with
  | none => exact iff_of_true nofun nofun
  | some validator =>
    simp only [Admits, Option.mem_some_iff, forall_eq', Validator.admission_eq_allowed_iff]
    cases hopen : Call.isPublic call.method with
    | true => simp [reached_of_isPublic hopen]
    | false =>
      cases hdecide : validator.decide call with
      | ok user => simp [reached_of_ok hopen hdecide]
      | error refusal => simp [reached_of_error hopen hdecide]

/-! ## Calls -/

namespace Service
open Pipeline

/-- A call whose handler makes no statuses without an error code is refused with an error code just
if it is admitted. -/
theorem keepsTo_coded_call {α : Type} (validator : Option Validator) (call : Call)
    {handler : Call → Serving (Outcome α)}
    (h : ∀ seen, KeepsTo .free (fun _ outcome => outcome.IsCoded) () (handler seen)) :
    KeepsTo .free (fun _ r => r.CodedIff (Admits validator call)) ()
      ((standard validator).call call handler) := by
  have hi : Protocol.free.Inside fun _ => True := ⟨fun _ _ => trivial, fun _ _ => trivial⟩
  have hpassed : ∀ seen, reached validator call = some seen →
      KeepsTo .free (fun _ outcome => True ∧ outcome.settled.CodedIff (Admits validator call)) ()
        (handler seen) := by
    intro seen hseen
    have hadmits : Admits validator call := by
      rw [admits_iff, hseen]
      exact nofun
    exact (h seen).mono fun _ outcome hcoded => ⟨trivial, hcoded.settled hadmits⟩
  have hrefused : reached validator call = none → ∀ v ∈ validator, ∀ refusal,
      v.decide call = .error refusal →
        Result.CodedIff (.refused refusal.status : Result α) (Admits validator call) := by
    rintro hnone v _ refusal _ status ⟨⟩
    rw [refusal.errorCode?_status]
    exact iff_of_false nofun fun hadmits => (admits_iff validator call).1 hadmits hnone
  have hcall : KeepsTo .free (Closed .free (fun _ r => r.CodedIff (Admits validator call)) call) ()
      ((standard validator).call call handler) :=
    keepsTo_call hi trivial trivial hpassed hrefused
  refine hcall.mono ?_
  rintro _ r ⟨_, _, hcoded, _⟩
  exact hcoded

/-- The methods of the service make no statuses. -/
theorem keepsTo_coded_handler (method : Method) (query : method.Query) (seen : Call) :
    KeepsTo .free (fun _ outcome => outcome.IsCoded) () (handler method query seen) := by
  refine KeepsTo.bind ((keepsTo_free (method.handle seen query)).mono fun _ result _ => ?_)
  refine .done ?_
  cases result with
  | ok answer => exact nofun
  | error failure => exact nofun

/-- However storage behaves, a call of the service that is refused finds an error code in the
metadata of its status just if its token grants the operation of its method, or no validator is
asked. The same holds of any handler behind the standard pipeline, whatever it fails with or panics
over, that puts an error code into the statuses that it makes; public methods need no token. -/
theorem coded_iff_admitted (validator : Option Validator) (c : Circumstances) :
    (∀ (method : Method) (metadata : Metadata) (query : method.Query) (status : Status),
      (c.run (serve validator method metadata query)).1 = .refused status →
        (status.errorCode?.isSome = true ↔
          ∀ v ∈ validator, v.admission metadata method.operation = .allowed)) ∧
    ∀ (α : Type) (call : Call) (handler : Call → Serving (Outcome α)),
      (∀ seen, KeepsTo .free (fun _ outcome => outcome.IsCoded) () (handler seen)) →
        ∀ status, (c.run ((standard validator).call call handler)).1 = .refused status →
          (status.errorCode?.isSome = true ↔ Admits validator call) := by
  constructor
  · intro method metadata query status hstatus
    have hserve : KeepsTo .free (fun _ r => r.CodedIff
        (∀ v ∈ validator, v.admission metadata method.operation = .allowed)) ()
          (serve validator method metadata query) := by
      refine Call.keepsTo_opened trivial fun id => keepsTo_log_bind trivial ?_
      have hcall := keepsTo_coded_call validator (Call.start method.path metadata id)
        (keepsTo_coded_handler method query)
      have hclosed : Call.isPublic (Call.start method.path metadata id).method = false :=
        Call.not_isPublic_methodPath _
      simpa only [Admits, hclosed, Bool.false_eq_true, false_or, Call.metadata_start,
        Call.operation_start, method.ofMethod_path] using hcall
    obtain ⟨_, hcoded⟩ := hserve.run c (fun _ _ _ => trivial) {}
    exact hcoded status hstatus
  · intro α call handler h status hstatus
    obtain ⟨_, hcoded⟩ := (keepsTo_coded_call validator call h).run c (fun _ _ _ => trivial) {}
    exact hcoded status hstatus

/-- Circumstances in which storage is out of reach. -/
def outage : Circumstances where
  answer
    | _, .start => ()
    | _, .save _ => .nil
    | _, .find _ => .error (.unavailable "")
    | _, .page _ => .error (.unavailable "")
    | _, .update _ => ()
    | _, .delete _ => ()
    | _, .commit => .error (.unavailable "")
    | _, .count => .error (.unavailable "")

/-- Asks for a page with a token, while storage is out of reach. -/
def asking (token : String) : Serving (Result PageReply) :=
  let query : PageQuery := { startPage := 1, pageSize := 1 }
  serve (some porter) .getItems (posing token) query

/-- A reader learns what kind of failure it was that storage was out of reach. If the validator
breaks down over a token, no error code tells so, but one does if the handler breaks down. -/
theorem outage_coded :
    let call := Call.start Method.getItems.path (posing "r") .nil
    let panicking (_ : Call) : Serving (Outcome Unit) := .done (.panicked .other)
    let failed := (Failure.storage .read "" none).status
    let unjudged := Refusal.validatorPanicked.status
    let broken := Fault.unclassifiedStatus Fault.panicKind
    ((outage.run (asking "r")).1 = .refused failed ∧ failed.errorCode?.isSome = true) ∧
    ((outage.run (asking "!")).1 = .refused unjudged ∧ unjudged.errorCode?.isSome = false) ∧
    (outage.run ((standard (some porter)).call call panicking)).1 = .refused broken ∧
      broken.errorCode?.isSome = true := by
  intro call panicking failed unjudged broken
  have hfailed : (outage.run (asking "r")).1 = .refused failed := by decide +kernel
  have hunjudged : (outage.run (asking "!")).1 = .refused unjudged := by decide +kernel
  have hbroken :
      (outage.run ((standard (some porter)).call call panicking)).1 = .refused broken := by
    decide +kernel
  have hservice := (coded_iff_admitted (some porter) outage).1 .getItems
  have hhandler := (coded_iff_admitted (some porter) outage).2 Unit call panicking
  refine ⟨⟨hfailed, (hservice _ _ failed hfailed).2 ?_⟩, ⟨hunjudged, ?_⟩, hbroken, ?_⟩
  · rintro v ⟨⟩
    decide +kernel
  · rw [Bool.eq_false_iff, ne_eq, hservice _ _ unjudged hunjudged]
    exact fun hadmitted => absurd (hadmitted porter rfl) (by decide +kernel)
  · refine (hhandler (fun _ => .done nofun) broken hbroken).2 ?_
    rintro v ⟨⟩
    exact .inr (by decide +kernel)

/-- Not every refusal carries an error code: one does not if the validator breaks down. -/
theorem refused_without_code :
    ¬∀ (validator : Option Validator) (c : Circumstances) (method : Method) (metadata : Metadata)
      (query : method.Query) (status : Status),
        (c.run (serve validator method metadata query)).1 = .refused status →
          status.errorCode?.isSome = true := by
  intro h
  have hunjudged : (outage.run (asking "!")).1 = .refused Refusal.validatorPanicked.status := by
    decide +kernel
  have hcoded := h (some porter) outage .getItems _ _ Refusal.validatorPanicked.status hunjudged
  rw [Refusal.errorCode?_status] at hcoded
  cases hcoded

end Service
end ItemCatalog
