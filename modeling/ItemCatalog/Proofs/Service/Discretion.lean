import ItemCatalog.Proofs.Stage.SideBySide

/-!
# What the caller is not told

Two calls of one method with one message, served side by side. Main statements: what the reason of a
failure of storage is, or the text of an unforeseen fault, shows neither in what the caller gets nor
in the metrics (`details_stay_inside`), and what the metadata of a call say matters only for what
comes of its authorization (`metadata_only_authorize`).

## Main definitions

* `AlikeResults`: whether two results of a method differ in what is meant for the log at most.
* `LookSame`: whether two served calls look the same from outside.
-/

namespace ItemCatalog
open Serving

/-! ## Results of methods -/

namespace Service
variable {α : Type}

/-- Whether two results of a method are the same but for the wording and the source of a failure of
storage. -/
def AlikeResults (x y : Except Failure α) : Prop := (Outcome.ofExcept x).Alike (.ofExcept y)

theorem AlikeResults.refl (x : Except Failure α) : AlikeResults x x := .same _

/-- An operation that storage brought down looks the same however that came about. -/
theorem alike_broken {op : Operation} {message message' : String} {e e' : Storage.Error} :
    AlikeResults (.error (broken op message e) : Except Failure α)
      (.error (broken op message' e')) :=
  .storage op message message' (some e.message) (some e'.message)

/-! ## Courses -/

section Courses
variable {R : Type} {S : R → R → Prop}

/-- Whether the answers of an errand are related if storage answers alike. -/
inductive Errand.Discreet (S : R → R → Prop) : Errand R → Prop
  | answer {a : R} (h : S a a) : Discreet S (.answer a)
  | edit {kind : Edit} {reply : Except Storage.Error (List Item) → R}
      (h : ∀ x y, Storage.Alike x y → S (reply x) (reply y)) : Discreet S (.edit kind reply)

/-- Whether the answers of a course are related if storage answers alike. -/
inductive Course.Discreet (S : R → R → Prop) : Course R → Prop
  | refused {a : R} (h : S a a) : Discreet S (.refused a)
  | creation {name : String} {reply : Identifier → Except Storage.Error (List Item) → R}
      (h : ∀ id x y, Storage.Alike x y → S (reply id x) (reply id y)) :
      Discreet S (.creation name reply)
  | listing {window : Window} {reply : Except Storage.Error (Page Item) → R}
      (h : ∀ x y, Storage.Alike x y → S (reply x) (reply y)) : Discreet S (.listing window reply)
  | lookup {id : Identifier} {broken : Storage.Error → R} {missing : R} {errand : Item → Errand R}
      (hbroken : ∀ e e', S (broken e) (broken e')) (hmissing : S missing missing)
      (herrand : ∀ item, (errand item).Discreet S) : Discreet S (.lookup id broken missing errand)

theorem Errand.Discreet.resembles_timed {errand : Errand R} (h : errand.Discreet S)
    (op : Operation) (item : Item) :
    (errand.timed op item).Resembles S (errand.timed op item) := by
  cases h with
  | answer h => exact .done h
  | edit h =>
    refine resembles_storage_bind fun _ _ _ => ?_
    exact resembles_timed_bind fun x y hxy => .done (h x y hxy)

/-- A discreet course does the same if storage answers alike. -/
theorem Course.Discreet.resembles_timed {course : Course R} (h : course.Discreet S)
    (op : Operation) : (course.timed op).Resembles S (course.timed op) := by
  cases h with
  | refused h => exact .done h
  | creation h =>
    refine resembles_storage_bind fun _ _ _ => resembles_storage_bind ?_
    rintro id _ rfl
    exact resembles_timed_bind fun x y hxy => .done (h id x y hxy)
  | listing h =>
    refine resembles_storage_bind fun _ _ _ => ?_
    exact resembles_timed_bind fun x y hxy => .done (h x y hxy)
  | lookup hbroken hmissing herrand =>
    refine resembles_storage_bind fun _ _ _ => resembles_timed_bind fun x y hxy => ?_
    cases hxy with
    | failed e e' => exact .done (hbroken e e')
    | ok found =>
      cases found with
      | none => exact .done hmissing
      | some item => exact (herrand item).resembles_timed op item

end Courses

theorem alike_createdReply (id : Identifier) (x y : Except Storage.Error (List Item))
    (h : Storage.Alike x y) : AlikeResults (createdReply id x) (createdReply id y) := by
  cases h with
  | ok written => exact .refl _
  | failed e e' => exact alike_broken

theorem alike_listedReply (window : Window) (x y : Except Storage.Error (Page Item))
    (h : Storage.Alike x y) : AlikeResults (listedReply window x) (listedReply window y) := by
  cases h with
  | ok page => exact .refl _
  | failed e e' => exact alike_broken

/-- A conflict and any other failure of a commit are told apart in the log only. -/
theorem alike_updatedReply (id : Identifier) (x y : Except Storage.Error (List Item))
    (h : Storage.Alike x y) : AlikeResults (updatedReply id x) (updatedReply id y) := by
  cases h with
  | ok written => exact .refl _
  | failed e e' =>
    -- Which message it is depends on the failure, but none of them leaves the log.
    have hbroken (e : Storage.Error) :
        ∃ message, updatedReply id (.error e) = .error (broken .update message e) := by
      cases e <;> exact ⟨_, rfl⟩
    obtain ⟨_, he⟩ := hbroken e
    obtain ⟨_, he'⟩ := hbroken e'
    rw [he, he']
    exact alike_broken

theorem alike_deletedReply (x y : Except Storage.Error (List Item)) (h : Storage.Alike x y) :
    AlikeResults (deletedReply x) (deletedReply y) := by
  cases h with
  | ok written => exact .refl _
  | failed e e' => exact alike_broken

theorem discreet_createCourse (request : ItemMessage) :
    (createCourse request).Discreet AlikeResults := by
  rw [createCourse]
  cases request.checkCreate with
  | error failure => exact .refused (.refl _)
  | ok _ => exact .creation alike_createdReply

theorem discreet_pageCourse (query : PageQuery) : (pageCourse query).Discreet AlikeResults := by
  rw [pageCourse]
  cases query.check with
  | error failure => exact .refused (.refl _)
  | ok _ => exact .listing (alike_listedReply query.window)

theorem discreet_readCourse (key : ItemKey) : (readCourse key).Discreet AlikeResults := by
  rw [readCourse]
  cases Identifier.require key.id Field.id with
  | error failure => exact .refused (.refl _)
  | ok id => exact .lookup (fun _ _ => alike_broken) (.refl _) fun _ => .answer (.refl _)

theorem discreet_updateCourse (request : ItemMessage) :
    (updateCourse request).Discreet AlikeResults := by
  rw [updateCourse]
  cases updateTarget request with
  | error failure => exact .refused (.refl _)
  | ok id =>
    refine .lookup (fun _ _ => alike_broken) (.refl _) fun item => ?_
    rw [renameErrand]
    split
    · exact .answer (.refl _)
    · exact .edit (alike_updatedReply id)

theorem discreet_deleteCourse (key : ItemKey) : (deleteCourse key).Discreet AlikeResults := by
  rw [deleteCourse]
  cases Identifier.require key.id Field.id with
  | error failure => exact .refused (.refl _)
  | ok id => exact .lookup (fun _ _ => alike_broken) (.refl _) fun _ => .edit alike_deletedReply

/-- No method lets the reason of a failure of storage be seen. -/
theorem discreet_methodCourse (method : Method) (query : method.Query) :
    (methodCourse method query).Discreet AlikeResults := by
  cases method with
  | createItem => exact discreet_createCourse query
  | getItems => exact discreet_pageCourse query
  | getItem => exact discreet_readCourse query
  | updateItem => exact discreet_updateCourse query
  | deleteItem => exact discreet_deleteCourse query

/-- Any two calls of one method with one message resemble each other: what else is known of a call
is for the log. -/
theorem resembles_handler (method : Method) (query : method.Query) (call call' : Call) :
    (handler method query call).Resembles Outcome.Alike (handler method query call') := by
  have hcourse := (discreet_methodCourse method query).resembles_timed method.operation
  have hmethod := hcourse.annotated (annotates_handle method call query)
    (annotates_handle method call' query)
  exact hmethod.bind fun x y hxy => .done hxy

/-! ## Calls -/

/-- A call is opened with an identifier that only the log shows. -/
theorem resembles_opened {β γ : Type} {R : β → γ → Prop} {path : String}
    {metadata metadata' : Metadata} {f : Call → Serving β} {g : Call → Serving γ}
    (h : ∀ id id', (f (.start path metadata id)).Resembles R (g (.start path metadata' id'))) :
    (Call.opened path metadata >>= f).Resembles R (Call.opened path metadata' >>= g) := by
  rw [Call.opened, Call.opened]
  cases metadata.correlationId? with
  | some id =>
    cases metadata'.correlationId? with
    | some id' => exact h id id'
    | none => exact .right rfl fun bits' => h id (.ofRandom bits')
  | none =>
    refine .left rfl fun bits => ?_
    cases metadata'.correlationId? with
    | some id' => exact h (.ofRandom bits) id'
    | none => exact .right rfl fun bits' => h (.ofRandom bits) (.ofRandom bits')

/-- Two calls of one method with one message resemble each other if the same comes of their
authorization. -/
theorem resembles_serve (validator : Option Validator) (method : Method) (query : method.Query)
    {metadata metadata' : Metadata}
    (h : ∀ v ∈ validator,
      v.admission metadata method.operation = v.admission metadata' method.operation) :
    (serve validator method metadata query).Resembles Eq
      (serve validator method metadata' query) := by
  refine resembles_opened fun id id' => resembles_event_bind ?_
  have hroute : (Call.start method.path metadata id).SameRoute (.start method.path metadata' id') :=
    ⟨rfl, by rw [Call.operation_start, Call.operation_start]⟩
  refine Pipeline.resembles_call hroute (fun v hv => ?_) fun seen seen' _ _ =>
    resembles_handler method query seen seen'
  rw [Call.operation_start, Call.operation_start, Call.metadata_start, Call.metadata_start,
    method.ofMethod_path]
  exact h v hv

/-- Whether two calls that were served look the same from outside: they come to the same result, and
to the same metrics but for how long things took, whatever was recorded before. -/
structure LookSame {α : Type} (x y : Result α × Trail) : Prop where
  result : x.1 = y.1
  metrics : ∀ m, (x.2.metrics m).timeless = (y.2.metrics m).timeless

/-- Programs that resemble each other look the same where storage answers alike. -/
theorem lookSame_of_resembles {p q : Serving (Result α)} {c c' : Circumstances}
    (h : p.Resembles Eq q) (halike : c.Alike c') : LookSame (c.run p) (c'.run q) := by
  obtain ⟨hresult, hlike⟩ := h.run halike .refl
  exact ⟨hresult, hlike.metrics⟩

/-- Where one storage fails and another fails for any other reason, with a validator or without one,
a call of the service comes to the same reply or status and records the same, durations aside. The
same holds of any two handlers behind the standard pipeline that differ in no more than the message
of an unclassified fault, the wording of a failure of storage, or what a panic carries. -/
theorem details_stay_inside (validator : Option Validator) {c c' : Circumstances}
    (h : c.Alike c') :
    (∀ (method : Method) (metadata : Metadata) (query : method.Query),
      LookSame (c.run (serve validator method metadata query))
        (c'.run (serve validator method metadata query))) ∧
    ∀ (α : Type) (call : Call) (handler handler' : Call → Serving (Outcome α)),
      (∀ seen, (handler seen).Resembles Outcome.Alike (handler' seen)) →
        LookSame (c.run ((Pipeline.standard validator).call call handler))
          (c'.run ((Pipeline.standard validator).call call handler')) := by
  constructor
  · intro method metadata query
    exact lookSame_of_resembles (resembles_serve validator method query fun _ _ => rfl) h
  · intro α call handler handler' hhandler
    refine lookSame_of_resembles (Pipeline.resembles_call ⟨rfl, rfl⟩ (fun _ _ => rfl) ?_) h
    -- The call is the same, so both handlers are started with the same one.
    intro seen seen' hseen hseen'
    rw [hseen, Option.some.injEq] at hseen'
    exact hseen' ▸ hhandler seen

/-- A storage that has an item and never commits anything, for a given reason. -/
def failing (item : Item) (reason : Storage.Error) : Circumstances where
  answer
    | _, .start => ()
    | _, .save _ => item.id
    | _, .find _ => .ok (some item)
    | _, .page _ => .ok ⟨[item], 1⟩
    | _, .update _ => ()
    | _, .delete _ => ()
    | _, .commit => .error reason
    | _, .count => .ok 1

/-- An update that meets a conflict and one whose storage is out of reach are refused as one, and so
are two handlers that panic over different things. -/
theorem failing_discreetly :
    let item : Item := ⟨⟨7⟩, "Lamp", ⟨1, 0⟩, none, 3⟩
    let c := failing item (.conflict item.id)
    let c' := failing item (.unavailable "10.0.0.5 does not answer")
    let request : ItemMessage := { id := item.id.text, name := "Torch" }
    let update : Serving (Result ItemReply) := serve none .updateItem .empty request
    let call := Call.start Method.updateItem.path .empty .nil
    let panicking (panic : Panic) (_ : Call) : Serving (Outcome Unit) := .done (.panicked panic)
    c.Alike c' ∧ LookSame (c.run update) (c'.run update) ∧
      (c.run update).1 = .refused (Failure.storage .update "" none).status ∧
      LookSame (c.run ((Pipeline.standard none).call call (panicking (.text "password"))))
        (c'.run ((Pipeline.standard none).call call (panicking .other))) := by
  intro item c c' request update call panicking
  have halike : c.Alike c' := by
    intro past r
    cases r with
    | commit => exact .failed _ _
    | _ => exact .refl _ _
  have hsame := details_stay_inside none halike
  refine ⟨halike, hsame.1 .updateItem .empty request, ?_, ?_⟩
  · decide +kernel
  · exact hsame.2 Unit call _ _ fun _ => .done (.panicked _ _)

/-- Over any store, two calls of one method with one message, at one time and with one identifier
for a new item, come to the same reply or status, leave the same store and record the same,
durations aside, if the same comes of their authorization. Whatever else their metadata say makes no
difference. -/
theorem metadata_only_authorize {σ : Type} (b : Storage.Backend σ) (s : σ) (now : Instant)
    (fresh : Identifier) (random random' : Nat → BitVec 128) (nanos nanos' : Nat → Nat)
    (validator : Validator) (method : Method) (query : method.Query)
    {metadata metadata' : Metadata}
    (h : validator.admission metadata method.operation =
      validator.admission metadata' method.operation) :
    let ended := (Circumstances.over b now fresh s random nanos).run
      (serve (some validator) method metadata query)
    let ended' := (Circumstances.over b now fresh s random' nanos').run
      (serve (some validator) method metadata' query)
    LookSame ended ended' ∧ ended.2.left b now fresh s = ended'.2.left b now fresh s := by
  intro ended ended'
  have hadmission : ∀ v ∈ some validator,
      v.admission metadata method.operation = v.admission metadata' method.operation := by
    rintro v ⟨⟩
    exact h
  have hresembles := resembles_serve (some validator) method query hadmission
  have halike : (Circumstances.over b now fresh s random nanos).Alike
      (.over b now fresh s random' nanos') := fun past r => .refl r _
  refine ⟨lookSame_of_resembles hresembles halike, ?_⟩
  have hasked : ended.2.asked = ended'.2.asked := (hresembles.run halike .refl).2.asked
  rw [Trail.left, Trail.left, hasked]

/-- Accepts two tokens of users who may create items, one by a role and the other one by a
permission. -/
def concierge : Validator where
  judge token :=
    if token = "w" then .accepted { id := "ada", roles := .ofList ["write"] }
    else if token = "c" then .accepted { id := "bob", permissions := .ofList ["create"] }
    else .rejected

/-- Two users create an item each with the same name over an empty table, one of them under a false
name and the other one with a correlation identifier: the reply is the same, and so is the table. -/
theorem concierge_admits :
    let metadata : Metadata :=
      ⟨[("user-id", Text.bytes "mallory"), ("authorization", Text.bytes "Bearer w")]⟩
    let metadata' : Metadata :=
      ⟨[("authorization", Text.bytes "c"),
        ("x-correlation-id", Text.bytes "00000000-0000-4000-8000-000000000001")]⟩
    let request : ItemMessage := { name := " Lamp " }
    let serving (metadata : Metadata) := serve (some concierge) .createItem metadata request
    let now : Instant := ⟨5, 0⟩
    let c := Circumstances.over Storage.Table.backend now ⟨7⟩ .empty (fun _ => 1) fun _ => 20
    let c' := Circumstances.over Storage.Table.backend now ⟨7⟩ .empty (fun _ => 2) fun n => 30 + n
    let left := (c.run (serving metadata)).2.left Storage.Table.backend now ⟨7⟩ .empty
    let left' := (c'.run (serving metadata')).2.left Storage.Table.backend now ⟨7⟩ .empty
    concierge.admission metadata .create = concierge.admission metadata' .create ∧
      LookSame (c.run (serving metadata)) (c'.run (serving metadata')) ∧ left = left' ∧
      left'.get? ⟨7⟩ = some (.created ⟨7⟩ "Lamp" now) := by
  intro metadata metadata' request serving now c c' left left'
  have hadmission :
      concierge.admission metadata .create = concierge.admission metadata' .create := by
    decide +kernel
  have hsame := metadata_only_authorize Storage.Table.backend .empty now ⟨7⟩ (fun _ => 1)
    (fun _ => 2) (fun _ => 20) (fun n => 30 + n) concierge .createItem request hadmission
  exact ⟨hadmission, hsame.1, hsame.2, by decide +kernel⟩

end Service
end ItemCatalog
