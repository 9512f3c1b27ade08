import ItemCatalog.Proofs.FieldErrors
import ItemCatalog.Proofs.Service.Dialogue
import ItemCatalog.Proofs.Spelling

/-!
# Updates that fail their checks

An update has two fields that may be invalid. The shape of its identifier is checked together with
its name; that the identifier is not nil is checked only once both have passed. Main statement: an
update fails its checks just if its identifier or its name is invalid, and then every invalid field
is reported, but for a nil identifier beside an invalid name (`invalid_update_fields`).

## Main definitions

* `Identifier.IsRejected`: a field does not yield an identifier.
* `ItemMessage.reported?`: what an update that fails its checks is told about a field.
-/

namespace ItemCatalog

/-! ## Collected errors -/

namespace FieldErrors

theorem result_cases (errors : FieldErrors) :
    errors.result = .ok () ∨ errors.result = .error (.invalidFields errors) := by
  by_cases h : errors.isEmpty = true <;> simp [result, h]

/-- Two checks leave what each of them has found under its own field. -/
theorem get?_addIf_addIf {first second : String} (h : first ≠ second) (a b : Option String)
    (field : String) :
    ((empty.addIf first a).addIf second b).get? field =
      if field = first then a.map ([·]) else if field = second then b.map ([·]) else none := by
  by_cases hfirst : field = first
  · subst hfirst
    cases a <;> cases b <;> simp [addIf, get?_add, empty, h]
  · by_cases hsecond : field = second
    · subst hsecond
      cases a <;> cases b <;> simp [addIf, get?_add, empty, hfirst]
    · cases a <;> cases b <;> simp [addIf, get?_add, empty, hfirst, hsecond]

end FieldErrors

/-! ## Identifiers -/

namespace Identifier

/-- Whether a text yields no identifier: it is blank, malformed or nil. -/
def IsRejected (text : String) : Prop := ∀ id, require text Field.id ≠ .ok id

theorem isRejected_iff {m : ItemMessage} :
    IsRejected m.id ↔ m.idError? ≠ none ∨ parse? (Text.trim m.id) = some .nil := by
  simp only [IsRejected, ne_eq, require_eq_ok_iff, ItemMessage.idError?_eq_none_iff,
    ← parse?_eq_some_iff]
  cases parse? (Text.trim m.id) with
  | none => simp
  | some id => simp

/-- The nil identifier is turned down for being nil. -/
theorem require_nil {text field : String} (h : parse? (Text.trim text) = some .nil) :
    require text field = .error (.invalidField field (field ++ " cannot be an empty GUID.")) := by
  have hempty := (parse?_eq_some_iff.1 h).isEmpty_eq_false
  simp [require, hempty, h]

end Identifier

/-! ## The fields of an update -/

namespace ItemMessage

/-- What an update that fails its checks is told about a field. That its identifier is nil it is
told only if nothing is wrong with its name. -/
def reported? (m : ItemMessage) (field : String) : Option String :=
  if field = Field.id then
    m.idError?.or <|
      if m.nameError? = none ∧ Identifier.parse? (Text.trim m.id) = some .nil then
        some "Id cannot be an empty GUID."
      else none
  else if field = Field.name then m.nameError?
  else none

theorem isSome_reported?_id (m : ItemMessage) :
    (m.reported? Field.id).isSome = true ↔
      Identifier.IsRejected m.id ∧
        ¬(Identifier.parse? (Text.trim m.id) = some .nil ∧ m.nameError? ≠ none) := by
  rw [Identifier.isRejected_iff, reported?, if_pos rfl]
  cases hshape : m.idError? with
  | some message =>
    have hnone : ∀ id, Identifier.parse? (Text.trim m.id) ≠ some id := by
      intro id hid
      have := idError?_eq_none_iff.2 ⟨id, Identifier.parse?_eq_some_iff.1 hid⟩
      simp [hshape] at this
    simp [hnone]
  | none => by_cases hnil : Identifier.parse? (Text.trim m.id) = some .nil <;> simp [hnil]

end ItemMessage

namespace Service
variable {c : Circumstances} {call : Call} {request : ItemMessage} {message : String}
  {errors : FieldErrors}

/-- An update is turned down for what its checks have collected, or for a nil identifier. -/
theorem updateTarget_eq_error {failure : Failure} (h : updateTarget request = .error failure) :
    (request.idError? ≠ none ∨ request.nameError? ≠ none) ∧
        failure = .invalidFields
          ((FieldErrors.empty.addIf Field.id request.idError?).addIf Field.name
            request.nameError?) ∨
      request.idError? = none ∧ request.nameError? = none ∧
        Identifier.parse? (Text.trim request.id) = some .nil ∧
        failure = .invalidField Field.id "Id cannot be an empty GUID." := by
  rw [updateTarget, ItemMessage.checkUpdate] at h
  by_cases hpassed : request.idError? = none ∧ request.nameError? = none
  · right
    obtain ⟨hid, hname⟩ := hpassed
    rw [FieldErrors.result_addIf_addIf Field.id Field.name _ _ |>.2 ⟨hid, hname⟩] at h
    obtain ⟨id, hspelled⟩ := ItemMessage.idError?_eq_none_iff.1 hid
    have hnil : id = .nil := by
      by_contra hne
      rw [Identifier.require_eq_ok_iff.2 ⟨hspelled, hne⟩] at h
      cases h
    subst hnil
    have hparse := Identifier.parse?_eq_some_iff.2 hspelled
    simp only [Identifier.require_nil hparse, Except.error.injEq] at h
    exact ⟨hid, hname, hparse, h.symm⟩
  · left
    refine ⟨by simpa [imp_iff_not_or] using hpassed, ?_⟩
    rcases FieldErrors.result_cases ((FieldErrors.empty.addIf Field.id request.idError?).addIf
      Field.name request.nameError?) with hresult | hresult
    · exact absurd (FieldErrors.result_addIf_addIf _ _ _ _ |>.1 hresult) hpassed
    · simp only [hresult, Except.error.injEq] at h
      exact h.symm

/-- What is reported of an update that fails its checks. -/
theorem get?_of_updateTarget (h : updateTarget request = .error (.invalid message errors))
    (field : String) : errors.get? field = (request.reported? field).map ([·]) := by
  have hne : Field.id ≠ Field.name := by decide
  rw [ItemMessage.reported?]
  rcases updateTarget_eq_error h with ⟨hwrong, hfailure⟩ | ⟨hid, hname, hnil, hfailure⟩
  · rw [Failure.invalidFields, Failure.invalid.injEq] at hfailure
    rw [hfailure.2, FieldErrors.get?_addIf_addIf hne]
    have hnot (hid : request.idError? = none) : request.nameError? ≠ none :=
      hwrong.resolve_left (not_not.2 hid)
    by_cases hfield : field = Field.id
    · cases hid : request.idError? <;> simp [hfield, hid, hnot]
    · by_cases hsecond : field = Field.name <;> simp [hfield, hsecond, Ne.symm hne]
  · rw [Failure.invalidField, Failure.invalid.injEq] at hfailure
    rw [hfailure.2, FieldErrors.get?_add]
    by_cases hfield : field = Field.id <;> simp [hfield, hid, hname, hnil, FieldErrors.empty]

/-- A commit never tells an update that its fields are invalid. -/
theorem updatedReply_ne_invalid (id : Identifier) (outcome : Except Storage.Error (List Item)) :
    updatedReply id outcome ≠ .error (.invalid message errors) := by
  cases outcome with
  | error e => cases e <;> simp [updatedReply, broken]
  | ok written =>
    rw [updatedReply]
    cases writtenItem id written <;> simp

/-- An update is told that its fields are invalid just if it is turned down before storage is asked
for anything. -/
theorem run_update_eq_invalid_iff :
    (c.run (update call request)).1 = .error (.invalid message errors) ↔
      updateTarget request = .error (.invalid message errors) := by
  have hrun : c.run (update call request) = (updateCourse request).dialogue c .update :=
    run_handle .updateItem call request
  rw [hrun, updateCourse]
  cases updateTarget request with
  | error failure => simp [Course.dialogue]
  | ok id =>
    simp only [Course.dialogue, reduceCtorEq, iff_false]
    rcases c.answer Trail.begun.asked (.find id) with e | _ | item
    · simp [lookupDialogue, broken]
    · simp [lookupDialogue]
    · by_cases hname : item.name = Text.trim request.name
      · simp [lookupDialogue, renameErrand, hname, Errand.dialogue]
      · simpa [lookupDialogue, renameErrand, hname, Errand.dialogue] using
          updatedReply_ne_invalid id _

/-- An update is turned down just if one of its fields is invalid. -/
theorem exists_updateTarget_eq_invalid_iff :
    (∃ message errors, updateTarget request = .error (.invalid message errors)) ↔
      Identifier.IsRejected request.id ∨ request.nameError? ≠ none := by
  constructor
  · rintro ⟨message, errors, h⟩
    rw [Identifier.isRejected_iff]
    rcases updateTarget_eq_error h with ⟨hid | hname, -⟩ | ⟨-, -, hnil, -⟩
    · exact Or.inl (Or.inl hid)
    · exact Or.inr hname
    · exact Or.inl (Or.inr hnil)
  · intro h
    cases htarget : updateTarget request with
    | error failure =>
      rcases updateTarget_eq_error htarget with ⟨-, rfl⟩ | ⟨-, -, -, rfl⟩
      · exact ⟨_, _, rfl⟩
      · exact ⟨_, _, rfl⟩
    | ok id =>
      rcases h with hid | hname
      · exact absurd (require_of_updateTarget htarget) (hid id)
      · rw [updateTarget] at htarget
        cases hcheck : request.checkUpdate with
        | error failure => simp [hcheck] at htarget
        | ok _ =>
          rw [ItemMessage.checkUpdate, FieldErrors.result_addIf_addIf] at hcheck
          exact absurd hcheck.2 hname

/-- However storage behaves, an update fails its checks just if its identifier is blank, malformed
or nil, or its name breaks a rule. The errors of such an update name its name just if that breaks a
rule, and say which; they name its identifier just if that is blank, malformed or nil, except that
they do not if it is nil and the name breaks a rule as well; and they name nothing else. -/
theorem invalid_update_fields (c : Circumstances) (call : Call) (request : ItemMessage) :
    let result := (c.run (update call request)).1
    ((∃ message errors, result = .error (.invalid message errors)) ↔
      Identifier.IsRejected request.id ∨ Name.broken? request.name ≠ none) ∧
    ∀ message errors, result = .error (.invalid message errors) →
      (errors.get? "Name" = (Name.broken? request.name).map fun rule => [rule.message]) ∧
      ((errors.get? "Id").isSome = true ↔ Identifier.IsRejected request.id ∧
        ¬(Identifier.parse? (Text.trim request.id) = some .nil ∧
          Name.broken? request.name ≠ none)) ∧
      ∀ field, (errors.get? field).isSome = true → field = "Id" ∨ field = "Name" := by
  intro result
  have hname : request.nameError? ≠ none ↔ Name.broken? request.name ≠ none :=
    not_congr ItemMessage.nameError?_eq_none_iff
  constructor
  · simp only [result, run_update_eq_invalid_iff, exists_updateTarget_eq_invalid_iff, hname]
  · intro message errors hresult
    have hget := get?_of_updateTarget (run_update_eq_invalid_iff.1 hresult)
    refine ⟨?_, ?_, fun field hfield => ?_⟩
    · have hne : Field.name ≠ Field.id := by decide
      have hreported : errors.get? Field.name = request.nameError?.map ([·]) := by
        rw [hget, ItemMessage.reported?, if_neg hne, if_pos rfl]
      rw [ItemMessage.nameError?, Option.map_map] at hreported
      exact hreported
    · have hreported : (errors.get? Field.id).isSome = (request.reported? Field.id).isSome := by
        rw [hget, Option.isSome_map]
      rw [← hname, ← ItemMessage.isSome_reported?_id, ← hreported]
      rfl
    · rw [hget, Option.isSome_map, ItemMessage.reported?] at hfield
      by_contra hother
      have hid : field ≠ Field.id := (not_or.1 hother).1
      have hname : field ≠ Field.name := (not_or.1 hother).2
      simp [hid, hname] at hfield

/-- Circumstances in which storage is an empty table. -/
def vacancy (now : Instant) : Circumstances :=
  .over Storage.Table.backend now .nil .empty (fun _ => .zero 128) fun n => n

/-- What an update with an identifier and a blank name comes to over an empty table. -/
def unnamed (now : Instant) (id : String) : Except Failure ItemReply :=
  ((vacancy now).run
    (update (.start Method.updateItem.path .empty ⟨1⟩) { id := id, name := " " })).1

/-- Beside a blank name a malformed identifier is reported. -/
theorem malformed_reported :
    ∃ message errors, unnamed ⟨5, 0⟩ "7" = .error (.invalid message errors) ∧
      errors.get? "Name" = some [Name.Rule.blank.message] ∧
      (errors.get? "Id").isSome = true := by
  obtain ⟨hinvalid, hfields⟩ := invalid_update_fields (vacancy ⟨5, 0⟩)
    (.start Method.updateItem.path .empty ⟨1⟩) { id := "7", name := " " }
  have hblank : Name.broken? " " = some .blank := by decide +kernel
  obtain ⟨message, errors, h⟩ := hinvalid.2 (Or.inr (by rw [hblank]; nofun))
  obtain ⟨hname, hid, -⟩ := hfields message errors h
  have hmalformed : Identifier.parse? (Text.trim "7") = none := by decide +kernel
  refine ⟨message, errors, h, by rw [hname, hblank]; rfl, hid.2 ⟨fun id hid => ?_, ?_⟩⟩
  · simp [Identifier.require_eq_ok_iff, ← Identifier.parse?_eq_some_iff, hmalformed] at hid
  · simp [hmalformed]

/-- Beside a blank name a nil identifier is not reported, although it is not a valid one. -/
theorem nil_not_reported :
    ∃ message errors, unnamed ⟨5, 0⟩ Identifier.nil.text = .error (.invalid message errors) ∧
      ¬((errors.get? "Id").isSome = true ↔ Identifier.IsRejected Identifier.nil.text) := by
  have hresult : unnamed ⟨5, 0⟩ Identifier.nil.text =
      .error (.invalidFields (FieldErrors.empty.add "Name" Name.Rule.blank.message)) := by
    decide +kernel
  have hnil : Identifier.parse? (Text.trim Identifier.nil.text) = some .nil := by decide +kernel
  have hrejected : Identifier.IsRejected Identifier.nil.text := by
    intro id hid
    obtain ⟨hspelled, hne⟩ := Identifier.require_eq_ok_iff.1 hid
    rw [← Identifier.parse?_eq_some_iff, hnil] at hspelled
    exact hne (Option.some.inj hspelled).symm
  refine ⟨_, _, hresult, fun h => ?_⟩
  exact absurd (h.2 hrejected) (by decide)

end Service
end ItemCatalog
