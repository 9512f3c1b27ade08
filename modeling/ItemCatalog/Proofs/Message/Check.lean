import ItemCatalog.Message.Check

/-!
# What passes the checks of requests

Main statements: for each kind of request, exactly what it takes to pass its checks
(`checkCreate_eq_ok_iff`, `checkUpdate_eq_ok_iff`, `check_eq_ok_iff`).
-/

namespace ItemCatalog

/-! ## Collected errors -/

namespace FieldErrors

theorem isEmpty_empty : empty.isEmpty = true := rfl

/-- An error that is added is there. -/
theorem isEmpty_add (errors : FieldErrors) (field message : String) :
    (errors.add field message).isEmpty = false := by
  obtain ⟨entries, ascending⟩ := errors
  change (Ordered.alterEntries field _ entries).isEmpty = false
  cases entries with
  | nil => rfl
  | cons e rest =>
    rw [Ordered.alterEntries]
    split
    · rfl
    · split <;> rfl

theorem isEmpty_addIf (errors : FieldErrors) (field : String) (message : Option String) :
    (errors.addIf field message).isEmpty = true ↔ errors.isEmpty = true ∧ message = none := by
  cases message with
  | none => simp [addIf]
  | some message => simp [addIf, isEmpty_add]

theorem result_eq_ok_iff {errors : FieldErrors} :
    errors.result = .ok () ↔ errors.isEmpty = true := by
  rw [result]
  split <;> simp_all

/-- Two checks pass when neither finds an error. -/
theorem result_addIf_addIf (first second : String) (a b : Option String) :
    ((empty.addIf first a).addIf second b).result = .ok () ↔ a = none ∧ b = none := by
  rw [result_eq_ok_iff, isEmpty_addIf, isEmpty_addIf]
  simp [isEmpty_empty]

end FieldErrors

/-! ## Requests -/

namespace ItemMessage

theorem nameError?_eq_none_iff {m : ItemMessage} :
    m.nameError? = none ↔ Name.broken? m.name = none := by
  rw [nameError?, Option.map_eq_none_iff]

theorem newIdError?_eq_none_iff {m : ItemMessage} :
    m.newIdError? = none ↔ m.id.isEmpty = true := by
  rw [newIdError?]
  split <;> simp_all

/-- A creation passes with a name that breaks no rule and without an identifier. -/
theorem checkCreate_eq_ok_iff {m : ItemMessage} :
    m.checkCreate = .ok () ↔ Name.broken? m.name = none ∧ m.id.isEmpty = true := by
  rw [checkCreate, FieldErrors.result_addIf_addIf, nameError?_eq_none_iff, newIdError?_eq_none_iff]

/-- An update passes with a name that breaks no rule and the spelling of an identifier. -/
theorem checkUpdate_eq_ok_iff {m : ItemMessage} :
    m.checkUpdate = .ok () ↔ m.idError? = none ∧ Name.broken? m.name = none := by
  rw [checkUpdate, FieldErrors.result_addIf_addIf, nameError?_eq_none_iff]

end ItemMessage

/-- A page query passes with a page number from one up and a page size from one to a thousand. -/
theorem PageQuery.check_eq_ok_iff {q : PageQuery} :
    q.check = .ok () ↔ 1 ≤ q.startPage.toInt ∧ 1 ≤ q.pageSize.toInt ∧ q.pageSize.toInt ≤ 1000 := by
  have hmax : maxRequestedPageSize.toInt = 1000 := by decide
  rw [check, FieldErrors.result_addIf_addIf, startPageError?, pageSizeError?, hmax]
  constructor
  · rintro ⟨hstart, hsize⟩
    split at hstart
    · cases hstart
    · split at hsize
      · cases hsize
      · split at hsize
        · cases hsize
        · omega
  · intro h
    rw [if_neg (by omega), if_neg (by omega), if_neg (by omega)]
    exact ⟨rfl, rfl⟩

end ItemCatalog
