import ItemCatalog.Proofs.Storage.Commit

/-!
# Checks made at once and checks made in turn

A commit of many changes may check all of them against the table as it is found, or each against
what the changes before it have left. Main statements: when no identifier is touched twice, both
ways refuse the same change first (`refusedInTurn?_eq_of_nodup`); when one is, there is always a
change that one of the two ways refuses (`refusedInTurn?_ne_none_of_repeated`).
-/

namespace ItemCatalog.Storage.Table
variable {t u : Table} {now : Instant} {staged : List Change}

/-- The first change that the table as it is found does not accept. -/
def refused? (t : Table) (staged : List Change) : Option Change :=
  staged.find? fun c => !t.accepts c

/-- The first change that is not accepted after those before it have been applied. -/
def refusedInTurn? (t : Table) (now : Instant) : List Change → Option Change
  | [] => none
  | c :: rest => if t.accepts c then (t.apply now c).refusedInTurn? now rest else some c

theorem refused?_eq_none : t.refused? staged = none ↔ ∀ c ∈ staged, t.accepts c = true := by
  simp [refused?, List.find?_eq_none]

theorem refused?_cons_of_accepts {c : Change} (ha : t.accepts c = true) :
    t.refused? (c :: staged) = t.refused? staged := by
  simp [refused?, ha]

theorem refused?_cons_of_not_accepts {c : Change} (ha : t.accepts c = false) :
    t.refused? (c :: staged) = some c := by
  simp [refused?, ha]

/-! ## What acceptance depends on -/

/-- Only the version that is stored under the identifier of a change matters. -/
theorem accepts_congr {c : Change}
    (h : (t.get? c.id).map Item.version = (u.get? c.id).map Item.version) :
    t.accepts c = u.accepts c := by
  cases c with
  | insert id name =>
    change (t.get? id).map _ = (u.get? id).map _ at h
    have hnone := congrArg Option.isNone h
    simpa only [accepts, Option.isNone_map] using hnone
  | update item =>
    change (t.get? item.id).map _ = (u.get? item.id).map _ at h
    simp only [accepts, h]
  | delete item =>
    change (t.get? item.id).map _ = (u.get? item.id).map _ at h
    simp only [accepts, h]

/-- A change of one identifier does not matter to changes of another. -/
theorem accepts_apply_of_ne {c d : Change} (h : d.id ≠ c.id) :
    (t.apply now c).accepts d = t.accepts d := by
  apply accepts_congr
  rw [get?_apply, if_neg h]

/-- Two changes of one identifier that a table accepts exclude each other: the first that is
applied makes the other stale. -/
theorem not_accepts_apply {c d : Change} (hid : d.id = c.id) (hc : t.accepts c = true)
    (hd : t.accepts d = true) : (t.apply now c).accepts d = false := by
  rw [Bool.eq_false_iff]
  intro hafter
  cases hx : d.item? with
  | none =>
    cases d with
    | update item => simp [Change.item?] at hx
    | delete item => simp [Change.item?] at hx
    | insert id name =>
      rw [accepts_insert] at hd hafter
      change id = c.id at hid
      rw [get?_apply, if_pos hid] at hafter
      cases hz : c.item? with
      | none =>
        cases c with
        | insert id' name' => cases hafter
        | update item => simp [Change.item?] at hz
        | delete item => simp [Change.item?] at hz
      | some z =>
        obtain ⟨y, hy, _⟩ := (accepts_of_item? hz).1 hc
        rw [← Change.id_eq_of_item? hz, ← hid, hd] at hy
        cases hy
  | some x =>
    obtain ⟨y, hy, hv⟩ := (accepts_of_item? hx).1 hd
    obtain ⟨z, hz, hw⟩ := (accepts_of_item? hx).1 hafter
    rw [← Change.id_eq_of_item? hx, hid] at hy hz
    rw [get?_apply, if_pos rfl] at hz
    have := version_of_written? hc hy hz
    omega

/-! ## Identifiers that are touched once -/

theorem refused?_apply_of_notMem {c : Change} (h : c.id ∉ staged.map Change.id) :
    (t.apply now c).refused? staged = t.refused? staged := by
  induction staged with
  | nil => rfl
  | cons d rest ih =>
    rw [List.map_cons, List.mem_cons, not_or] at h
    obtain ⟨hd, hrest⟩ := h
    have hacc : (t.apply now c).accepts d = t.accepts d := accepts_apply_of_ne (Ne.symm hd)
    by_cases ha : t.accepts d = true
    · rw [refused?_cons_of_accepts ha, refused?_cons_of_accepts (hacc.trans ha), ih hrest]
    · rw [Bool.not_eq_true] at ha
      rw [refused?_cons_of_not_accepts ha, refused?_cons_of_not_accepts (hacc.trans ha)]

/-- When no identifier is touched twice, it does not matter when the checks are made. -/
theorem refusedInTurn?_eq_of_nodup (h : (staged.map Change.id).Nodup) :
    t.refusedInTurn? now staged = t.refused? staged := by
  induction staged generalizing t with
  | nil => rfl
  | cons c rest ih =>
    rw [List.map_cons, List.nodup_cons] at h
    by_cases ha : t.accepts c = true
    · rw [refusedInTurn?, if_pos ha, ih h.2, refused?_apply_of_notMem h.1,
        refused?_cons_of_accepts ha]
    · rw [refusedInTurn?, if_neg ha, refused?_cons_of_not_accepts (by simpa using ha)]

/-! ## Identifiers that are touched again -/

/-- Changes of an identifier that are all stale are not passed over. -/
theorem refusedInTurn?_ne_none_of_stale {k : Identifier} (hk : k ∈ staged.map Change.id)
    (hstale : ∀ d ∈ staged, d.id = k → t.accepts d = false) :
    t.refusedInTurn? now staged ≠ none := by
  induction staged generalizing t with
  | nil => cases hk
  | cons d rest ih =>
    by_cases ha : t.accepts d = true
    · rw [refusedInTurn?, if_pos ha]
      have hd : d.id ≠ k := by
        intro heq
        rw [hstale d List.mem_cons_self heq] at ha
        cases ha
      apply ih
      · rw [List.map_cons, List.mem_cons] at hk
        exact hk.resolve_left (Ne.symm hd)
      · intro e he hek
        have hne : e.id ≠ d.id := by
          rw [hek]
          exact Ne.symm hd
        rw [accepts_apply_of_ne hne]
        exact hstale e (List.mem_cons_of_mem d he) hek
    · rw [refusedInTurn?, if_neg ha]
      simp

/-- When an identifier is touched twice and the table accepts every change as it is found, some
change is refused in its turn. -/
theorem refusedInTurn?_ne_none_of_repeated (now : Instant)
    (h : ¬(staged.map Change.id).Nodup) (hall : t.refused? staged = none) :
    t.refusedInTurn? now staged ≠ none := by
  induction staged generalizing t with
  | nil => simp at h
  | cons c rest ih =>
    rw [refused?_eq_none] at hall
    have hc : t.accepts c = true := hall c List.mem_cons_self
    have hrest : ∀ d ∈ rest, t.accepts d = true := by
      intro d hd
      exact hall d (List.mem_cons_of_mem c hd)
    rw [refusedInTurn?, if_pos hc]
    by_cases hk : c.id ∈ rest.map Change.id
    · apply refusedInTurn?_ne_none_of_stale hk
      intro d hd hid
      exact not_accepts_apply hid hc (hrest d hd)
    · apply ih
      · intro hnodup
        exact h (List.nodup_cons.2 ⟨hk, hnodup⟩)
      · rw [refused?_apply_of_notMem hk, refused?_eq_none]
        exact hrest

/-! ## The commit of a table -/

/-- A commit fails just when the table refuses a change as it is found. -/
theorem commit_eq_of_refused {c : Change} (h : t.refused? staged = some c) :
    t.commit now staged = (.error (.conflict c.id), t) :=
  commit_eq_of_find? h

theorem commit_eq_of_refused_none (h : t.refused? staged = none) :
    t.commit now staged = (.ok (staged.filterMap (written? now)), t.applyAll now staged) :=
  commit_eq_of_all (refused?_eq_none.1 h)

end ItemCatalog.Storage.Table
