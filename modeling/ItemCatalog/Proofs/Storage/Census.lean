import ItemCatalog.Proofs.Service.Grants

/-!
# The number of items

How a commit of one change alters the number of stored items, and whether it raises the version of
one. Main statements: an accepted creation adds an item and an accepted deletion removes one
(`size_apply`), and just an accepted update raises a version (`raises_apply`).
-/

namespace ItemCatalog

/-! ## Sizes of maps -/

namespace Assoc
variable {κ ν : Type} [DecidableEq κ]

theorem length_alterEntries (key : κ) (f : Option ν → ν) (l : List (κ × ν)) :
    (alterEntries key f l).length = l.length + if find? key l = none then 1 else 0 := by
  induction l with
  | nil => rfl
  | cons x rest ih =>
    obtain ⟨k, v⟩ := x
    simp only [alterEntries, find?]
    split
    · simp
    · simp only [List.length_cons, ih]
      omega

/-- A map has one key more after an insertion under a new key, and as many after any other one. -/
theorem size_insert (m : Assoc κ ν) (key : κ) (value : ν) :
    (m.insert key value).size = m.size + if m.get? key = none then 1 else 0 :=
  length_alterEntries key _ m.entries

theorem length_filter_ne {l : List (κ × ν)} (h : (l.map (·.1)).Nodup) (key : κ) :
    (l.filter fun e => e.1 ≠ key).length + (if find? key l = none then 0 else 1) = l.length := by
  induction l with
  | nil => rfl
  | cons x rest ih =>
    obtain ⟨k, v⟩ := x
    simp only [List.map_cons, List.nodup_cons] at h
    have hrest := ih h.2
    by_cases hk : key = k
    · subst hk
      have hnone : find? key rest = none := by
        rw [Option.eq_none_iff_forall_ne_some]
        intro v hv
        exact h.1 (List.mem_map.2 ⟨_, (find?_eq_some_iff h.2).1 hv, rfl⟩)
      rw [if_pos hnone, Nat.add_zero] at hrest
      rw [List.filter_cons_of_neg (by simp), find?, if_pos rfl, if_neg (Option.some_ne_none v),
        hrest]
      rfl
    · rw [List.filter_cons_of_pos (by simpa using Ne.symm hk), find?, if_neg hk, List.length_cons,
        List.length_cons, ← hrest]
      omega

/-- A map has one key less after the erasure of a key that it has. -/
theorem size_erase (m : Assoc κ ν) (key : κ) :
    (m.erase key).size + (if m.get? key = none then 0 else 1) = m.size :=
  length_filter_ne m.nodup key

end Assoc

namespace Storage.Table
variable {t : Table} {now : Instant} {d : Change}

/-- An accepted creation adds an item, and an accepted deletion removes one. -/
theorem size_apply (h : t.accepts d = true) :
    (t.apply now d).size + (if d.operation = .delete then 1 else 0) =
      t.size + if d.operation = .create then 1 else 0 := by
  cases d with
  | insert id name =>
    simp [apply, Assoc.size_insert, accepts_insert.1 h, Change.operation]
  | update item =>
    obtain ⟨y, hy, _⟩ := (accepts_of_item? rfl).1 h
    simp [apply, Assoc.size_insert, hy, Change.operation]
  | delete item =>
    obtain ⟨y, hy, _⟩ := (accepts_of_item? rfl).1 h
    have hsize := Assoc.size_erase t item.id
    simpa [apply, hy, Change.operation] using hsize

/-! ## Versions -/

/-- Whether some stored item has a higher version in one table than in the table before it. -/
def raises (t t' : Table) : Bool :=
  t.entries.any fun e => (t'.get? e.1).any fun y => decide (e.2.version < y.version)

theorem raises_iff {t t' : Table} :
    raises t t' = true ↔
      ∃ k x y, t.get? k = some x ∧ t'.get? k = some y ∧ x.version < y.version := by
  simp only [raises, List.any_eq_true, Option.any_eq_true, decide_eq_true_eq, Prod.exists]
  constructor
  · rintro ⟨k, x, hx, y, hy, hlt⟩
    exact ⟨k, x, y, (t.get?_eq_some_iff).2 hx, hy, hlt⟩
  · rintro ⟨k, x, y, hx, hy, hlt⟩
    exact ⟨k, x, (t.get?_eq_some_iff).1 hx, y, hy, hlt⟩

theorem not_raises_self (t : Table) : raises t t = false := by
  rw [Bool.eq_false_iff, ne_eq, raises_iff]
  rintro ⟨k, x, y, hx, hy, hlt⟩
  rw [hx, Option.some.injEq] at hy
  rw [hy] at hlt
  exact Int.lt_irrefl _ hlt

/-- Of the changes that are accepted, just the updates raise a version. -/
theorem raises_apply (h : t.accepts d = true) :
    raises t (t.apply now d) = decide (d.operation = .update) := by
  have hother : ∀ k x y, k ≠ d.id → t.get? k = some x → (t.apply now d).get? k = some y →
      x = y := by
    intro k x y hk hx hy
    rw [get?_apply, if_neg hk, hx] at hy
    exact Option.some.inj hy
  rw [Bool.eq_iff_iff, raises_iff, decide_eq_true_eq]
  constructor
  · rintro ⟨k, x, y, hx, hy, hlt⟩
    have hk : k = d.id := by
      by_contra hk
      rw [hother k x y hk hx hy] at hlt
      exact Int.lt_irrefl _ hlt
    subst hk
    cases d with
    | insert id name =>
      change t.get? id = some x at hx
      rw [accepts_insert.1 h] at hx
      cases hx
    | update item => rfl
    | delete item =>
      rw [get?_apply, if_pos rfl] at hy
      cases hy
  · intro hop
    cases d with
    | update item =>
      obtain ⟨x, hx, hv⟩ := (accepts_of_item? rfl).1 h
      refine ⟨item.id, x, item.updated now, hx, ?_, ?_⟩
      · rw [get?_apply]
        exact if_pos rfl
      · rw [hv]
        exact Int.lt_succ _
    | _ => cases hop

end Storage.Table
end ItemCatalog
