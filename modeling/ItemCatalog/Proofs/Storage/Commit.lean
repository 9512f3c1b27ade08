import ItemCatalog.Storage.Table

/-!
# What a commit does to a table

A commit of many changes seen through what the table holds under one identifier. Main statements:
a commit either fails for a change that the table does not accept or applies all of them
(`commit_cases`); afterwards an identifier holds what it held before or what one of its changes
wrote (`get?_applyAll`); and a version that a commit has replaced, or that was past before it,
stays past (`isPast_commit_of_written`, `IsPast.commit`).
-/

namespace ItemCatalog

/-- Whether an item is another one with at most the name changed. -/
def Item.IsRenaming (x r : Item) : Prop := x = { r with name := x.name }

theorem Item.IsRenaming.id_eq {x r : Item} (h : x.IsRenaming r) : x.id = r.id := by
  rw [h]

theorem Item.IsRenaming.version_eq {x r : Item} (h : x.IsRenaming r) : x.version = r.version := by
  rw [h]

namespace Storage

/-- The item that a change was staged for. An insertion is staged for none. -/
def Change.item? : Change → Option Item
  | .insert .. => none
  | .update item => some item
  | .delete item => some item

theorem Change.id_eq_of_item? {c : Change} {x : Item} (h : c.item? = some x) : c.id = x.id := by
  cases c with
  | insert id name => simp [Change.item?] at h
  | update item =>
    simp only [Change.item?, Option.some.injEq] at h
    rw [← h]; rfl
  | delete item =>
    simp only [Change.item?, Option.some.injEq] at h
    rw [← h]; rfl

namespace Table
variable {t : Table} {now : Instant} {staged : List Change}

/-! ## Acceptance -/

theorem accepts_insert {id : Identifier} {name : String} :
    t.accepts (.insert id name) = true ↔ t.get? id = none := by
  simp [accepts]

/-- An update or a deletion is accepted where its item is stored at the version it was read at. -/
theorem accepts_of_item? {c : Change} {x : Item} (h : c.item? = some x) :
    t.accepts c = true ↔ ∃ y, t.get? x.id = some y ∧ y.version = x.version := by
  have hx : t.accepts c = ((t.get? x.id).map Item.version == some x.version) := by
    cases c with
    | insert id name => simp [Change.item?] at h
    | update item =>
      simp only [Change.item?, Option.some.injEq] at h
      rw [← h]; rfl
    | delete item =>
      simp only [Change.item?, Option.some.injEq] at h
      rw [← h]; rfl
  rw [hx, beq_iff_eq, Option.map_eq_some_iff]

/-- A change that is accepted although its identifier is taken is no insertion. -/
theorem exists_item?_of_accepts {c : Change} {y : Item} (ha : t.accepts c = true)
    (hy : t.get? c.id = some y) : ∃ x, c.item? = some x := by
  cases c with
  | insert id name =>
    rw [accepts_insert] at ha
    change t.get? id = some y at hy
    rw [ha] at hy
    cases hy
  | update item => exact ⟨item, rfl⟩
  | delete item => exact ⟨item, rfl⟩

/-! ## Application -/

/-- Applies changes one after another. -/
def applyAll (t : Table) (now : Instant) (staged : List Change) : Table :=
  staged.foldl (fun t c => t.apply now c) t

@[simp] theorem applyAll_nil : t.applyAll now [] = t := rfl
@[simp] theorem applyAll_cons (c : Change) :
    t.applyAll now (c :: staged) = (t.apply now c).applyAll now staged := rfl

theorem get?_apply (c : Change) (k : Identifier) :
    (t.apply now c).get? k = if k = c.id then written? now c else t.get? k := by
  cases c with
  | insert id name => exact Assoc.get?_insert t id (.created id name now) k
  | update item => exact Assoc.get?_insert t item.id (item.updated now) k
  | delete item => exact Assoc.get?_erase t item.id k

/-- An identifier holds afterwards what it held before, unless it was changed; then it holds what
one of its changes wrote. -/
theorem get?_applyAll (t : Table) (now : Instant) (staged : List Change) (k : Identifier) :
    (∀ c ∈ staged, c.id ≠ k) ∧ (t.applyAll now staged).get? k = t.get? k ∨
      ∃ c ∈ staged, c.id = k ∧ (t.applyAll now staged).get? k = written? now c := by
  induction staged generalizing t with
  | nil => simp
  | cons c rest ih =>
    rw [applyAll_cons]
    rcases ih (t.apply now c) with ⟨hne, hget⟩ | ⟨d, hd, hk, hget⟩
    · by_cases hc : c.id = k
      · refine Or.inr ⟨c, List.mem_cons_self, hc, ?_⟩
        rw [hget, get?_apply, if_pos hc.symm]
      · refine Or.inl ⟨?_, ?_⟩
        · intro d hd
          rcases List.mem_cons.1 hd with rfl | hd
          · exact hc
          · exact hne d hd
        · rw [hget, get?_apply, if_neg (Ne.symm hc)]
    · exact Or.inr ⟨d, List.mem_cons_of_mem c hd, hk, hget⟩

/-! ## The two outcomes -/

/-- A commit fails for a change that the table does not accept and leaves the table, or all changes
are accepted and applied. -/
theorem commit_cases (t : Table) (now : Instant) (staged : List Change) :
    (∃ c ∈ staged, t.accepts c = false ∧ t.commit now staged = (.error (.conflict c.id), t)) ∨
      (∀ c ∈ staged, t.accepts c = true) ∧
        t.commit now staged = (.ok (staged.filterMap (written? now)), t.applyAll now staged) := by
  cases h : staged.find? fun c => !t.accepts c with
  | some c =>
    refine Or.inl ⟨c, List.mem_of_find?_eq_some h, ?_, commit_eq_of_find? h⟩
    simpa using List.find?_some h
  | none =>
    have hall : ∀ c ∈ staged, t.accepts c = true := by
      intro c hc
      simpa using List.find?_eq_none.1 h c hc
    exact Or.inr ⟨hall, commit_eq_of_all hall⟩

/-- A failed commit leaves the table as it was. -/
theorem commit_eq_of_error {e : Error} (h : (t.commit now staged).1 = .error e) :
    (t.commit now staged).2 = t ∧ ∃ c ∈ staged, t.accepts c = false ∧ e = .conflict c.id := by
  rcases commit_cases t now staged with ⟨c, hc, ha, heq⟩ | ⟨_, heq⟩
  · rw [heq] at h ⊢
    simp only [Except.error.injEq] at h
    exact ⟨rfl, c, hc, ha, h.symm⟩
  · rw [heq] at h
    cases h

/-- A commit that succeeds has had all its changes accepted, and has applied them. -/
theorem commit_eq_of_ok {written : List Item} (h : (t.commit now staged).1 = .ok written) :
    (∀ c ∈ staged, t.accepts c = true) ∧ written = staged.filterMap (written? now) ∧
      (t.commit now staged).2 = t.applyAll now staged := by
  rcases commit_cases t now staged with ⟨c, _, _, heq⟩ | ⟨hall, heq⟩
  · rw [heq] at h
    cases h
  · rw [heq] at h ⊢
    simp only [Except.ok.injEq] at h
    exact ⟨hall, h.symm, rfl⟩

theorem accepts_of_isOk (h : (t.commit now staged).1.isOk = true) :
    ∀ c ∈ staged, t.accepts c = true := by
  cases hr : (t.commit now staged).1 with
  | error e => rw [hr] at h; cases h
  | ok written => exact (commit_eq_of_ok hr).1

/-- After a commit an identifier holds what it held before, or what an accepted change of it
wrote. -/
theorem get?_commit (t : Table) (now : Instant) (staged : List Change) (k : Identifier) :
    (t.commit now staged).2.get? k = t.get? k ∨
      ∃ c ∈ staged, t.accepts c = true ∧ c.id = k ∧
        (t.commit now staged).2.get? k = written? now c := by
  rcases commit_cases t now staged with ⟨_, _, _, heq⟩ | ⟨hall, heq⟩
  · rw [heq]
    exact Or.inl rfl
  · rw [heq]
    rcases get?_applyAll t now staged k with ⟨_, hget⟩ | ⟨c, hc, hid, hget⟩
    · exact Or.inl hget
    · exact Or.inr ⟨c, hc, hall c hc, hid, hget⟩

/-! ### Commits of one change -/

theorem commit_insert {id : Identifier} (h : t.get? id = none) (name : String) :
    t.commit now [.insert id name] =
      (.ok [.created id name now], t.insert id (.created id name now)) := by
  apply commit_eq_of_all
  intro c hc
  rw [List.mem_singleton.1 hc, accepts_insert]
  exact h

theorem commit_update {x y : Item} (h : t.get? x.id = some y) (hv : y.version = x.version) :
    t.commit now [.update x] = (.ok [x.updated now], t.insert x.id (x.updated now)) := by
  apply commit_eq_of_all
  intro c hc
  rw [List.mem_singleton.1 hc, accepts_of_item? rfl]
  exact ⟨y, h, hv⟩

theorem commit_delete {x : Item} (h : t.get? x.id = some x) :
    t.commit now [.delete x] = (.ok [], t.erase x.id) := by
  apply commit_eq_of_all
  intro c hc
  rw [List.mem_singleton.1 hc, accepts_of_item? rfl]
  exact ⟨x, h, rfl⟩

/-! ### What stays free -/

/-- An identifier that is free stays free, unless an insertion takes it. -/
theorem get?_commit_of_none (now : Instant) {k : Identifier} (h : t.get? k = none)
    (hk : ∀ name, .insert k name ∉ staged) : (t.commit now staged).2.get? k = none := by
  rcases commit_cases t now staged with ⟨c, _, _, heq⟩ | ⟨hall, heq⟩
  · rw [heq]; exact h
  · rw [heq]
    rcases get?_applyAll t now staged k with ⟨_, hget⟩ | ⟨c, hc, hid, _⟩
    · rw [hget, h]
    · cases hx : c.item? with
      | none =>
        cases c with
        | insert id name =>
          change id = k at hid
          rw [hid] at hc
          exact absurd hc (hk name)
        | update item => simp [Change.item?] at hx
        | delete item => simp [Change.item?] at hx
      | some x =>
        obtain ⟨y, hy, _⟩ := (accepts_of_item? hx).1 (hall c hc)
        rw [← Change.id_eq_of_item? hx, hid, h] at hy
        cases hy

/-! ## Items under their own identifiers -/

/-- Every item is stored under its own identifier. -/
def IsKeyed (t : Table) : Prop := ∀ k y, t.get? k = some y → y.id = k

theorem isKeyed_empty : IsKeyed empty := by
  intro k y h
  simp [empty] at h

theorem id_of_written? {c : Change} {y : Item} (h : written? now c = some y) : y.id = c.id := by
  cases c with
  | insert id name =>
    simp only [written?, Option.some.injEq] at h
    rw [← h]; rfl
  | update item =>
    simp only [written?, Option.some.injEq] at h
    rw [← h]; rfl
  | delete item => simp [written?] at h

theorem IsKeyed.applyAll (h : t.IsKeyed) : (t.applyAll now staged).IsKeyed := by
  intro k y hy
  rcases get?_applyAll t now staged k with ⟨_, hget⟩ | ⟨c, _, hk, hget⟩
  · rw [hget] at hy
    exact h k y hy
  · rw [hget] at hy
    rw [id_of_written? hy, hk]

theorem IsKeyed.commit (h : t.IsKeyed) : (t.commit now staged).2.IsKeyed := by
  rcases commit_cases t now staged with ⟨c, _, _, heq⟩ | ⟨_, heq⟩
  · rw [heq]; exact h
  · rw [heq]; exact h.applyAll

theorem IsKeyed.mem_values (h : t.IsKeyed) {y : Item} :
    y ∈ t.values ↔ t.get? y.id = some y := by
  constructor
  · intro hy
    obtain ⟨⟨k, z⟩, hm, hz⟩ := List.mem_map.1 hy
    simp only at hz
    subst hz
    have hk : t.get? k = some z := (Assoc.get?_eq_some_iff t).2 hm
    rw [h k z hk]
    exact hk
  · intro hy
    exact List.mem_map.2 ⟨(y.id, y), (Assoc.get?_eq_some_iff t).1 hy, rfl⟩

theorem IsKeyed.mem_page (h : t.IsKeyed) {window : Window} {y : Item}
    (hy : y ∈ (t.page window).items) : t.get? y.id = some y := by
  have hl : y ∈ t.listed := List.mem_of_mem_drop (List.mem_of_mem_take hy)
  rw [listed, List.mem_mergeSort] at hl
  exact h.mem_values.1 hl

/-! ## Versions that are past -/

/-- A version of an item is past when whatever is stored under its identifier is of a later one. -/
def IsPast (t : Table) (id : Identifier) (version : Int) : Prop :=
  ∀ y, t.get? id = some y → version < y.version

/-- What a commit of accepted changes leaves under a taken identifier that it changed is of the
next version, if it is there at all. -/
theorem version_of_written? {c : Change} {x y : Item} (ha : t.accepts c = true)
    (hx : t.get? c.id = some x) (hy : written? now c = some y) : y.version = x.version + 1 := by
  obtain ⟨z, hz⟩ := exists_item?_of_accepts ha hx
  obtain ⟨w, hw, hv⟩ := (accepts_of_item? hz).1 ha
  rw [← Change.id_eq_of_item? hz, hx, Option.some.injEq] at hw
  cases c with
  | insert id name => simp [Change.item?] at hz
  | update item =>
    simp only [Change.item?, Option.some.injEq] at hz
    simp only [written?, Option.some.injEq] at hy
    rw [← hy, hw, hv, hz]
    rfl
  | delete item => simp [written?] at hy

/-- The item that a commit was to update or to delete is past afterwards, whatever the order and
the repetition of its changes. -/
theorem isPast_commit_of_written (h : (t.commit now staged).1.isOk = true) {c : Change} {x : Item}
    (hc : c ∈ staged) (hx : c.item? = some x) :
    (t.commit now staged).2.IsPast x.id x.version := by
  rcases commit_cases t now staged with ⟨d, _, _, heq⟩ | ⟨hall, heq⟩
  · rw [heq] at h
    cases h
  · obtain ⟨z, hz, hv⟩ := (accepts_of_item? hx).1 (hall c hc)
    rw [heq]
    intro y hy
    rcases get?_applyAll t now staged x.id with ⟨hne, _⟩ | ⟨d, hd, hk, hget⟩
    · exact absurd (Change.id_eq_of_item? hx) (hne c hc)
    · rw [hget] at hy
      have := version_of_written? (hall d hd) (by rw [hk]; exact hz) hy
      omega

/-- A version that is past stays past, as long as its identifier is not inserted anew. -/
theorem IsPast.commit {k : Identifier} {version : Int} (h : t.IsPast k version)
    (hk : ∀ name, .insert k name ∉ staged) : (t.commit now staged).2.IsPast k version := by
  rcases commit_cases t now staged with ⟨d, _, _, heq⟩ | ⟨hall, heq⟩
  · rw [heq]; exact h
  · rw [heq]
    intro y hy
    rcases get?_applyAll t now staged k with ⟨_, hget⟩ | ⟨c, hc, hid, hget⟩
    · rw [hget] at hy
      exact h y hy
    · cases hz : t.get? k with
      | none =>
        have hnone := get?_commit_of_none now hz hk
        rw [heq] at hnone
        rw [hnone] at hy
        cases hy
      | some z =>
        rw [hget] at hy
        have hlt := h z hz
        have := version_of_written? (hall c hc) (by rw [hid]; exact hz) hy
        omega

/-- An item is stored after a commit as it was before, or its version is past. -/
theorem get?_commit_of_get? (now : Instant) (staged : List Change) {k : Identifier} {x : Item}
    (h : t.get? k = some x) :
    (t.commit now staged).2.get? k = some x ∨ (t.commit now staged).2.IsPast k x.version := by
  rcases commit_cases t now staged with ⟨d, _, _, heq⟩ | ⟨hall, heq⟩
  · rw [heq]; exact Or.inl h
  · rw [heq]
    rcases get?_applyAll t now staged k with ⟨_, hget⟩ | ⟨c, hc, hid, hget⟩
    · rw [hget]; exact Or.inl h
    · refine Or.inr ?_
      intro y hy
      rw [hget] at hy
      have := version_of_written? (hall c hc) (by rw [hid]; exact h) hy
      omega

end Table
end Storage
end ItemCatalog
