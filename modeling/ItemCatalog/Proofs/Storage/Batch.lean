import ItemCatalog.Proofs.Storage.Commit
import ItemCatalog.Sql.Statement
import ItemCatalog.Storage.Workspace
import Mathlib.Data.List.Nodup

/-!
# Batches of changes

A unit of work commits changes of different items. Main statement: `commit_effect`, by which the
commit answers for the first change that is stale or carries out every one of them, in whatever
order they were staged, and leaves nothing staged.

## Main definitions

* `Change.IsCurrent`: a change is of a table as it stands.
* `Table.Carried`: a table is another one with changes of different items carried out.
-/

namespace ItemCatalog.Storage

/-- Whether a change is of a table as it stands: an insertion under an identifier that is free, an
update or a deletion of an item that is stored at the version it was read at. -/
def Change.IsCurrent (t : Table) : Change → Prop
  | .insert id _ => t.get? id = none
  | .update item => ∃ y, t.get? item.id = some y ∧ y.version = item.version
  | .delete item => ∃ y, t.get? item.id = some y ∧ y.version = item.version

theorem Change.isCurrent_iff {t : Table} {c : Change} :
    c.IsCurrent t ↔ t.accepts c = true := by
  cases c with
  | insert id name => exact Table.accepts_insert.symm
  | update item => exact (Table.accepts_of_item? rfl).symm
  | delete item => exact (Table.accepts_of_item? rfl).symm

namespace Table
variable {t u u' : Table} {now : Instant} {staged staged' : List Change}

/-! ## Changes of different items -/

/-- Whether a table is another one in which changes of different items have been carried out at a
given time, and in which every other item is as it was. -/
structure Carried (t : Table) (now : Instant) (staged : List Change) (u : Table) : Prop where
  inserted : ∀ id name, .insert id name ∈ staged →
    u.get? id = some ⟨id, name, now, none, 1⟩
  updated : ∀ item, .update item ∈ staged →
    u.get? item.id = some { item with
      updatedAt := some (now.latest item.createdAt)
      version := item.version + 1 }
  deleted : ∀ item, .delete item ∈ staged → u.get? item.id = none
  untouched : ∀ k, k ∉ staged.map Change.id → u.get? k = t.get? k

theorem Carried.get?_of_mem (h : t.Carried now staged u) {c : Change} (hc : c ∈ staged) :
    u.get? c.id = written? now c := by
  cases c with
  | insert id name => exact h.inserted id name hc
  | update item => exact h.updated item hc
  | delete item => exact h.deleted item hc

/-- The order of the changes does not matter. -/
theorem Carried.perm (h : t.Carried now staged u) (hp : staged.Perm staged') :
    t.Carried now staged' u where
  inserted id name hc := h.inserted id name (hp.mem_iff.2 hc)
  updated item hc := h.updated item (hp.mem_iff.2 hc)
  deleted item hc := h.deleted item (hp.mem_iff.2 hc)
  untouched k hk := h.untouched k fun hmem => hk ((hp.map Change.id).mem_iff.1 hmem)

/-- Changes that have been carried out leave one content only. -/
theorem Carried.unique (h : t.Carried now staged u) (h' : t.Carried now staged u')
    (k : Identifier) : u.get? k = u'.get? k := by
  by_cases hk : k ∈ staged.map Change.id
  · obtain ⟨c, hc, rfl⟩ := List.mem_map.1 hk
    rw [h.get?_of_mem hc, h'.get?_of_mem hc]
  · rw [h.untouched k hk, h'.untouched k hk]

theorem get?_applyAll_of_mem (hnodup : (staged.map Change.id).Nodup) {c : Change}
    (hc : c ∈ staged) : (t.applyAll now staged).get? c.id = written? now c := by
  rcases get?_applyAll t now staged c.id with ⟨hne, _⟩ | ⟨d, hd, hid, hget⟩
  · exact absurd rfl (hne c hc)
  · rw [hget, List.inj_on_of_nodup_map hnodup hd hc hid]

theorem get?_applyAll_of_notMem {k : Identifier} (hk : k ∉ staged.map Change.id) :
    (t.applyAll now staged).get? k = t.get? k := by
  rcases get?_applyAll t now staged k with ⟨_, hget⟩ | ⟨d, hd, hid, _⟩
  · exact hget
  · exact absurd (List.mem_map.2 ⟨d, hd, hid⟩) hk

/-- Changes of different items are carried out by applying them one after another. -/
theorem carried_applyAll (hnodup : (staged.map Change.id).Nodup) :
    t.Carried now staged (t.applyAll now staged) where
  inserted _ _ hc := get?_applyAll_of_mem hnodup hc
  updated _ hc := get?_applyAll_of_mem hnodup hc
  deleted _ hc := get?_applyAll_of_mem hnodup hc
  untouched _ hk := get?_applyAll_of_notMem hk

/-! ## Their commit -/

/-- A commit fails for the first change that is not of the table as it stands. -/
theorem commit_eq_of_not_isCurrent {before later : List Change} {c : Change}
    (hbefore : ∀ d ∈ before, d.IsCurrent t) (hc : ¬c.IsCurrent t) :
    t.commit now (before ++ c :: later) = (.error (.conflict c.id), t) := by
  refine commit_eq_of_find? ?_
  rw [List.find?_append, List.find?_eq_none.2, Option.none_or, List.find?_cons_of_pos]
  · rw [Change.isCurrent_iff, Bool.not_eq_true] at hc
    rw [hc]
    rfl
  · intro d hd
    rw [Change.isCurrent_iff.1 (hbefore d hd)]
    decide

/-- A commit of changes that are all of the table as it stands applies them. -/
theorem commit_eq_of_isCurrent (h : ∀ c ∈ staged, c.IsCurrent t) :
    t.commit now staged = (.ok (staged.filterMap (written? now)), t.applyAll now staged) :=
  commit_eq_of_all fun c hc => Change.isCurrent_iff.1 (h c hc)

/-- Changes of different items come to the same in any order. -/
theorem get?_commit_perm (hnodup : (staged.map Change.id).Nodup) (hp : staged.Perm staged')
    (k : Identifier) : (t.commit now staged').2.get? k = (t.commit now staged).2.get? k := by
  by_cases hall : ∀ c ∈ staged, c.IsCurrent t
  · have hall' : ∀ c ∈ staged', c.IsCurrent t := fun c hc => hall c (hp.mem_iff.2 hc)
    have hnodup' : (staged'.map Change.id).Nodup := (hp.map Change.id).nodup_iff.1 hnodup
    rw [commit_eq_of_isCurrent hall, commit_eq_of_isCurrent hall']
    exact (carried_applyAll hnodup').unique ((carried_applyAll hnodup).perm hp) k
  · -- A change that is stale in one order is stale in the other, and either commit fails.
    have hkept : ∀ l : List Change, l.Perm staged → (t.commit now l).2 = t := by
      intro l hl
      rcases commit_cases t now l with ⟨c, _, _, heq⟩ | ⟨hacc, _⟩
      · rw [heq]
      · refine absurd (fun c hc => ?_) hall
        exact Change.isCurrent_iff.2 (hacc c (hl.mem_iff.2 hc))
    rw [hkept staged' hp.symm, hkept staged (List.Perm.refl staged)]

end Table

/-! ## Units of work -/

namespace Workspace
variable {κ : Type} [DecidableEq κ]

/-- A commit by a unit of work is one of the table. -/
theorem serve_commit (w : Workspace κ Table) (now : Instant) (fresh : Identifier) (unit : κ) :
    (w.serve Table.backend now fresh unit .commit).1 = (w.store.commit now (w.staged unit)).1 ∧
      (w.serve Table.backend now fresh unit .commit).2.store =
        (w.store.commit now (w.staged unit)).2 :=
  ⟨rfl, rfl⟩

theorem staged_serve_commit (w : Workspace κ Table) (now : Instant) (fresh : Identifier)
    (unit : κ) : (w.serve Table.backend now fresh unit .commit).2.staged unit = [] := by
  rw [staged_serve, if_pos rfl]
  rfl

/-- A unit of work has staged changes of different items, and commits them. If some of them are not
of the table as it stands, the answer is a conflict for the first of these, and the table stays as
it was. Otherwise exactly these changes are carried out, and the answer lists what is stored for
the inserted and updated items, in the order in which they were staged. Staged in any other order,
the changes leave the same table. In every case nothing is left staged, so that a second commit
writes nothing. -/
theorem commit_effect (w : Workspace κ Table) (unit : κ) (now : Instant) (fresh : Identifier)
    (hnodup : ((w.staged unit).map Change.id).Nodup) :
    let answer : Except Error (List Item) := (w.serve Table.backend now fresh unit .commit).1
    let after := (w.serve Table.backend now fresh unit .commit).2
    (∀ before c later, w.staged unit = before ++ c :: later →
      (∀ d ∈ before, d.IsCurrent w.store) → ¬c.IsCurrent w.store →
        answer = .error (.conflict c.id) ∧ after.store = w.store) ∧
    ((∀ c ∈ w.staged unit, c.IsCurrent w.store) →
      answer = .ok ((w.staged unit).filterMap fun c => after.store.get? c.id) ∧
        w.store.Carried now (w.staged unit) after.store) ∧
    (∀ (w' : Workspace κ Table) (unit' : κ), w'.store = w.store →
      (w.staged unit).Perm (w'.staged unit') → ∀ (fresh' k : Identifier),
        (w'.serve Table.backend now fresh' unit' .commit).2.store.get? k =
          after.store.get? k) ∧
    after.staged unit = [] ∧
    ∀ (now' : Instant) (fresh' : Identifier),
      let again : Except Error (List Item) :=
        (after.serve Table.backend now' fresh' unit .commit).1
      again = .ok [] ∧
        (after.serve Table.backend now' fresh' unit .commit).2.store = after.store := by
  intro answer after
  obtain ⟨hanswer, hstore⟩ := w.serve_commit now fresh unit
  change answer = _ at hanswer
  change after.store = _ at hstore
  have hstaged : after.staged unit = [] := w.staged_serve_commit now fresh unit
  refine ⟨?stale, ?current, ?reordered, hstaged, ?again⟩
  case stale =>
    intro before c later hsplit hbefore hc
    rw [hanswer, hstore, hsplit, Table.commit_eq_of_not_isCurrent hbefore hc]
    exact ⟨rfl, rfl⟩
  case current =>
    intro hall
    rw [Table.commit_eq_of_isCurrent hall] at hanswer hstore
    have hcarried : w.store.Carried now (w.staged unit) after.store := by
      rw [hstore]
      exact Table.carried_applyAll hnodup
    refine ⟨?_, hcarried⟩
    rw [hanswer]
    refine congrArg Except.ok (List.filterMap_congr fun c hc => ?_)
    exact (hcarried.get?_of_mem hc).symm
  case reordered =>
    intro w' unit' hw' hp fresh' k
    rw [(w'.serve_commit now fresh' unit').2, hstore, hw']
    exact Table.get?_commit_perm hnodup hp k
  case again =>
    intro now' fresh' again
    obtain ⟨hanswer', hstore'⟩ := after.serve_commit now' fresh' unit
    rw [hstaged] at hanswer' hstore'
    exact ⟨hanswer', hstore'⟩

/-! ### A batch that is carried out and one that is not -/

/-- An item that was created when the clock was ahead. -/
private def apple : Item := .created ⟨1⟩ "apple" (.ofMicros 9)

/-- Another item. -/
private def pear : Item := .created ⟨2⟩ "pear" (.ofMicros 4)

/-- Two items, and two units of work that have staged changes of them. The second has read one of
the items at a version that it does not have, and takes an identifier that is not free. -/
def stall : Workspace Bool Table where
  store := (Assoc.empty.insert ⟨1⟩ apple).insert ⟨2⟩ pear
  units := (Assoc.empty.insert true
      [.insert ⟨3⟩ "fig", .update { apple with name := "quince" }, .delete pear]).insert false
    [.insert ⟨3⟩ "fig", .delete { pear with version := 7 }, .insert ⟨1⟩ "plum"]

/-- The first unit of work has its way, and the second is told of the item that it has misread. -/
theorem stall_commits :
    let after := (stall.serve Table.backend (.ofMicros 5) .nil true .commit).2.store
    let answer : Except Error (List Item) :=
      (stall.serve Table.backend (.ofMicros 5) .nil false .commit).1
    ((stall.staged true).map Change.id).Nodup ∧ ((stall.staged false).map Change.id).Nodup ∧
      after.get? ⟨1⟩ = some ⟨⟨1⟩, "quince", .ofMicros 9, some (.ofMicros 9), 2⟩ ∧
      after.get? ⟨2⟩ = none ∧
      after.get? ⟨3⟩ = some ⟨⟨3⟩, "fig", .ofMicros 5, none, 1⟩ ∧ answer = .error (.conflict ⟨2⟩) := by
  intro after answer
  have hnodup : ((stall.staged true).map Change.id).Nodup := by decide
  have hnodup' : ((stall.staged false).map Change.id).Nodup := by decide
  obtain ⟨_, hcurrent, _⟩ := stall.commit_effect true (.ofMicros 5) .nil hnodup
  obtain ⟨hstale, _⟩ := stall.commit_effect false (.ofMicros 5) .nil hnodup'
  have hall : ∀ c ∈ stall.staged true, c.IsCurrent stall.store := by
    intro c hc
    rw [Change.isCurrent_iff]
    revert c
    decide
  obtain ⟨_, hcarried⟩ := hcurrent hall
  have hfirst : ∀ d ∈ [Change.insert ⟨3⟩ "fig"], d.IsCurrent stall.store := by
    intro d hd
    rw [List.mem_singleton.1 hd, Change.isCurrent_iff]
    decide
  have hmisread : ¬(Change.delete { pear with version := 7 }).IsCurrent stall.store := by
    rw [Change.isCurrent_iff]
    decide
  obtain ⟨hconflict, _⟩ := hstale _ _ [.insert ⟨1⟩ "plum"] rfl hfirst hmisread
  exact ⟨hnodup, hnodup', hcarried.updated { apple with name := "quince" } (by decide),
    hcarried.deleted pear (by decide), hcarried.inserted ⟨3⟩ "fig" (by decide), hconflict⟩

end Workspace
end ItemCatalog.Storage
