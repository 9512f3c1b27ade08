import ItemCatalog.Proofs.Identifier
import ItemCatalog.Proofs.Storage.Commit
import Mathlib.Data.List.Perm.Basic

/-!
# The listing of a table

The items of a table in the order in which they are listed. Main statements: the order is strict and
total on items with different identifiers, there is one ascending list of given items only
(`eq_of_ascending`), and a listing contains exactly the stored items (`mem_listed`) and is strictly
ascending (`pairwise_listed`), whatever the order of the entries.

## Main definitions

* `Instant.Before`, `Item.Before`: the strict orders of instants and of items.
-/

namespace ItemCatalog

/-! ## The order -/

/-- Whether an instant is strictly before another: by the seconds, then by the nanoseconds. -/
def Instant.Before (a b : Instant) : Prop :=
  a.seconds.toInt < b.seconds.toInt ∨
    a.seconds.toInt = b.seconds.toInt ∧ a.nanos.val < b.nanos.val

/-- Whether an item is listed strictly before another: by creation time, then by identifier. -/
def Item.Before (a b : Item) : Prop :=
  a.createdAt.Before b.createdAt ∨
    a.createdAt = b.createdAt ∧ a.id.bits.toNat < b.id.bits.toNat

theorem Instant.before_iff {a b : Instant} : a.Before b ↔ a.le b = true ∧ a ≠ b := by
  constructor
  · intro h
    refine ⟨?_, ?_⟩
    · simp only [le, Bool.or_eq_true, Bool.and_eq_true, decide_eq_true_eq, beq_iff_eq, Fin.le_def]
      rcases h with h | ⟨hs, hn⟩ <;> omega
    · rintro rfl
      rcases h with h | ⟨_, h⟩ <;> omega
  · rintro ⟨hle, hne⟩
    refine Classical.byContradiction fun h => hne (le_antisymm hle ?_)
    simp only [le, Bool.or_eq_true, Bool.and_eq_true, decide_eq_true_eq, beq_iff_eq, Fin.le_def]
      at hle ⊢
    rw [Before] at h
    omega

theorem Instant.Before.asymm {a b : Instant} (h : a.Before b) : ¬b.Before a := by
  rintro (h' | ⟨_, h'⟩) <;> rcases h with h | ⟨_, h⟩ <;> omega

theorem Item.Before.asymm {a b : Item} (h : a.Before b) : ¬b.Before a := by
  rcases h with h | ⟨hcreated, h⟩
  · rintro (h' | ⟨hcreated', _⟩)
    · exact h.asymm h'
    · rw [hcreated'] at h
      exact h.asymm h
  · rintro (h' | ⟨_, h'⟩)
    · rw [hcreated] at h'
      exact h'.asymm h'
    · omega

theorem Item.Before.irrefl (a : Item) : ¬a.Before a := fun h => h.asymm h

/-- Items are listed by the strict order, as long as their identifiers differ. -/
theorem Item.before_of_listedBefore {a b : Item} (h : a.listedBefore b = true) (hid : a.id ≠ b.id) :
    a.Before b := by
  rw [listedBefore] at h
  split at h
  · next hcreated =>
    refine Or.inr ⟨hcreated, Nat.lt_of_le_of_ne (of_decide_eq_true h) ?_⟩
    intro heq
    exact hid (congrArg Identifier.mk (BitVec.eq_of_toNat_eq heq))
  · next hcreated => exact Or.inl (Instant.before_iff.2 ⟨h, hcreated⟩)

theorem Item.listedBefore_total (a b : Item) : (a.listedBefore b || b.listedBefore a) = true := by
  rw [Bool.or_eq_true]
  by_cases hcreated : a.createdAt = b.createdAt
  · rw [listedBefore, if_pos hcreated, listedBefore, if_pos hcreated.symm]
    simp only [Identifier.le, decide_eq_true_eq]
    omega
  · rw [listedBefore, if_neg hcreated, listedBefore, if_neg (Ne.symm hcreated)]
    exact Instant.le_total a.createdAt b.createdAt

theorem Item.listedBefore_trans {a b c : Item} (hab : a.listedBefore b = true)
    (hbc : b.listedBefore c = true) : a.listedBefore c = true := by
  rw [listedBefore] at *
  by_cases h : a.createdAt = b.createdAt <;> by_cases h' : b.createdAt = c.createdAt
  · rw [if_pos h] at hab
    rw [if_pos h'] at hbc
    rw [if_pos (h.trans h')]
    simp only [Identifier.le, decide_eq_true_eq] at hab hbc ⊢
    omega
  · rw [if_neg h'] at hbc
    rw [if_neg (h ▸ h'), h]
    exact hbc
  · rw [if_neg h] at hab
    rw [if_neg (h' ▸ h), ← h']
    exact hab
  · rw [if_neg h] at hab
    rw [if_neg h'] at hbc
    have hne : a.createdAt ≠ c.createdAt := by
      intro heq
      rw [heq] at hab
      exact h' (Instant.le_antisymm hbc hab)
    rw [if_neg hne]
    exact Instant.le_trans hab hbc

/-- There is one ascending list of given items only. -/
theorem Item.eq_of_ascending {l l' : List Item} (h : l.Pairwise Before) (h' : l'.Pairwise Before)
    (hmem : ∀ x, x ∈ l ↔ x ∈ l') : l = l' := by
  have hnodup {m : List Item} (hm : m.Pairwise Before) : m.Nodup := by
    refine hm.imp ?_
    rintro a _ hab rfl
    exact Before.irrefl a hab
  have hperm : l.Perm l' := (List.perm_ext_iff_of_nodup (hnodup h) (hnodup h')).2 hmem
  refine hperm.eq_of_pairwise ?_ h h'
  intro a b _ _ hab hba
  exact absurd hba hab.asymm

/-! ## The listing -/

namespace Storage.Table
variable {t : Table}

theorem perm_listed (t : Table) : t.listed.Perm t.values := List.mergeSort_perm _ _

theorem length_listed (t : Table) : t.listed.length = t.size := by
  rw [(perm_listed t).length_eq, Assoc.values, List.length_map, Assoc.size]

/-- A listing contains exactly the stored items. -/
theorem mem_listed (hk : t.IsKeyed) {y : Item} : y ∈ t.listed ↔ t.get? y.id = some y := by
  rw [(perm_listed t).mem_iff, hk.mem_values]

/-- No two items of a listing have the same identifier. -/
theorem nodup_map_id_listed (hk : t.IsKeyed) : (t.listed.map Item.id).Nodup := by
  have hkeys : t.values.map Item.id = t.keys := by
    rw [Assoc.values, Assoc.keys, List.map_map]
    apply List.map_congr_left
    rintro ⟨k, y⟩ hmem
    exact hk k y ((Assoc.get?_eq_some_iff t).2 hmem)
  rw [((perm_listed t).map Item.id).nodup_iff, hkeys]
  exact t.nodup

/-- A listing is strictly ascending, whatever the order of the entries. -/
theorem pairwise_listed (hk : t.IsKeyed) : t.listed.Pairwise Item.Before := by
  have hsorted : t.listed.Pairwise fun a b => a.listedBefore b = true :=
    @List.pairwise_mergeSort _ Item.listedBefore (fun _ _ _ => Item.listedBefore_trans)
      Item.listedBefore_total t.values
  have hids : t.listed.Pairwise fun a b => a.id ≠ b.id :=
    List.pairwise_map.1 (nodup_map_id_listed hk)
  exact (hsorted.and hids).imp fun h => Item.before_of_listedBefore h.1 h.2

end Storage.Table
end ItemCatalog
