/-!
# Association lists

Finite maps as lists of entries with distinct keys, in the order in which the keys first came.
Nothing is said about that order but that an update keeps it. Main statements: what a map holds
under a key after each operation.
-/

namespace ItemCatalog

/-- A finite map as a list of entries with distinct keys. -/
structure Assoc (κ ν : Type) where
  entries : List (κ × ν)
  nodup : (entries.map (·.1)).Nodup

namespace Assoc
variable {κ ν : Type} [DecidableEq κ]

/-- The map without entries. -/
def empty : Assoc κ ν := ⟨[], .nil⟩

instance : Inhabited (Assoc κ ν) := ⟨empty⟩

/-- The keys, each once. -/
def keys (m : Assoc κ ν) : List κ := m.entries.map (·.1)

/-- The values, in the order of their keys. -/
def values (m : Assoc κ ν) : List ν := m.entries.map (·.2)

/-- How many keys a map has. -/
def size (m : Assoc κ ν) : Nat := m.entries.length

/-- What entries hold under a key. -/
def find? (key : κ) : List (κ × ν) → Option ν
  | [] => none
  | (k, v) :: rest => if key = k then some v else find? key rest

/-- What a map holds under a key. -/
def get? (m : Assoc κ ν) (key : κ) : Option ν := find? key m.entries

/-- Changes what stands under a key, at the end if the key is new. -/
def alterEntries (key : κ) (f : Option ν → ν) : List (κ × ν) → List (κ × ν)
  | [] => [(key, f none)]
  | (k, v) :: rest => if key = k then (k, f (some v)) :: rest else (k, v) :: alterEntries key f rest

theorem mem_keys_alterEntries {key k : κ} {f : Option ν → ν} {l : List (κ × ν)} :
    k ∈ (alterEntries key f l).map (·.1) ↔ k = key ∨ k ∈ l.map (·.1) := by
  induction l with
  | nil => simp [alterEntries]
  | cons x rest ih =>
    obtain ⟨j, v⟩ := x
    simp only [alterEntries]
    split
    · next h => subst h; simp
    · simp only [List.map_cons, List.mem_cons, ih]
      exact or_left_comm

theorem nodup_alterEntries (key : κ) (f : Option ν → ν) {l : List (κ × ν)}
    (h : (l.map (·.1)).Nodup) : ((alterEntries key f l).map (·.1)).Nodup := by
  induction l with
  | nil => simp [alterEntries]
  | cons x rest ih =>
    obtain ⟨j, v⟩ := x
    simp only [List.map_cons, List.nodup_cons] at h
    simp only [alterEntries]
    split
    · simpa using h
    · next hne =>
      simp only [List.map_cons, List.nodup_cons, mem_keys_alterEntries]
      exact ⟨fun hk => hk.elim (fun e => hne e.symm) h.1, ih h.2⟩

/-- The map in which a key holds what `f` makes of what it held. -/
def alter (m : Assoc κ ν) (key : κ) (f : Option ν → ν) : Assoc κ ν :=
  ⟨alterEntries key f m.entries, nodup_alterEntries key f m.nodup⟩

/-- The map in which a key holds a value. -/
def insert (m : Assoc κ ν) (key : κ) (value : ν) : Assoc κ ν := m.alter key fun _ => value

/-- The map without a key. -/
def erase (m : Assoc κ ν) (key : κ) : Assoc κ ν where
  entries := m.entries.filter fun e => e.1 ≠ key
  nodup := m.nodup.sublist (List.Sublist.map _ List.filter_sublist)

@[simp] theorem get?_empty (key : κ) : (empty : Assoc κ ν).get? key = none := rfl

theorem find?_alterEntries (key : κ) (f : Option ν → ν) (l : List (κ × ν)) (k : κ) :
    find? k (alterEntries key f l) = if k = key then some (f (find? key l)) else find? k l := by
  induction l with
  | nil => simp [alterEntries, find?]
  | cons x rest ih =>
    obtain ⟨j, v⟩ := x
    simp only [alterEntries]
    split
    · next h => subst h; by_cases hk : k = key <;> simp [find?, hk]
    · next h =>
      simp only [find?, ih, if_neg h]
      by_cases hj : k = j
      · subst hj; simp [Ne.symm h]
      · simp [hj]

theorem get?_alter (m : Assoc κ ν) (key : κ) (f : Option ν → ν) (k : κ) :
    (m.alter key f).get? k = if k = key then some (f (m.get? key)) else m.get? k :=
  find?_alterEntries key f m.entries k

@[simp] theorem get?_insert (m : Assoc κ ν) (key : κ) (value : ν) (k : κ) :
    (m.insert key value).get? k = if k = key then some value else m.get? k :=
  get?_alter m key _ k

theorem find?_filter_ne (key : κ) (l : List (κ × ν)) (k : κ) :
    find? k (l.filter fun e => e.1 ≠ key) = if k = key then none else find? k l := by
  induction l with
  | nil => simp [find?]
  | cons x rest ih =>
    obtain ⟨j, v⟩ := x
    by_cases hj : j = key
    · subst hj
      by_cases hk : k = j
      · subst hk; simpa using ih
      · simpa [find?, hk] using ih
    · by_cases hk : k = j
      · subst hk; simp [find?, hj]
      · simpa [find?, hj, hk] using ih

@[simp] theorem get?_erase (m : Assoc κ ν) (key k : κ) :
    (m.erase key).get? k = if k = key then none else m.get? k :=
  find?_filter_ne key m.entries k

theorem find?_eq_some_iff {l : List (κ × ν)} (h : (l.map (·.1)).Nodup) {k : κ} {v : ν} :
    find? k l = some v ↔ (k, v) ∈ l := by
  induction l with
  | nil => simp [find?]
  | cons x rest ih =>
    obtain ⟨j, w⟩ := x
    simp only [List.map_cons, List.nodup_cons] at h
    simp only [find?, List.mem_cons, Prod.mk.injEq]
    split
    · next e =>
      subst e
      have hn : (k, v) ∉ rest := fun hm => h.1 (List.mem_map.2 ⟨_, hm, rfl⟩)
      simp [hn, eq_comm]
    · next e => simp [e, ih h.2]

/-- A map holds a value under a key just when the two are an entry of it. -/
theorem get?_eq_some_iff (m : Assoc κ ν) {k : κ} {v : ν} :
    m.get? k = some v ↔ (k, v) ∈ m.entries :=
  find?_eq_some_iff m.nodup

end Assoc
end ItemCatalog
