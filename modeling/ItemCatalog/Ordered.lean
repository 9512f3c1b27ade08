/-!
# Maps and sets in ascending order

Finite maps from texts, and sets of texts, kept in ascending order of code points. Main statements:
what a map holds under a key after `alter`, and that two maps which hold the same under every key
are equal.
-/

namespace ItemCatalog

/-- A finite map from texts whose entries ascend strictly by key. -/
structure Ordered (ν : Type) where
  entries : List (String × ν)
  ascending : entries.Pairwise fun a b => a.1 < b.1

namespace Ordered
variable {ν : Type}

instance [DecidableEq ν] : DecidableEq (Ordered ν) := fun a b =>
  decidable_of_iff (a.entries = b.entries) <| by cases a; cases b; simp

/-- The map without entries. -/
def empty : Ordered ν := ⟨[], .nil⟩

instance : Inhabited (Ordered ν) := ⟨empty⟩

/-- The keys in ascending order. -/
def keys (m : Ordered ν) : List String := m.entries.map (·.1)

/-- How many keys a map has. -/
def size (m : Ordered ν) : Nat := m.entries.length

/-- Whether a map has no entry. -/
def isEmpty (m : Ordered ν) : Bool := m.entries.isEmpty

/-- What a map holds under a key. -/
def get? (m : Ordered ν) (key : String) : Option ν := m.entries.lookup key

/-- Changes what stands under a key in ascending entries. -/
def alterEntries (key : String) (f : Option ν → ν) : List (String × ν) → List (String × ν)
  | [] => [(key, f none)]
  | (k, v) :: rest =>
    if key = k then (k, f (some v)) :: rest
    else if key < k then (key, f none) :: (k, v) :: rest
    else (k, v) :: alterEntries key f rest

theorem mem_alterEntries {key : String} {f : Option ν → ν} {l : List (String × ν)}
    {e : String × ν} (h : e ∈ alterEntries key f l) : e.1 = key ∨ ∃ v, (e.1, v) ∈ l := by
  induction l with
  | nil => simp [alterEntries] at h; exact .inl (by rw [h])
  | cons x rest ih =>
    obtain ⟨k, v⟩ := x
    simp only [alterEntries] at h
    split at h
    · rcases List.mem_cons.1 h with rfl | h
      · exact .inr ⟨v, by simp⟩
      · exact .inr ⟨e.2, List.mem_cons_of_mem _ h⟩
    · split at h
      · rcases List.mem_cons.1 h with rfl | h
        · exact .inl rfl
        · exact .inr ⟨e.2, h⟩
      · rcases List.mem_cons.1 h with rfl | h
        · exact .inr ⟨v, by simp⟩
        · exact (ih h).imp id fun ⟨w, hw⟩ => ⟨w, List.mem_cons_of_mem _ hw⟩

theorem lt_of_not_lt {s t : String} (hne : s ≠ t) (h : ¬s < t) : t < s :=
  Classical.byContradiction fun k =>
    hne (String.le_antisymm (String.not_lt.1 k) (String.not_lt.1 h))

theorem ascending_alterEntries (key : String) (f : Option ν → ν) {l : List (String × ν)}
    (h : l.Pairwise fun a b => a.1 < b.1) :
    (alterEntries key f l).Pairwise fun a b => a.1 < b.1 := by
  induction l with
  | nil => simp [alterEntries]
  | cons x rest ih =>
    obtain ⟨k, v⟩ := x
    obtain ⟨hk, hr⟩ := List.pairwise_cons.1 h
    simp only [alterEntries]
    split
    · exact List.pairwise_cons.2 ⟨hk, hr⟩
    · next hne =>
      split
      · next hlt =>
        refine List.pairwise_cons.2 ⟨fun e he => ?_, h⟩
        rcases List.mem_cons.1 he with rfl | he
        · exact hlt
        · exact String.lt_trans hlt (hk e he)
      · next hnlt =>
        refine List.pairwise_cons.2 ⟨fun e he => ?_, ih hr⟩
        rcases mem_alterEntries he with h' | ⟨w, hw⟩
        · rw [h']; exact lt_of_not_lt hne hnlt
        · exact hk (e.1, w) hw

/-- The map in which a key holds what `f` makes of what it held. -/
def alter (m : Ordered ν) (key : String) (f : Option ν → ν) : Ordered ν :=
  ⟨alterEntries key f m.entries, ascending_alterEntries key f m.ascending⟩

@[simp] theorem get?_empty (key : String) : (empty : Ordered ν).get? key = none := rfl

theorem lookup_entry (k : String) (v : ν) (l : List (String × ν)) (i : String) :
    ((k, v) :: l).lookup i = if i = k then some v else l.lookup i := by
  by_cases h : i = k
  · simp [h]
  · rw [List.lookup_cons, beq_false_of_ne h, if_neg h]

theorem lookup_eq_none_of_lt {key : String} {l : List (String × ν)} (h : ∀ e ∈ l, key < e.1) :
    l.lookup key = none := by
  induction l with
  | nil => rfl
  | cons x rest ih =>
    have hx : key ≠ x.1 := fun e => String.lt_irrefl _ (e ▸ h x (by simp) : key < key)
    rw [show x = (x.1, x.2) from rfl, lookup_entry, if_neg hx]
    exact ih fun e he => h e (List.mem_cons_of_mem _ he)

theorem lookup_eq_none_of_lt_head {key k : String} {v : ν} {l : List (String × ν)}
    (hlt : key < k) (h : ∀ e ∈ l, k < e.1) : ((k, v) :: l).lookup key = none := by
  apply lookup_eq_none_of_lt
  intro e he
  rcases List.mem_cons.1 he with rfl | he
  · exact hlt
  · exact String.lt_trans hlt (h e he)

theorem lookup_alterEntries (key : String) (f : Option ν → ν) {l : List (String × ν)}
    (h : l.Pairwise fun a b => a.1 < b.1) (k : String) :
    (alterEntries key f l).lookup k =
      if k = key then some (f (l.lookup key)) else l.lookup k := by
  induction l with
  | nil => simp [alterEntries, lookup_entry]
  | cons x rest ih =>
    obtain ⟨j, v⟩ := x
    obtain ⟨hj, hr⟩ := List.pairwise_cons.1 h
    simp only [alterEntries]
    split
    · next he => subst he; by_cases hk : k = key <;> simp [lookup_entry, hk]
    · next hne =>
      split
      · next hlt =>
        rw [lookup_eq_none_of_lt_head hlt hj, lookup_entry]
      · rw [lookup_entry, ih hr, lookup_entry, lookup_entry, if_neg hne]
        by_cases hk : k = key
        · simp [hk, hne]
        · simp [hk]

theorem get?_alter (m : Ordered ν) (key : String) (f : Option ν → ν) (k : String) :
    (m.alter key f).get? k = if k = key then some (f (m.get? key)) else m.get? k :=
  lookup_alterEntries key f m.ascending k

/-- An entry is what a map holds under its key. -/
theorem mem_entries_iff {m : Ordered ν} {key : String} {v : ν} :
    (key, v) ∈ m.entries ↔ m.get? key = some v := by
  rw [get?, List.lookup_eq_some_iff]
  constructor
  · intro h
    obtain ⟨before, after, hsplit⟩ := List.append_of_mem h
    refine ⟨before, after, hsplit, fun e he => ?_⟩
    have hlt : e.1 < key :=
      (List.pairwise_append.1 (hsplit ▸ m.ascending)).2.2 e he (key, v) List.mem_cons_self
    exact bne_iff_ne.2 fun heq => String.lt_irrefl key (heq ▸ hlt)
  · rintro ⟨before, after, hsplit, _⟩
    rw [hsplit]
    exact List.mem_append_right before List.mem_cons_self

/-! ## Equality -/

theorem entries_eq_of_lookup {l r : List (String × ν)}
    (hl : l.Pairwise fun a b => a.1 < b.1) (hr : r.Pairwise fun a b => a.1 < b.1)
    (h : ∀ k, l.lookup k = r.lookup k) : l = r := by
  induction l generalizing r with
  | nil =>
    cases r with
    | nil => rfl
    | cons y r =>
      obtain ⟨j, w⟩ := y
      have := h j
      simp at this
  | cons x l ih =>
    obtain ⟨k, v⟩ := x
    cases r with
    | nil => have := h k; simp at this
    | cons y r =>
      obtain ⟨j, w⟩ := y
      obtain ⟨hk, hl'⟩ := List.pairwise_cons.1 hl
      obtain ⟨hj, hr'⟩ := List.pairwise_cons.1 hr
      have hkj : k = j := by
        refine Classical.byContradiction fun hne => ?_
        by_cases hlt : k < j
        · have := h k
          rw [lookup_eq_none_of_lt_head hlt hj] at this
          simp at this
        · have := h j
          rw [lookup_eq_none_of_lt_head (lt_of_not_lt hne hlt) hk] at this
          simp at this
      subst hkj
      have hvw : v = w := by have := h k; simpa [lookup_entry] using this
      subst hvw
      congr 1
      refine ih hl' hr' fun i => ?_
      by_cases hi : i = k
      · subst hi
        rw [lookup_eq_none_of_lt hk, lookup_eq_none_of_lt hj]
      · have := h i
        simpa [lookup_entry, hi] using this

/-- Maps that hold the same under every key are equal. -/
theorem ext_get? {m n : Ordered ν} (h : ∀ k, m.get? k = n.get? k) : m = n := by
  obtain ⟨l, hl⟩ := m
  obtain ⟨r, hr⟩ := n
  have : l = r := entries_eq_of_lookup hl hr h
  subst this
  rfl

end Ordered

/-- A finite set of texts, in ascending order. -/
abbrev TextSet := Ordered Unit

namespace TextSet

/-- The set with one more member. -/
def insert (set : TextSet) (s : String) : TextSet := set.alter s fun _ => ()

/-- The set of the members of a list. -/
def ofList (l : List String) : TextSet := l.foldl insert Ordered.empty

/-- Whether a text is in a set. -/
def contains (set : TextSet) (s : String) : Bool := (set.get? s).isSome

@[simp] theorem contains_empty (s : String) : contains Ordered.empty s = false := rfl

@[simp] theorem contains_insert (set : TextSet) (s t : String) :
    (set.insert s).contains t = (decide (t = s) || set.contains t) := by
  by_cases h : t = s <;> simp [insert, contains, Ordered.get?_alter, h]

theorem contains_foldl (l : List String) (set : TextSet) (s : String) :
    (l.foldl insert set).contains s = true ↔ s ∈ l ∨ set.contains s = true := by
  induction l generalizing set with
  | nil => simp
  | cons t l ih =>
    rw [List.foldl_cons, ih, contains_insert, List.mem_cons, Bool.or_eq_true, decide_eq_true_eq,
      or_left_comm, or_assoc]

theorem contains_ofList (l : List String) (s : String) :
    (ofList l).contains s = true ↔ s ∈ l := by
  rw [ofList, contains_foldl, contains_empty]
  simp

/-- Sets with the same members are equal. -/
theorem ext_contains {a b : TextSet} (h : ∀ s, a.contains s = true ↔ b.contains s = true) :
    a = b := by
  refine Ordered.ext_get? fun s => ?_
  have hs := h s
  simp only [contains] at hs
  cases ha : a.get? s <;> cases hb : b.get? s <;> simp_all

end TextSet
end ItemCatalog
