import ItemCatalog.Metadata
import ItemCatalog.Proofs.Text.Utf8
import Mathlib.Data.List.Induction

/-!
# What metadata hold

Main statements: the values of a name after one has been set (`values_set_self`,
`values_set_of_ne`), or many under different names (`entries_foldl_set`); exactly which texts can be
set (`all_isStorable`), those without control characters, tabs apart; and which of them are read
back (`text?_foldl_set`).

## Main definitions

* `Metadata.isAllowed`: a character may stand in a stored value.
-/

namespace ItemCatalog.Metadata
variable {name other value : String}

/-! ## Values of names -/

/-- A text becomes the only value of its name if it can be stored. -/
theorem values_set_self (m : Metadata) (name value : String) :
    (m.set name value).values name =
      if (Text.bytes value).all isStorable then [Text.bytes value] else m.values name := by
  have hnone : (m.entries.filter fun e => e.1 == name && e.1 != name) = [] :=
    List.filter_eq_nil_iff.2 fun e _ => by simp
  rw [set]
  split
  · simp [values, List.filter_append, List.filter_filter, hnone]
  · rfl

/-- Setting one name leaves the values of another as they are. -/
theorem values_set_of_ne (m : Metadata) (h : other ≠ name) :
    (m.set name value).values other = m.values other := by
  rw [set]
  split
  · have hkept : (m.entries.filter fun e => e.1 == other && e.1 != name) =
        m.entries.filter fun e => e.1 == other := by
      refine List.filter_congr fun e _ => ?_
      by_cases he : e.1 = other
      · simp [he, h]
      · simp [he]
    simp [values, List.filter_append, List.filter_filter, hkept, Ne.symm h]
  · rfl

/-- A text that can be stored is the first value of the name that it is set for. -/
theorem get?_set_self (m : Metadata) (h : (Text.bytes value).all isStorable = true) :
    (m.set name value).get? name = some (Text.bytes value) := by
  rw [get?, values_set_self, if_pos h, List.head?_cons]

theorem get?_set_of_ne (m : Metadata) (h : other ≠ name) :
    (m.set name value).get? other = m.get? other := by
  rw [get?, values_set_of_ne m h, get?]

theorem values_foldl_set_of_ne (m : Metadata) {l : List (String × String)}
    (h : ∀ e ∈ l, other ≠ e.1) :
    (l.foldl (fun m e => m.set e.1 e.2) m).values other = m.values other := by
  induction l generalizing m with
  | nil => rfl
  | cons e rest ih =>
    have hrest := ih (m.set e.1 e.2) fun e' he' => h e' (List.mem_cons_of_mem e he')
    rw [List.foldl_cons, hrest, values_set_of_ne m (h e List.mem_cons_self)]

theorem get?_foldl_set_of_ne (m : Metadata) {l : List (String × String)}
    (h : ∀ e ∈ l, other ≠ e.1) :
    (l.foldl (fun m e => m.set e.1 e.2) m).get? other = m.get? other := by
  rw [get?, values_foldl_set_of_ne m h, get?]

/-- Texts that are set for different names, those left out that cannot be stored. -/
theorem entries_foldl_set {l : List (String × String)} (hnames : (l.map (·.1)).Nodup) :
    (l.foldl (fun m e => m.set e.1 e.2) empty).entries =
      (l.filter fun e => (Text.bytes e.2).all isStorable).map fun e => (e.1, Text.bytes e.2) := by
  induction l using List.reverseRecOn with
  | nil => rfl
  | append_singleton l e ih =>
    simp only [List.map_append, List.map_cons, List.map_nil, List.nodup_append, List.mem_map,
      List.mem_singleton] at hnames
    have hold := ih hnames.1
    have hnew : ∀ entry ∈ (l.foldl (fun m e => m.set e.1 e.2) empty).entries,
        (entry.1 != e.1) = true := by
      rw [hold]
      simp only [List.mem_map, List.mem_filter, bne_iff_ne]
      rintro _ ⟨e', ⟨he', -⟩, rfl⟩
      exact hnames.2.2 e'.1 ⟨e', he', rfl⟩ e.1 rfl
    rw [List.foldl_append, List.foldl_cons, List.foldl_nil, set, List.filter_eq_self.2 hnew]
    by_cases h : (Text.bytes e.2).all isStorable = true
    · simp [h, hold]
    · simp [h, hold]

/-- Of texts that are set for different names each becomes the only value of its name, if it can be
stored. -/
theorem values_foldl_set {l : List (String × String)} (hnames : (l.map (·.1)).Nodup)
    (h : (name, value) ∈ l) :
    (l.foldl (fun m e => m.set e.1 e.2) empty).values name =
      if (Text.bytes value).all isStorable then [Text.bytes value] else [] := by
  obtain ⟨before, after, rfl⟩ := List.append_of_mem h
  simp only [List.map_append, List.map_cons, List.nodup_append, List.nodup_cons, List.mem_map,
    List.mem_cons] at hnames
  have hafter : ∀ e ∈ after, name ≠ e.1 := fun e he hname => hnames.2.1.1 ⟨e, he, hname.symm⟩
  have hbefore : ∀ e ∈ before, name ≠ e.1 := fun e he hname =>
    hnames.2.2 e.1 ⟨e, he, rfl⟩ name (Or.inl rfl) hname.symm
  rw [List.foldl_append, List.foldl_cons, values_foldl_set_of_ne _ hafter, values_set_self,
    values_foldl_set_of_ne _ hbefore]
  rfl

/-! ## Texts that can be stored -/

/-- Whether a character may stand in a stored value: no control character but the tab. -/
def isAllowed (c : Char) : Bool := (0x20 ≤ c.toNat && c.toNat != 0x7F) || c.toNat == 9

theorem isAllowed_iff {c : Char} :
    isAllowed c = true ↔ 0x20 ≤ c.toNat ∧ c.toNat ≠ 0x7F ∨ c.toNat = 9 := by
  simp [isAllowed]

theorem isStorable_iff {b : UInt8} :
    isStorable b = true ↔ 0x20 ≤ b.toNat ∧ b.toNat ≠ 0x7F ∨ b.toNat = 9 := by
  simp only [isStorable, Bool.or_eq_true, Bool.and_eq_true, decide_eq_true_eq, bne_iff_ne, ne_eq,
    beq_iff_eq, UInt8.le_iff_toNat_le, ← UInt8.toNat_inj]
  rfl

/-- The texts that can be stored are those of allowed characters. -/
theorem all_isStorable (s : String) : (Text.bytes s).all isStorable = s.toList.all isAllowed := by
  rw [Text.bytes_eq_utf8]
  exact Text.all_utf8 (fun n => 0x20 ≤ n ∧ n ≠ 0x7F ∨ n = 9) (fun _ => isStorable_iff)
    (fun _ => isAllowed_iff) (fun _ _ _ _ => by omega) s.toList

/-- A text that can be read can be stored. -/
theorem isAllowed_of_isPrintable {c : Char} (h : Text.isPrintable c = true) :
    isAllowed c = true := by
  rw [Text.isPrintable_iff] at h
  rw [isAllowed_iff]
  omega

/-- Of texts that are set for different names those are read back that print as ASCII, tabs
apart. -/
theorem text?_foldl_set {l : List (String × String)} (hnames : (l.map (·.1)).Nodup)
    (h : (name, value) ∈ l) :
    (l.foldl (fun m e => m.set e.1 e.2) empty).text? name =
      if value.toList.all Text.isPrintable then some value else none := by
  rw [text?, get?, values_foldl_set hnames h, all_isStorable]
  by_cases hallowed : value.toList.all isAllowed = true
  · rw [if_pos hallowed, List.head?_cons, Option.bind_some, Text.ofReadable?_bytes]
  · have hprintable : ¬value.toList.all Text.isPrintable = true := fun h => hallowed <|
      List.all_eq_true.2 fun c hc => isAllowed_of_isPrintable (List.all_eq_true.1 h c hc)
    rw [if_neg hallowed, if_neg hprintable]
    rfl

end ItemCatalog.Metadata
