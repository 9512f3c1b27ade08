import Mathlib.Data.List.Forall2
import ItemCatalog.Json.Members

/-!
# Members of their types

What it means for the members of an object to be of their types, without regard to how they are
looked up. Main statement: a lookup succeeds exactly if there is one member of the names or none
(`only?_eq_some_iff`).

## Main definitions

* `Only`: the value of the only member with one of several names.
* `Has`: there is such a value, and it is of a type.
* `OrNull`: a value of a type, or nothing.
-/

namespace ItemCatalog.Json
variable {members : List (String × Json)} {names : List String} {v : Json} {α β : Type}

/-- The value of the only member that has one of these names; a member that is not there counts as
`null`. -/
inductive Only (members : List (String × Json)) (names : List String) : Json → Prop
  | absent (h : ∀ m ∈ members, m.1 ∉ names) : Only members names .null
  | present {before after : List (String × Json)} {name : String} {v : Json}
    (hsplit : members = before ++ (name, v) :: after) (hname : name ∈ names)
    (hbefore : ∀ m ∈ before, m.1 ∉ names) (hafter : ∀ m ∈ after, m.1 ∉ names) :
    Only members names v

theorem only?_eq_some_iff : only? members names = some v ↔ Only members names v := by
  constructor
  · intro h
    unfold only? at h
    split at h
    · rename_i hnone
      cases h
      refine .absent fun m hm hname => ?_
      exact List.filter_eq_nil_iff.mp hnone m hm (List.contains_iff_mem.mpr hname)
    · rename_i name value hone
      cases h
      obtain ⟨before, after, hsplit, hbefore, hname, hafter⟩ := List.filter_eq_cons_iff.mp hone
      refine .present hsplit (List.contains_iff_mem.mp hname) (fun m hm hn => ?_) fun m hm hn => ?_
      · exact hbefore m hm (List.contains_iff_mem.mpr hn)
      · exact List.filter_eq_nil_iff.mp hafter m hm (List.contains_iff_mem.mpr hn)
    · cases h
  · intro h
    have hfilter {ms : List (String × Json)} (hms : ∀ m ∈ ms, m.1 ∉ names) :
        ms.filter (fun m => names.contains m.1) = [] :=
      List.filter_eq_nil_iff.mpr fun m hm hn => hms m hm (List.contains_iff_mem.mp hn)
    cases h with
    | absent h => rw [only?, hfilter h]
    | present hsplit hname hbefore hafter =>
      have hone := List.contains_iff_mem.mpr hname
      rw [only?, hsplit, List.filter_append, hfilter hbefore, List.nil_append, List.filter_cons,
        if_pos hone, hfilter hafter]

/-- The value of the only member that has one of these names is of a type. -/
def Has (members : List (String × Json)) (names : List String) (P : Json → Prop) : Prop :=
  ∃ v, Only members names v ∧ P v

theorem isSome_only?_bind {f : Json → Option α} :
    ((only? members names).bind f).isSome = true ↔
      Has members names fun v => ∃ a, f v = some a := by
  simp only [Option.isSome_iff_exists, Option.bind_eq_some_iff, only?_eq_some_iff, Has]
  exact ⟨fun ⟨a, v, hv, ha⟩ => ⟨v, hv, a, ha⟩, fun ⟨v, hv, a, ha⟩ => ⟨a, v, hv, ha⟩⟩

theorem only?_bind_eq_some_iff {f : Json → Option α} {a : α} :
    (only? members names).bind f = some a ↔ Has members names fun v => f v = some a := by
  simp only [Option.bind_eq_some_iff, only?_eq_some_iff, Has]

theorem isSome_only? : (only? members names).isSome = true ↔ Has members names fun _ => True := by
  simp only [Option.isSome_iff_exists, only?_eq_some_iff, Has, and_true]

theorem any_only? {p : Json → Bool} :
    (only? members names).any p = true ↔ Has members names fun v => p v = true := by
  rw [Option.any_eq_true]
  simp only [only?_eq_some_iff, Has]

/-- What a value reads as, where `null` reads as nothing. -/
inductive OrNull (read? : Json → Option α) : Json → Option α → Prop
  | null : OrNull read? .null none
  | some {v : Json} {a : α} (h : read? v = some a) : OrNull read? v (some a)

/-- A reader that has its own answer for `null` only. -/
theorem orNull_iff {read? : Json → Option α} {optional? : Json → Option (Option α)}
    (hread : read? .null = none) (hnull : optional? .null = some none)
    (hvalue : ∀ v ≠ .null, optional? v = (read? v).map some) {o : Option α} :
    optional? v = some o ↔ OrNull read? v o := by
  by_cases hv : v = .null
  · subst hv
    rw [hnull]
    constructor
    · rintro ⟨⟩
      exact .null
    · rintro (_ | h)
      · rfl
      · rw [hread] at h
        cases h
  · rw [hvalue v hv, Option.map_eq_some_iff]
    constructor
    · rintro ⟨a, ha, rfl⟩
      exact .some ha
    · rintro (_ | h)
      · exact absurd rfl hv
      · exact ⟨_, h, rfl⟩

theorem optionalText?_eq_some_iff {o : Option String} :
    v.optionalText? = some o ↔ OrNull text? v o :=
  orNull_iff rfl rfl fun v hv => by cases v <;> first | rfl | exact absurd rfl hv

theorem optionalTexts?_eq_some_iff {o : Option (List String)} :
    v.optionalTexts? = some o ↔ OrNull texts? v o :=
  orNull_iff rfl rfl fun v hv => by cases v <;> first | rfl | exact absurd rfl hv

theorem optionalChoice?_eq_some_iff {o : Option String} :
    v.optionalChoice? = some o ↔ OrNull choice? v o :=
  orNull_iff rfl rfl fun v hv => by cases v <;> first | rfl | exact absurd rfl hv

end ItemCatalog.Json
