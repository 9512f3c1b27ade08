import ItemCatalog.Text.Blank
import Mathlib.Data.List.DropRight

/-!
# Texts without the blanks around them

Main statements: what is left of a text without the blanks at its two ends is a part of it
(`trimChars_isInfix`), starts and ends with no blank (`isBlank_of_mem_head?_trim`,
`isBlank_of_mem_getLast?_trim`), and has no more to lose (`trim_trim`). Nothing is left just of a
text that is all blanks (`trim_eq_empty_iff`).
-/

namespace ItemCatalog.Text

theorem trimChars_eq (cs : List Char) :
    trimChars cs = (cs.dropWhile isBlank).rdropWhile isBlank := rfl

theorem trimChars_isInfix (cs : List Char) : trimChars cs <:+: cs := by
  rw [trimChars_eq]
  exact (List.rdropWhile_prefix isBlank _).isInfix.trans (List.dropWhile_suffix isBlank).isInfix

theorem trimChars_sublist (cs : List Char) : (trimChars cs).Sublist cs :=
  (trimChars_isInfix cs).sublist

theorem length_trim_le (s : String) : (trim s).length ≤ s.length := by
  rw [← String.length_toList, ← String.length_toList, toList_trim]
  exact (trimChars_sublist s.toList).length_le

/-- Stripping the end leaves no blank at the front if there was none. -/
theorem dropWhile_trimChars (cs : List Char) :
    (trimChars cs).dropWhile isBlank = trimChars cs := by
  rw [trimChars_eq, List.dropWhile_eq_self_iff]
  intro hl
  have hfront := List.rdropWhile_prefix isBlank (cs.dropWhile isBlank)
  have hlong : 0 < (cs.dropWhile isBlank).length := lt_of_lt_of_le hl hfront.length_le
  have hhead : (cs.dropWhile isBlank).head? = some (cs.dropWhile isBlank)[0] := by
    rw [List.head?_eq_getElem?, List.getElem?_eq_getElem hlong]
  rw [hfront.getElem hl]
  simpa using head?_dropWhile_isBlank cs _ hhead

theorem trimChars_trimChars (cs : List Char) : trimChars (trimChars cs) = trimChars cs := by
  rw [trimChars_eq (trimChars cs), dropWhile_trimChars]
  exact List.rdropWhile_idempotent isBlank _

@[simp] theorem trim_trim (s : String) : trim (trim s) = trim s := by
  rw [trim, toList_trim, trimChars_trimChars]
  rfl

/-- Nothing is left of a text just if it is all blanks. -/
theorem trim_eq_empty_iff {s : String} : trim s = "" ↔ ∀ c ∈ s.toList, isBlank c = true := by
  rw [trim, String.ofList_eq_empty_iff, trimChars_eq, List.rdropWhile_eq_nil_iff]
  constructor
  · intro hrest
    apply List.dropWhile_eq_nil_iff.1
    -- What is left at the front does not start with a blank, so nothing is.
    cases hfront : s.toList.dropWhile isBlank with
    | nil => rfl
    | cons c rest =>
      have hblank := hrest c (hfront ▸ List.mem_cons_self)
      rw [head?_dropWhile_isBlank s.toList c (by rw [hfront, List.head?_cons])] at hblank
      cases hblank
  · intro h c hc
    exact h c ((List.dropWhile_sublist isBlank).subset hc)

/-! ## Ends -/

theorem isBlank_of_mem_head?_trim {s : String} {c : Char} (h : c ∈ (trim s).toList.head?) :
    isBlank c = false := by
  rw [toList_trim, ← dropWhile_trimChars] at h
  exact head?_dropWhile_isBlank _ c h

theorem isBlank_of_mem_getLast?_trim {s : String} {c : Char} (h : c ∈ (trim s).toList.getLast?) :
    isBlank c = false := by
  rw [toList_trim, trimChars, List.getLast?_reverse] at h
  exact head?_dropWhile_isBlank _ c h

/-- A text without blanks has none at its ends. -/
theorem trim_eq_self {s : String} (h : ∀ c ∈ s.toList, isBlank c = false) : trim s = s := by
  have hfront {cs : List Char} (hcs : ∀ c ∈ cs, isBlank c = false) :
      cs.dropWhile isBlank = cs := by
    rw [List.dropWhile_eq_self_iff]
    intro hl
    rw [hcs _ (List.getElem_mem hl)]
    exact Bool.false_ne_true
  rw [trim, trimChars, hfront h, hfront, List.reverse_reverse, String.ofList_toList]
  intro c hc
  exact h c (List.mem_reverse.1 hc)

end ItemCatalog.Text
