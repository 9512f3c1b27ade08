import ItemCatalog.Name
import ItemCatalog.Proofs.Text.Blank
import Mathlib.Logic.Basic

/-!
# The rules of names

What stands against a name, and what is stored of one that breaks no rule: what is left of it
without the blanks at its two ends. Main statements: a name is turned away for the first rule that
it breaks (`broken?_eq_some_iff`), and a name that breaks none breaks none after it has been
stripped (`broken?_trim`).

## Main definitions

* `Name.MayHold`: the characters of which names are made.
* `Name.Rule.IsBrokenBy`: what breaks a rule.
-/

namespace ItemCatalog.Name
variable {c : Char} {s : String} {rule : Rule}

/-! ## Characters -/

/-- Whether a character is an ASCII letter or digit, a blank, a hyphen, an underscore or a dot. -/
def MayHold (c : Char) : Prop :=
  ('A' ≤ c ∧ c ≤ 'Z') ∨ ('a' ≤ c ∧ c ≤ 'z') ∨ ('0' ≤ c ∧ c ≤ '9') ∨ Text.isBlank c = true ∨
    c = '-' ∨ c = '_' ∨ c = '.'

theorem isAllowed_iff : isAllowed c = true ↔ MayHold c := by
  -- The classes of characters are spelled out here, since they are defined by numbers.
  have hletter : c.isAlphanum = (c.isUpper || c.isLower || c.isDigit) := rfl
  have hupper : c.isUpper = decide ('A' ≤ c ∧ c ≤ 'Z') := rfl
  have hlower : c.isLower = (decide ('a' ≤ c) && decide (c ≤ 'z')) := rfl
  have hdigit : c.isDigit = (decide ('0' ≤ c) && decide (c ≤ '9')) := rfl
  simp only [isAllowed, hletter, hupper, hlower, hdigit, Bool.or_eq_true, Bool.and_eq_true,
    decide_eq_true_eq, beq_iff_eq, or_assoc, MayHold]

/-! ## Rules -/

/-- What breaks a rule. -/
def Rule.IsBrokenBy (s : String) : Rule → Prop
  | .blank => ∀ c ∈ s.toList, Text.isBlank c = true
  | .tooLong => 100 < s.length
  | .badCharacter => ∃ c ∈ s.toList, ¬MayHold c

/-- The rules in the order in which they are checked. -/
def Rule.inOrder : List Rule := [.blank, .tooLong, .badCharacter]

/-- No two rules are reported in the same words. -/
theorem Rule.message_injective : Function.Injective Rule.message := by
  intro r r'
  cases r <;> cases r' <;> decide

open Classical in
/-- A name is checked against one rule after another. -/
theorem broken?_eq_find? (s : String) :
    broken? s = Rule.inOrder.find? fun rule => decide (rule.IsBrokenBy s) := by
  have hblank : (Text.trim s).isEmpty = true ↔ Rule.blank.IsBrokenBy s := by
    rw [String.isEmpty_iff]
    exact Text.trim_eq_empty_iff
  have hallowed : s.toList.all isAllowed = true ↔ ¬Rule.badCharacter.IsBrokenBy s := by
    simp [Rule.IsBrokenBy, isAllowed_iff]
  have hlong : maxLength < s.length ↔ Rule.tooLong.IsBrokenBy s := Iff.rfl
  simp only [broken?, hblank, hallowed, hlong, Rule.inOrder, List.find?_cons, List.find?_nil]
  by_cases h1 : Rule.blank.IsBrokenBy s
  · simp [h1]
  · by_cases h2 : Rule.tooLong.IsBrokenBy s
    · simp [h1, h2]
    · by_cases h3 : Rule.badCharacter.IsBrokenBy s <;> simp [h1, h2, h3]

/-- A name is turned away for the first rule that it breaks. -/
theorem broken?_eq_some_iff :
    broken? s = some rule ↔ rule.IsBrokenBy s ∧
      ∃ before after, Rule.inOrder = before ++ rule :: after ∧
        ∀ earlier ∈ before, ¬earlier.IsBrokenBy s := by
  simp [broken?_eq_find?, List.find?_eq_some_iff_append]

/-- A name is accepted if it breaks no rule. -/
theorem broken?_eq_none_iff : broken? s = none ↔ ∀ rule : Rule, ¬rule.IsBrokenBy s := by
  have hall : ∀ rule, rule ∈ Rule.inOrder := by
    intro rule
    cases rule <;> decide
  simp [broken?_eq_find?, hall]

/-- A name is accepted if it is not all blanks, not too long, and of allowed characters only. -/
theorem broken?_eq_none_iff_chars :
    broken? s = none ↔ (∃ c ∈ s.toList, Text.isBlank c = false) ∧ s.length ≤ 100 ∧
      ∀ c ∈ s.toList, MayHold c := by
  rw [broken?_eq_none_iff]
  constructor
  · intro h
    refine ⟨?_, Nat.not_lt.1 (h .tooLong), fun c hc => ?_⟩
    · simpa [Rule.IsBrokenBy] using h .blank
    · by_contra hbad
      exact h .badCharacter ⟨c, hc, hbad⟩
  · rintro ⟨⟨c, hc, hletter⟩, hlength, hall⟩ rule hbroken
    cases rule with
    | blank =>
      rw [hbroken c hc] at hletter
      cases hletter
    | tooLong => exact Nat.not_lt.2 hlength hbroken
    | badCharacter =>
      obtain ⟨d, hd, hbad⟩ := hbroken
      exact hbad (hall d hd)

/-- A name that breaks no rule breaks none without the blanks around it. -/
theorem broken?_trim (h : broken? s = none) : broken? (Text.trim s) = none := by
  rw [broken?_eq_none_iff] at h ⊢
  have hpart : ∀ c ∈ (Text.trim s).toList, c ∈ s.toList := by
    intro c hc
    rw [Text.toList_trim] at hc
    exact (Text.trimChars_sublist s.toList).subset hc
  intro rule hbroken
  apply h rule
  cases rule with
  | blank =>
    apply Text.trim_eq_empty_iff.1
    rw [← Text.trim_trim]
    exact Text.trim_eq_empty_iff.2 hbroken
  | tooLong => exact Nat.lt_of_lt_of_le hbroken (Text.length_trim_le s)
  | badCharacter =>
    obtain ⟨c, hc, hbad⟩ := hbroken
    exact ⟨c, hpart c hc, hbad⟩

end ItemCatalog.Name
