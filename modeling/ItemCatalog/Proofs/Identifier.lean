import ItemCatalog.Identifier

/-!
# The order of printed identifiers

Printed identifiers are all of one length, their digits go from the most significant to the least,
and the hyphens stand at the same places in all of them. Main statement: their order as texts is
that of the numbers that they stand for (`Identifier.text_lt_text`).
-/

namespace ItemCatalog

/-! ## Texts of one length -/

namespace Text
variable {l₁ l₂ : List Char}

/-- Of two texts of one length, the first difference decides, whatever follows. -/
theorem append_lt_append (h : l₁ < l₂) (hlen : l₁.length = l₂.length) (r₁ r₂ : List Char) :
    l₁ ++ r₁ < l₂ ++ r₂ := by
  induction l₁ generalizing l₂ with
  | nil =>
    rw [List.eq_nil_of_length_eq_zero hlen.symm] at h
    cases h
  | cons a l₁ ih =>
    cases l₂ with
    | nil => cases hlen
    | cons b l₂ =>
      rw [List.cons_append, List.cons_append]
      rcases List.cons_lt_cons_iff.1 h with hab | ⟨rfl, htail⟩
      · exact List.cons_lt_cons_iff.2 (Or.inl hab)
      · exact List.cons_lt_cons_iff.2 (Or.inr ⟨rfl, ih htail (Nat.succ.inj hlen)⟩)

theorem append_lt_append_left (h : l₁ < l₂) (r : List Char) : r ++ l₁ < r ++ l₂ := by
  induction r with
  | nil => exact h
  | cons a r ih => exact List.cons_lt_cons_iff.2 (Or.inr ⟨rfl, ih⟩)

/-- Two texts of one length differ first before a given place, or from there on. -/
theorem take_lt_take_or (h : l₁ < l₂) (hlen : l₁.length = l₂.length) (n : Nat) :
    l₁.take n < l₂.take n ∨ l₁.take n = l₂.take n ∧ l₁.drop n < l₂.drop n := by
  induction n generalizing l₁ l₂ with
  | zero => exact Or.inr ⟨rfl, h⟩
  | succ n ih =>
    cases l₁ with
    | nil =>
      rw [List.eq_nil_of_length_eq_zero hlen.symm] at h
      cases h
    | cons a l₁ =>
      cases l₂ with
      | nil => cases hlen
      | cons b l₂ =>
        rcases List.cons_lt_cons_iff.1 h with hab | ⟨rfl, htail⟩
        · exact Or.inl (List.cons_lt_cons_iff.2 (Or.inl hab))
        · rcases ih htail (Nat.succ.inj hlen) with htake | ⟨htake, hdrop⟩
          · exact Or.inl (List.cons_lt_cons_iff.2 (Or.inr ⟨rfl, htake⟩))
          · exact Or.inr ⟨congrArg (a :: ·) htake, hdrop⟩

/-! ## Digits -/

namespace Hex

theorem digit_lt_digit : ∀ a < 16, ∀ b < a, digit b < digit a := by decide

/-- Numbers are ordered as their digits are. -/
theorem encode_lt_encode {w a b : Nat} (h : a < b) (hb : b < Nat.pow 16 w) :
    encode w a < encode w b := by
  induction w generalizing a b with
  | zero =>
    have hpow : Nat.pow 16 0 = 1 := rfl
    omega
  | succ w ih =>
    rw [encode, encode]
    rcases Nat.lt_or_ge (a / 16) (b / 16) with hlt | hge
    · have hpow : Nat.pow 16 (w + 1) = Nat.pow 16 w * 16 := rfl
      have hwidth : b / 16 < Nat.pow 16 w := by omega
      exact append_lt_append (ih hlt hwidth) (by simp) _ _
    · have hsame : a / 16 = b / 16 := by omega
      have hlast : a % 16 < b % 16 := by omega
      rw [hsame]
      apply append_lt_append_left
      exact List.cons_lt_cons_iff.2
        (Or.inl (digit_lt_digit (b % 16) (Nat.mod_lt _ (by decide)) (a % 16) hlast))

end Hex
end Text

/-! ## Hyphens -/

namespace Identifier

theorem hyphenate_lt_hyphenate (ws : List Nat) {cs ds : List Char} (h : cs < ds)
    (hlen : cs.length = ds.length) : hyphenate ws cs < hyphenate ws ds := by
  fun_induction hyphenate ws cs generalizing ds with
  | case1 cs => exact h
  | case2 w cs => exact h
  | case3 w v ws cs ih =>
    rw [hyphenate]
    rcases Text.take_lt_take_or h hlen w with htake | ⟨htake, hdrop⟩
    · exact Text.append_lt_append htake (by simp [hlen]) _ _
    · rw [htake]
      apply Text.append_lt_append_left
      exact List.cons_lt_cons_iff.2 (Or.inr ⟨rfl, ih hdrop (by simp [hlen])⟩)

/-- Identifiers are ordered as their printed forms are. -/
theorem text_lt_text {a b : Identifier} (h : a.bits.toNat < b.bits.toNat) : a.text < b.text := by
  rw [String.lt_iff, text, text, String.toList_ofList, String.toList_ofList]
  refine hyphenate_lt_hyphenate widths ?_ (by simp)
  exact Text.Hex.encode_lt_encode h (Nat.lt_of_lt_of_eq b.bits.isLt (by decide))

end Identifier
end ItemCatalog
