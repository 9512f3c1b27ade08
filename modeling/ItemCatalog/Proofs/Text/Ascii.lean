import ItemCatalog.Text.Ascii
import Mathlib.Data.List.DropRight

/-!
# Case and separators

Lower case moves 26 characters and no separator among them. Main statements: what a text starts with
in any case is a prefix of its lower case (`startsWith_iff`), and what follows the last separator of
a text is the only part of it that has no separator and is all of it or follows one
(`afterLast_eq_iff`), in either case (`afterLast_map_toLower`).

## Main definitions

* `Text.StartsWith`: a text starts with a word in any ASCII case.
-/

namespace ItemCatalog.Text

/-! ## Case -/

theorem toNat_toLower (c : Char) :
    c.toLower.toNat = if 65 ≤ c.toNat ∧ c.toNat ≤ 90 then c.toNat + 32 else c.toNat := by
  have hcond : (c.val ≥ 'A'.val ∧ c.val ≤ 'Z'.val) ↔ 65 ≤ c.toNat ∧ c.toNat ≤ 90 := Iff.rfl
  unfold Char.toLower
  split
  · next h =>
    rw [if_pos (hcond.1 h)]
    have hle : c.toNat ≤ 90 := (hcond.1 h).2
    change (c.val + 32).toNat = _
    rw [UInt32.toNat_add]
    change (c.toNat + 32) % 4294967296 = _
    omega
  · next h => rw [if_neg fun hn => h (hcond.2 hn)]

/-- Only letters have another case. -/
theorem toLower_eq_iff {c d : Char} (hd : d.toNat < 65 ∨ 122 < d.toNat) :
    c.toLower = d ↔ c = d := by
  rw [← Char.toNat_inj, ← Char.toNat_inj, toNat_toLower]
  split <;> omega

/-- Whether a text starts with a word, in any ASCII case. -/
def StartsWith (word s : String) : Prop := ∃ front rest, s = front ++ rest ∧ lower front = word

theorem startsWith_iff {word s : String} :
    StartsWith word s ↔ word.toList <+: (lower s).toList := by
  rw [toList_lower]
  constructor
  · rintro ⟨front, rest, rfl, rfl⟩
    refine ⟨rest.toList.map Char.toLower, ?_⟩
    rw [toList_lower, String.toList_append, List.map_append]
  · rintro ⟨tail, h⟩
    obtain ⟨front, rest, hs, hfront, -⟩ := List.map_eq_append_iff.1 h.symm
    refine ⟨String.ofList front, String.ofList rest, ?_, ?_⟩
    · rw [← String.ofList_append, ← hs, String.ofList_toList]
    · rw [lower, String.toList_ofList, hfront, String.ofList_toList]

/-! ## The last separator -/

section Separator
variable {stop : Char} {cs ds : List Char}

theorem afterLast_eq (stop : Char) (cs : List Char) :
    afterLast stop cs = cs.rtakeWhile (· != stop) := rfl

theorem notMem_afterLast (stop : Char) (cs : List Char) : stop ∉ afterLast stop cs := by
  intro h
  rw [afterLast_eq] at h
  simpa using List.mem_rtakeWhile_imp h

theorem afterLast_of_notMem (h : stop ∉ cs) : afterLast stop cs = cs := by
  rw [afterLast_eq, List.rtakeWhile_eq_self_iff]
  intro c hc
  exact bne_iff_ne.2 fun heq => h (heq ▸ hc)

/-- A text is what follows its last separator, or that separator stands in front of it. -/
theorem eq_or_append_afterLast (stop : Char) (cs : List Char) :
    cs = afterLast stop cs ∨ ∃ before, cs = before ++ stop :: afterLast stop cs := by
  have hsplit : cs = (cs.reverse.dropWhile (· != stop)).reverse ++ afterLast stop cs := by
    rw [afterLast, ← List.reverse_append, List.takeWhile_append_dropWhile, List.reverse_reverse]
  cases hrest : cs.reverse.dropWhile (· != stop) with
  | nil =>
    rw [hrest] at hsplit
    exact .inl hsplit
  | cons c rest =>
    have hstop : c = stop := by
      have hhead := List.head?_dropWhile_not (· != stop) cs.reverse
      rw [hrest] at hhead
      simpa using hhead
    rw [hrest, List.reverse_cons, List.append_assoc, hstop] at hsplit
    exact .inr ⟨rest.reverse, hsplit⟩

/-- What follows the last separator has none, and is all of the text or follows one. -/
theorem afterLast_eq_iff :
    afterLast stop cs = ds ↔ stop ∉ ds ∧ (cs = ds ∨ ∃ before, cs = before ++ stop :: ds) := by
  constructor
  · rintro rfl
    exact ⟨notMem_afterLast stop cs, eq_or_append_afterLast stop cs⟩
  · rintro ⟨hstop, rfl | ⟨before, rfl⟩⟩
    · exact afterLast_of_notMem hstop
    · exact afterLast_append stop before ds hstop

/-- A separator that is no letter separates a text in either case. -/
theorem afterLast_map_toLower (h : stop.toNat < 65 ∨ 122 < stop.toNat) (cs : List Char) :
    afterLast stop (cs.map Char.toLower) = (afterLast stop cs).map Char.toLower := by
  have hmap : stop.toLower = stop := (toLower_eq_iff h).2 rfl
  rw [afterLast_eq_iff]
  constructor
  · rw [List.mem_map]
    rintro ⟨c, hc, hlower⟩
    rw [(toLower_eq_iff h).1 hlower] at hc
    exact notMem_afterLast stop cs hc
  · rcases eq_or_append_afterLast stop cs with hall | ⟨before, hbefore⟩
    · exact .inl (congrArg _ hall)
    · refine .inr ⟨before.map Char.toLower, ?_⟩
      have hcs := congrArg (List.map Char.toLower) hbefore
      rwa [List.map_append, List.map_cons, hmap] at hcs

end Separator
end ItemCatalog.Text
