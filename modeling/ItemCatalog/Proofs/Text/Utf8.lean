import ItemCatalog.Text.Bytes

/-!
# Characters as bytes

Texts are written character by character. A character below 128 is one byte, its code; the bytes of
every other character are 128 or more, so they are never taken for a character of their own. Main
statement: what is written is readable just if each of its characters prints as ASCII or is a tab,
and then it is read as what was written (`ofReadable?_bytes`).
-/

namespace ItemCatalog.Text
variable {c : Char} {cs ds : List Char}

/-- The UTF-8 bytes of characters one after another. -/
def utf8 (cs : List Char) : List UInt8 := cs.flatMap String.utf8EncodeChar

@[simp] theorem utf8_nil : utf8 [] = [] := rfl

@[simp] theorem utf8_cons : utf8 (c :: cs) = String.utf8EncodeChar c ++ utf8 cs :=
  List.flatMap_cons

@[simp] theorem utf8_append : utf8 (cs ++ ds) = utf8 cs ++ utf8 ds := List.flatMap_append

theorem bytes_ofList (cs : List Char) : bytes (String.ofList cs) = utf8 cs := by
  rw [bytes, String.toByteArray_ofList, List.utf8Encode, List.data_toByteArray]
  rfl

theorem bytes_eq_utf8 (s : String) : bytes s = utf8 s.toList := by
  rw [← bytes_ofList, String.ofList_toList]

theorem ofBytes?_utf8 (s : String) : ofBytes? (utf8 s.toList) = some s := by
  rw [← bytes_eq_utf8, ofBytes?_bytes]

theorem utf8EncodeChar_of_lt (h : c.toNat < 128) :
    String.utf8EncodeChar c = [UInt8.ofNat c.toNat] := by
  have hle : c.val.toNat ≤ 0x7f := Nat.le_of_lt_succ h
  rw [String.utf8EncodeChar, if_pos hle]
  rfl

theorem le_of_mem_utf8EncodeChar (h : 128 ≤ c.toNat) {b : UInt8}
    (hb : b ∈ String.utf8EncodeChar c) : 128 ≤ b.toNat := by
  have hlt : ¬ c.val.toNat ≤ 0x7f := Nat.not_le_of_lt h
  rw [String.utf8EncodeChar, if_neg hlt] at hb
  -- Whatever the length, a byte is made of at most six bits and a mark of 128 or more.
  have hmark {n m mark : Nat} (hm : 0 < m) (hlow : 128 ≤ mark) (hhigh : m + mark ≤ 256) :
      128 ≤ (UInt8.ofNat (n % m + mark)).toNat := by
    have := Nat.mod_lt n hm
    rw [UInt8.toNat_ofNat']
    omega
  split at hb
  · simp only [List.mem_cons, List.not_mem_nil, or_false] at hb
    rcases hb with rfl | rfl <;> exact hmark (by decide) (by decide) (by decide)
  · split at hb
    · simp only [List.mem_cons, List.not_mem_nil, or_false] at hb
      rcases hb with rfl | rfl | rfl <;> exact hmark (by decide) (by decide) (by decide)
    · simp only [List.mem_cons, List.not_mem_nil, or_false] at hb
      rcases hb with rfl | rfl | rfl | rfl <;> exact hmark (by decide) (by decide) (by decide)

/-- A byte is the code of its character, or it is 128 or more like that code. -/
theorem mem_utf8EncodeChar {b : UInt8} (hb : b ∈ String.utf8EncodeChar c) :
    b.toNat = c.toNat ∨ 128 ≤ b.toNat ∧ 128 ≤ c.toNat := by
  by_cases h : c.toNat < 128
  · rw [utf8EncodeChar_of_lt h, List.mem_singleton] at hb
    rw [hb, UInt8.toNat_ofNat', Nat.mod_eq_of_lt (by omega)]
    exact .inl rfl
  · exact .inr ⟨le_of_mem_utf8EncodeChar (by omega) hb, by omega⟩

/-- A condition on codes that does not tell those from 128 up apart holds of all bytes just if it
holds of all characters. -/
theorem all_utf8 {p : UInt8 → Bool} {q : Char → Bool} (P : Nat → Prop)
    (hp : ∀ b, p b = true ↔ P b.toNat) (hq : ∀ c, q c = true ↔ P c.toNat)
    (hhigh : ∀ m n, 128 ≤ m → 128 ≤ n → P m → P n) (cs : List Char) :
    (utf8 cs).all p = cs.all q := by
  have hchar (c : Char) : (String.utf8EncodeChar c).all p = q c := by
    rw [Bool.eq_iff_iff, List.all_eq_true, hq]
    constructor
    · intro h
      obtain ⟨b, hb⟩ := List.exists_mem_of_ne_nil _ (String.utf8EncodeChar_ne_nil (c := c))
      have hbyte := (hp b).1 (h b hb)
      rcases mem_utf8EncodeChar hb with hcode | ⟨hbhigh, hchigh⟩
      · exact hcode ▸ hbyte
      · exact hhigh _ _ hbhigh hchigh hbyte
    · intro h b hb
      rw [hp]
      rcases mem_utf8EncodeChar hb with hcode | ⟨hbhigh, hchigh⟩
      · exact hcode ▸ h
      · exact hhigh _ _ hchigh hbhigh h
  rw [utf8, List.all_flatMap]
  exact congrArg cs.all (funext hchar)

/-! ## Readable texts -/

/-- Whether a character prints as ASCII, or is a tab. -/
def isPrintable (c : Char) : Bool := (0x20 ≤ c.toNat && c.toNat ≤ 0x7E) || c.toNat == 9

theorem isPrintable_iff :
    isPrintable c = true ↔ 0x20 ≤ c.toNat ∧ c.toNat ≤ 0x7E ∨ c.toNat = 9 := by
  simp [isPrintable]

theorem isReadable_iff {b : UInt8} :
    isReadable b = true ↔ 0x20 ≤ b.toNat ∧ b.toNat ≤ 0x7E ∨ b.toNat = 9 := by
  simp [isReadable, UInt8.le_iff_toNat_le, ← UInt8.toNat_inj]

theorem all_isReadable_bytes (s : String) :
    (bytes s).all isReadable = s.toList.all isPrintable := by
  rw [bytes_eq_utf8]
  exact all_utf8 (fun n => 0x20 ≤ n ∧ n ≤ 0x7E ∨ n = 9) (fun _ => isReadable_iff)
    (fun _ => isPrintable_iff) (fun _ _ _ _ => by omega) s.toList

theorem map_ofNat_utf8 (h : cs.all isPrintable = true) :
    (utf8 cs).map (fun b => Char.ofNat b.toNat) = cs := by
  induction cs with
  | nil => rfl
  | cons c cs ih =>
    simp only [List.all_cons, Bool.and_eq_true, isPrintable_iff] at h
    have hlt : c.toNat < 128 := by omega
    have hchar : Char.ofNat (UInt8.ofNat c.toNat).toNat = c := by
      rw [UInt8.toNat_ofNat', Nat.mod_eq_of_lt (by omega), Char.ofNat_toNat]
    rw [utf8_cons, utf8EncodeChar_of_lt hlt, List.map_append, ih h.2, List.map_cons, hchar]
    rfl

/-- A text that was written is read back if all of it is readable, and not read at all otherwise. -/
theorem ofReadable?_bytes (s : String) :
    ofReadable? (bytes s) = if s.toList.all isPrintable then some s else none := by
  rw [ofReadable?, all_isReadable_bytes]
  by_cases h : s.toList.all isPrintable = true
  · rw [if_pos h, if_pos h, bytes_eq_utf8, map_ofNat_utf8 h, String.ofList_toList]
  · rw [if_neg h, if_neg h]

end ItemCatalog.Text
