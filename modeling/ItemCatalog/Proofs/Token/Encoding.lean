import ItemCatalog.Token.Base64Url

/-!
# Written forms of bytes

The alphabet of tokens has no second way to write anything. Main statement: a text reads as bytes
exactly if it is their written form (`decode?_eq_some_iff`).
-/

namespace ItemCatalog.Base64Url

/-- A character has a value only as the character of that value. -/
theorem digit_of_value? {c : Char} {n : Nat} (h : value? c = some n) : n < 64 ∧ digit n = c := by
  have hc (k : Nat) (hk : k = c.toNat) : Char.ofNat k = c := by rw [hk, Char.ofNat_toNat]
  rw [value?] at h
  split at h
  case isTrue hupper =>
    cases h
    rw [digit, if_pos (by omega)]
    exact ⟨by omega, hc _ (by omega)⟩
  split at h
  case isTrue hlower =>
    cases h
    rw [digit, if_neg (by omega), if_pos (by omega)]
    exact ⟨by omega, hc _ (by omega)⟩
  split at h
  case isTrue hnumeral =>
    cases h
    rw [digit, if_neg (by omega), if_neg (by omega), if_pos (by omega)]
    exact ⟨by omega, hc _ (by omega)⟩
  split at h
  case isTrue hdash =>
    cases h
    exact ⟨by decide, hdash.symm⟩
  split at h
  case isTrue hline =>
    cases h
    exact ⟨by decide, hline.symm⟩
  cases h

/-- A number below `2 ^ 24` is made of its three bytes. -/
theorem eq_of_bytes {n : Nat} (h : n < 16777216) :
    (n / 65536 % 256 * 256 + n / 256 % 256) * 256 + n % 256 = n := by
  have hfirst : n / 65536 % 256 = n / 256 / 256 := by omega
  have hsecond : n / 256 / 256 * 256 + n / 256 % 256 = n / 256 := Nat.div_add_mod' _ _
  rw [hfirst, hsecond, Nat.div_add_mod']

/-- What reads as bytes is their written form. -/
theorem encode_of_decode? {cs : List Char} {bs : List UInt8} (h : decode? cs = some bs) :
    encode bs = cs := by
  have htoNat (n : Nat) : (UInt8.ofNat n).toNat = n % 256 := UInt8.toNat_ofNat'
  -- In each case the bytes hold the bits of the characters, so the same bits are written again.
  fun_induction decode? cs generalizing bs with
  | case1 a b c d rest ih =>
    simp only [Option.bind_eq_bind, Option.bind_eq_some_iff, Option.pure_def,
      Option.some.injEq] at h
    obtain ⟨w, hw, x, hx, y, hy, z, hz, bytes, hbytes, rfl⟩ := h
    obtain ⟨hw, rfl⟩ := digit_of_value? hw
    obtain ⟨hx, rfl⟩ := digit_of_value? hx
    obtain ⟨hy, rfl⟩ := digit_of_value? hy
    obtain ⟨hz, rfl⟩ := digit_of_value? hz
    generalize hn : (w * 64 + x) * 4096 + y * 64 + z = n
    simp only [encode, htoNat, ih hbytes, eq_of_bytes (show n < 16777216 by omega)]
    rw [show n / 262144 = w by omega, show n / 4096 % 64 = x by omega,
      show n / 64 % 64 = y by omega, show n % 64 = z by omega]
  | case2 a b c =>
    simp only [Option.bind_eq_bind, Option.bind_eq_some_iff, Option.pure_def] at h
    obtain ⟨w, hw, x, hx, y, hy, h⟩ := h
    obtain ⟨hw, rfl⟩ := digit_of_value? hw
    obtain ⟨hx, rfl⟩ := digit_of_value? hx
    obtain ⟨hy, rfl⟩ := digit_of_value? hy
    generalize hn : (w * 64 + x) * 64 + y = n at h
    obtain ⟨hzero, h⟩ := (Option.ite_none_right_eq_some).mp h
    cases h
    have hbits : n / 1024 % 256 * 256 + n / 4 % 256 = n / 4 := by omega
    simp only [encode, htoNat, hbits]
    rw [show n / 4 / 1024 = w by omega, show n / 4 / 16 % 64 = x by omega,
      show n / 4 % 16 * 4 = y by omega]
  | case3 a b =>
    simp only [Option.bind_eq_bind, Option.bind_eq_some_iff, Option.pure_def] at h
    obtain ⟨w, hw, x, hx, h⟩ := h
    obtain ⟨hw, rfl⟩ := digit_of_value? hw
    obtain ⟨hx, rfl⟩ := digit_of_value? hx
    generalize hn : w * 64 + x = n at h
    obtain ⟨hzero, h⟩ := (Option.ite_none_right_eq_some).mp h
    cases h
    simp only [encode, htoNat]
    rw [show n / 16 % 256 / 4 = w by omega, show n / 16 % 256 % 4 * 16 = x by omega]
  | case4 => cases h
  | case5 =>
    cases h
    rfl

/-- A text reads as bytes exactly if it is their written form. -/
theorem decode?_eq_some_iff {cs : List Char} {bs : List UInt8} :
    decode? cs = some bs ↔ cs = encode bs := by
  refine ⟨fun h => (encode_of_decode? h).symm, ?_⟩
  rintro rfl
  exact decode?_encode bs

end ItemCatalog.Base64Url
