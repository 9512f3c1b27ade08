/-!
# Base64 for tokens

The alphabet of 64 characters that is safe in addresses, without padding. Reading is strict: the
bits of a last character that belong to no byte must be zero, so that every list of bytes has one
written form. Main statement: what is written reads back.
-/

namespace ItemCatalog.Base64Url

/-- The character of a value below sixty-four. -/
def digit (n : Nat) : Char :=
  if n < 26 then Char.ofNat (65 + n)
  else if n < 52 then Char.ofNat (71 + n)
  else if n < 62 then Char.ofNat (n - 4)
  else if n = 62 then '-'
  else '_'

/-- The value of a character of the alphabet. -/
def value? (c : Char) : Option Nat :=
  let n := c.toNat
  if 65 ≤ n ∧ n ≤ 90 then some (n - 65)
  else if 97 ≤ n ∧ n ≤ 122 then some (n - 71)
  else if 48 ≤ n ∧ n ≤ 57 then some (n + 4)
  else if c = '-' then some 62
  else if c = '_' then some 63
  else none

/-- Writes bytes, three of them as four characters. -/
def encode : List UInt8 → List Char
  | a :: b :: c :: rest =>
    let n := (a.toNat * 256 + b.toNat) * 256 + c.toNat
    digit (n / 262144) :: digit (n / 4096 % 64) :: digit (n / 64 % 64) :: digit (n % 64) ::
      encode rest
  | [a, b] =>
    let n := a.toNat * 256 + b.toNat
    [digit (n / 1024), digit (n / 16 % 64), digit (n % 16 * 4)]
  | [a] => [digit (a.toNat / 4), digit (a.toNat % 4 * 16)]
  | [] => []

/-- Reads bytes, four characters as three of them. -/
def decode? : List Char → Option (List UInt8)
  | a :: b :: c :: d :: rest => do
    let n := ((← value? a) * 64 + (← value? b)) * 4096 + (← value? c) * 64 + (← value? d)
    let bytes ← decode? rest
    return UInt8.ofNat (n / 65536) :: UInt8.ofNat (n / 256) :: UInt8.ofNat n :: bytes
  | [a, b, c] => do
    let n := ((← value? a) * 64 + (← value? b)) * 64 + (← value? c)
    if n % 4 = 0 then return [UInt8.ofNat (n / 1024), UInt8.ofNat (n / 4)] else none
  | [a, b] => do
    let n := (← value? a) * 64 + (← value? b)
    if n % 16 = 0 then return [UInt8.ofNat (n / 16)] else none
  | [_] => none
  | [] => some []

theorem value?_digit : ∀ n < 64, value? (digit n) = some n := by decide

/-- What is written reads back. -/
theorem decode?_encode (bs : List UInt8) : decode? (encode bs) = some bs := by
  fun_induction encode bs with
  | case1 a b c rest n ih =>
    have ha := a.toNat_lt; have hb := b.toNat_lt; have hc := c.toNat_lt
    have h1 : n / 262144 < 64 := by omega
    have hn : (n / 262144 * 64 + n / 4096 % 64) * 4096 + n / 64 % 64 * 64 + n % 64 = n := by omega
    have ea : UInt8.ofNat (n / 65536) = a := by
      rw [show n / 65536 = a.toNat by omega, UInt8.ofNat_toNat]
    have eb : UInt8.ofNat (n / 256) = b := by
      apply UInt8.toNat.inj
      rw [UInt8.toNat_ofNat']
      omega
    have ec : UInt8.ofNat n = c := by
      apply UInt8.toNat.inj
      rw [UInt8.toNat_ofNat']
      omega
    simp only [decode?, value?_digit _ h1, value?_digit _ (Nat.mod_lt _ (by decide : 0 < 64)), ih,
      Option.bind_eq_bind, Option.bind_some, Option.pure_def, hn, ea, eb, ec]
  | case2 a b n =>
    have ha := a.toNat_lt; have hb := b.toNat_lt
    have h1 : n / 1024 < 64 := by omega
    have h3 : n % 16 * 4 < 64 := by omega
    have hn : (n / 1024 * 64 + n / 16 % 64) * 64 + n % 16 * 4 = 4 * n := by omega
    have ea : UInt8.ofNat (4 * n / 1024) = a := by
      rw [show 4 * n / 1024 = a.toNat by omega, UInt8.ofNat_toNat]
    have eb : UInt8.ofNat (4 * n / 4) = b := by
      apply UInt8.toNat.inj
      rw [UInt8.toNat_ofNat']
      omega
    simp only [decode?, value?_digit _ h1, value?_digit _ h3,
      value?_digit _ (Nat.mod_lt _ (by decide : 0 < 64)), Option.bind_eq_bind, Option.bind_some,
      Option.pure_def, hn, ea, eb]
    rw [if_pos (by omega)]
  | case3 a =>
    have ha := a.toNat_lt
    have h1 : a.toNat / 4 < 64 := by omega
    have h2 : a.toNat % 4 * 16 < 64 := by omega
    have hn : a.toNat / 4 * 64 + a.toNat % 4 * 16 = 16 * a.toNat := by omega
    have ea : UInt8.ofNat (16 * a.toNat / 16) = a := by
      rw [show 16 * a.toNat / 16 = a.toNat by omega, UInt8.ofNat_toNat]
    simp only [decode?, value?_digit _ h1, value?_digit _ h2, Option.bind_eq_bind, Option.bind_some,
      Option.pure_def, hn, ea]
    rw [if_pos (by omega)]
  | case4 => rfl

end ItemCatalog.Base64Url
