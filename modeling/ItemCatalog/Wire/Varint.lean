/-!
# Varints

Numbers below 2^64 in as few bytes as they need: seven bits a byte, the lowest first, and a mark on
every byte but the last. Main statement: what is written reads back, whatever follows it.
-/

namespace ItemCatalog.Wire.Varint

/-- Writes a number. -/
def write (n : Nat) : List UInt8 :=
  if n < 128 then [UInt8.ofNat n] else UInt8.ofNat (n % 128 + 128) :: write (n / 128)

/-- Reads a number whose first `seen` bytes have been read already. A tenth byte holds one bit, and
there is no eleventh. -/
def readFrom (seen : Nat) : List UInt8 → Option (Nat × List UInt8)
  | [] => none
  | b :: rest =>
    if b.toNat < 128 then
      if seen = 9 ∧ 1 < b.toNat then none else some (b.toNat, rest)
    else if seen = 9 then none
    else (readFrom (seen + 1) rest).map fun (n, rest) => (b.toNat - 128 + 128 * n, rest)

/-- Reads a number and returns what follows it. -/
def read? (bs : List UInt8) : Option (Nat × List UInt8) := readFrom 0 bs

/-- The numbers that `9 - seen` bytes and a bit can hold are read back. -/
theorem readFrom_write (seen : Nat) (h : seen ≤ 9) (n : Nat)
    (hn : n < 2 * Nat.pow 128 (9 - seen)) (rest : List UInt8) :
    readFrom seen (write n ++ rest) = some (n, rest) := by
  induction hk : 9 - seen generalizing seen n with
  | zero =>
    have hs : seen = 9 := by omega
    subst hs
    rw [hk] at hn
    have h2 : n < 2 := by simpa using hn
    have hb : (UInt8.ofNat n).toNat = n := by rw [UInt8.toNat_ofNat']; omega
    rw [write, if_pos (by omega), List.singleton_append, readFrom, hb, if_pos (by omega),
      if_neg (by omega)]
  | succ k ih =>
    rw [write]
    split
    · rename_i hlt
      have hb : (UInt8.ofNat n).toNat = n := by rw [UInt8.toNat_ofNat']; omega
      rw [List.singleton_append, readFrom, hb, if_pos hlt, if_neg (by omega)]
    · have hb : (UInt8.ofNat (n % 128 + 128)).toNat = n % 128 + 128 := by
        rw [UInt8.toNat_ofNat']; omega
      have hd : n / 128 < 2 * Nat.pow 128 (9 - (seen + 1)) := by
        have hp : Nat.pow 128 (9 - seen) = Nat.pow 128 (9 - (seen + 1)) * 128 := by
          rw [show 9 - seen = (9 - (seen + 1)) + 1 by omega]
          rfl
        apply Nat.div_lt_of_lt_mul
        omega
      rw [List.cons_append, readFrom, hb, if_neg (by omega), if_neg (by omega),
        ih (seen + 1) (by omega) (n / 128) hd (by omega), Option.map_some]
      have hs : n % 128 + 128 - 128 + 128 * (n / 128) = n := by omega
      simp only [hs]

/-- What is written reads back, whatever follows it. -/
theorem read?_write {n : Nat} (h : n < UInt64.size) (rest : List UInt8) :
    read? (write n ++ rest) = some (n, rest) :=
  readFrom_write 0 (by decide) n (by simpa using h) rest

end ItemCatalog.Wire.Varint
