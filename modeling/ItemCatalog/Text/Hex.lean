/-!
# Hexadecimal digits

Numbers written with a fixed count of lower-case digits, and read back in either case. Main
statement: what `encode` writes with enough digits, `decode?` reads back.
-/

namespace ItemCatalog.Text.Hex

/-- The lower-case digit of a value below sixteen. -/
def digit (n : Nat) : Char :=
  if n < 10 then Char.ofNat (48 + n) else Char.ofNat (87 + n)

/-- The value of a digit in either case. -/
def value? (c : Char) : Option Nat :=
  let n := c.toNat
  if 48 ≤ n ∧ n ≤ 57 then some (n - 48)
  else if 97 ≤ n ∧ n ≤ 102 then some (n - 87)
  else if 65 ≤ n ∧ n ≤ 70 then some (n - 55)
  else none

/-- The last `width` digits of a number, most significant first. -/
def encode : (width value : Nat) → List Char
  | 0, _ => []
  | width + 1, value => encode width (value / 16) ++ [digit (value % 16)]

/-- Appends one digit to a number read so far. -/
def push (acc : Nat) (c : Char) : Option Nat := (value? c).map (acc * 16 + ·)

/-- The number that a list of digits denotes. -/
def decode? (cs : List Char) : Option Nat := cs.foldlM push 0

@[simp] theorem length_encode (w v : Nat) : (encode w v).length = w := by
  induction w generalizing v with
  | zero => rfl
  | succ w ih => simp [encode, ih]

theorem value?_digit : ∀ n < 16, value? (digit n) = some n := by decide

/-- The digits written for a number read back as that number, less what did not fit. -/
theorem decode?_encode (w v : Nat) : decode? (encode w v) = some (v % Nat.pow 16 w) := by
  induction w generalizing v with
  | zero => simp [encode, decode?, Nat.pow, Nat.mod_one]
  | succ w ih =>
    have hd : value? (digit (v % 16)) = some (v % 16) := value?_digit _ (Nat.mod_lt _ (by decide))
    have he : v / 16 % Nat.pow 16 w * 16 + v % 16 = v % Nat.pow 16 (w + 1) := by
      have hp : Nat.pow 16 (w + 1) = 16 * Nat.pow 16 w := Nat.mul_comm _ _
      rw [hp, Nat.mod_mul, Nat.add_comm, Nat.mul_comm]
    have hi : (encode w (v / 16)).foldlM push 0 = some (v / 16 % Nat.pow 16 w) := ih (v / 16)
    simp only [encode, decode?, List.foldlM_append, hi, Option.bind_eq_bind, Option.bind_some,
      List.foldlM_cons, List.foldlM_nil, push, hd, Option.map_some, Option.pure_def, he]

end ItemCatalog.Text.Hex
