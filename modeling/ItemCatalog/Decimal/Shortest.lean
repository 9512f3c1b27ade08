/-!
# Shortest decimals

The decimal with the fewest digits that reads back as a given binary number, and of those the
nearest to it. A binary number stands for every real that rounds to it: half a step to either
side, the ends included when its mantissa is even.
-/

namespace ItemCatalog.Decimal

/-- A positive number `mantissa · 2 ^ exponent`, and whether it is the smallest of its binade, so
that the step below it is half the step above. -/
structure Binary where
  mantissa : Nat
  exponent : Int
  edge : Bool

/-- A decimal `digits · 10 ^ exponent`. -/
structure Numeral where
  digits : Nat
  exponent : Int

/-- A power of two, or one for a negative exponent. -/
def twos (p : Int) : Nat := Nat.pow 2 p.toNat

/-- A power of ten, or one for a negative exponent. -/
def tens (q : Int) : Nat := Nat.pow 10 q.toNat

/-- Whether `a · 2 ^ p` is at most `b · 10 ^ q`. -/
def binaryLe (a : Nat) (p : Int) (b : Nat) (q : Int) : Bool :=
  a * twos p * tens (-q) ≤ b * tens q * twos (-p)

/-- Whether `b · 10 ^ q` is at most `a · 2 ^ p`. -/
def decimalLe (b : Nat) (q : Int) (a : Nat) (p : Int) : Bool :=
  b * tens q * twos (-p) ≤ a * twos p * tens (-q)

namespace Binary

/-- The lower end of the reals that round to a number, in quarter steps. -/
def low (x : Binary) : Nat := if x.edge then 4 * x.mantissa - 1 else 4 * x.mantissa - 2

/-- The upper end of the reals that round to a number, in quarter steps. -/
def high (x : Binary) : Nat := 4 * x.mantissa + 2

/-- Whether a decimal rounds to a number. -/
def readsBack (x : Binary) (d : Numeral) : Bool :=
  let closed := x.mantissa % 2 == 0
  let p := x.exponent - 2
  if closed then binaryLe x.low p d.digits d.exponent && decimalLe d.digits d.exponent x.high p
  else !decimalLe d.digits d.exponent x.low p && !binaryLe x.high p d.digits d.exponent

/-- The whole part of a number divided by `10 ^ q`. -/
def quotient (x : Binary) (q : Int) : Nat :=
  x.mantissa * twos x.exponent * tens (-q) / (twos (-x.exponent) * tens q)

/-- The place of the leading decimal digit, counted down from `start` while the number is
smaller. -/
def leadingPlace (x : Binary) : (steps : Nat) → (start : Int) → Int
  | 0, q => q
  | steps + 1, q => if x.quotient q = 0 then leadingPlace x steps (q - 1) else q

/-- Whether a number is nearer to the lower of two neighbours on a decimal grid, a tie going to
the even one. -/
def nearerBelow (x : Binary) (d : Nat) (q : Int) : Bool :=
  let twice := 2 * d + 1
  let p := x.exponent + 1
  if decimalLe twice q x.mantissa p then
    binaryLe x.mantissa p twice q && d % 2 == 0
  else true

/-- The grid point next to a number that rounds to it, if there is one. -/
def onGrid? (x : Binary) (q : Int) : Option Numeral :=
  let d := x.quotient q
  let below : Numeral := ⟨d, q⟩
  let above : Numeral := ⟨d + 1, q⟩
  match x.readsBack below && d != 0, x.readsBack above with
  | true, true => some (if x.nearerBelow d q then below else above)
  | true, false => some below
  | false, true => some above
  | false, false => none

/-- The shortest decimal that rounds to a number: grids are tried from coarse to fine. -/
def shortest (x : Binary) : Numeral :=
  let top := x.leadingPlace 700 309
  ((List.range 18).findSome? fun (n : Nat) => x.onGrid? (top + 1 - n)).getD
    ⟨x.quotient (top - 17), top - 17⟩

end Binary

/-- The positive finite number with the given bits in the 64-bit format. -/
def ofBits (bits : UInt64) : Binary :=
  let fraction := (bits &&& 0xFFFFFFFFFFFFF).toNat
  let biased := ((bits >>> 52) &&& 0x7FF).toNat
  if biased = 0 then ⟨fraction, -1074, false⟩
  else ⟨fraction + 0x10000000000000, (biased : Int) - 1075, fraction == 0 && 1 < biased⟩

/-- Digits and a point, without an exponent: whole numbers have no point. -/
def plain (d : Numeral) : String :=
  let ds := (toString d.digits).toList
  if 0 ≤ d.exponent then String.ofList (ds ++ List.replicate d.exponent.toNat '0')
  else
    let places := (-d.exponent).toNat
    let padded := List.replicate (places + 1 - ds.length) '0' ++ ds
    let whole := padded.take (padded.length - places)
    let fraction := padded.drop (padded.length - places)
    let trimmed := (fraction.reverse.dropWhile (· == '0')).reverse
    if trimmed.isEmpty then String.ofList whole
    else String.ofList (whole ++ '.' :: trimmed)

/-- The shortest positional text of a number that is neither negative nor infinite. -/
def text (x : Float) : String :=
  if x == 0 then "0" else plain (ofBits x.toBits).shortest

end ItemCatalog.Decimal
