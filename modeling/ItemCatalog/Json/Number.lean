import ItemCatalog.Json.Reader

/-!
# Numbers in words

A reader that wants the value of a number gathers its digits into a word of 64 bits and a power of
ten, and fails if the two are beyond the range of 64-bit floating point. It notices most of these
numbers at their end, and one kind before: an exponent that outgrows a word of its own.
-/

namespace ItemCatalog.Json

/-- How far a reader gets in a value. -/
inductive Progress
  /-- The value is read. -/
  | complete
  /-- The reader fails, but has passed over the whole of the value. -/
  | passed
  /-- The reader fails within the value, and whoever reads on finds the rest of it. -/
  | stuck
deriving DecidableEq

/-- The digits of a number before its point, between its point and its exponent, and of its
exponent, and whether that is negative. -/
structure Figures where
  whole : List UInt8
  fraction : List UInt8
  exponent : List UInt8
  lowers : Bool
deriving DecidableEq

/-- What a digit stands for. -/
def digit (d : UInt8) : Nat := d.toNat - 0x30

/-- The number that digits stand for. -/
def decimal (ds : List UInt8) : Nat := ds.foldl (fun n d => 10 * n + digit d) 0

/-- The largest number of the word that digits are gathered in. -/
def maxSignificand : Nat := 18446744073709551615

/-- Digits at the end of a number, as many as it can take, and those that are left. -/
def gather (n : Nat) : List UInt8 → Nat × List UInt8
  | [] => (n, [])
  | d :: ds =>
    if 10 * n + digit d ≤ maxSignificand then gather (10 * n + digit d) ds else (n, d :: ds)

/-- The largest exponent that is read as a number. -/
def maxExponent : Nat := 2147483647

/-- The largest power of ten within the range of floating point. -/
def maxPower : Int := 308

/-- The place value of the last of the 53 leading bits of a number. -/
def lastPlace (n : Nat) : Nat := Nat.pow 2 (n.log2 - 52)

/-- The nearest number of at most 53 significant bits, of two such the one with an even last
bit. -/
def nearest (n : Nat) : Nat :=
  let low := n / lastPlace n
  let rest := n % lastPlace n
  if 2 * rest < lastPlace n || (2 * rest == lastPlace n && low % 2 == 0) then low * lastPlace n
  else (low + 1) * lastPlace n

/-- Products from here on round to infinity: half-way from the largest number to the next power of
two. -/
def infinity : Nat := Nat.pow 2 1024 - Nat.pow 2 970

/-- Whether a number that is not zero times a power of ten, both in floating point, is infinite. -/
def isInfinite (n : Nat) (power : Int) : Bool :=
  maxPower < power || (0 ≤ power && infinity ≤ nearest n * nearest (Nat.pow 10 power.toNat))

namespace Figures

/-- The figures of a number. -/
def ofNumber (bs : List UInt8) : Figures :=
  let (mantissa, power) := (bs.dropWhile (· == 0x2D)).span fun b => b != 0x65 && b != 0x45
  let (whole, fraction) := mantissa.span isDigit
  { whole := whole
    fraction := fraction.drop 1
    exponent := power.filter isDigit
    lowers := (power.drop 1).head? == some 0x2D }

/-- The word that the digits before the exponent are gathered in, and the power of ten that it is
to be taken times. Digits that the word cannot take count before the point only. -/
def significand (f : Figures) : Nat × Int :=
  let (n, left) := gather 0 f.whole
  let (n', left') := gather n f.fraction
  (n', left.length + left'.length - f.fraction.length)

/-- The power of ten with the exponent. -/
def power (f : Figures) : Int :=
  if f.lowers then f.significand.2 - decimal f.exponent else f.significand.2 + decimal f.exponent

/-- How far a number is read. An exponent that is too large and has something to raise is noticed
at the digit with which it becomes too large. -/
def progress (f : Figures) : Progress :=
  if f.significand.1 = 0 then .complete
  else if decimal f.exponent ≤ maxExponent then
    if isInfinite f.significand.1 f.power then .passed else .complete
  else if f.lowers then .complete
  else if decimal f.exponent.dropLast ≤ maxExponent then .passed
  else .stuck

end Figures
end ItemCatalog.Json
