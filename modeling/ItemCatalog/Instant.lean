/-!
# Instants

Points in time as seconds and nanoseconds since 1970. A nanosecond part from one thousand million
up belongs to a leap second.
-/

namespace ItemCatalog

/-- A point in time. -/
structure Instant where
  seconds : Int64
  nanos : Fin 2000000000
deriving DecidableEq

namespace Instant

/-- Instants are ordered by their seconds, then by their nanoseconds. -/
def le (a b : Instant) : Bool :=
  a.seconds.toInt < b.seconds.toInt || (a.seconds.toInt == b.seconds.toInt && a.nanos ≤ b.nanos)

/-- The later of two instants. -/
def latest (a b : Instant) : Instant := if a.le b then b else a

/-- Time passed in nanoseconds since 1970, a leap second counted as running on. -/
def nanosSinceEpoch (a : Instant) : Int := a.seconds.toInt * 1000000000 + a.nanos.val

/-- The instant a number of seconds later, at the same place within its second. -/
def plusSeconds (a : Instant) (n : Int64) : Instant := { a with seconds := a.seconds + n }

theorem le_refl (a : Instant) : a.le a = true := by simp [le]

theorem le_total (a b : Instant) : a.le b = true ∨ b.le a = true := by
  simp only [le, Bool.or_eq_true, Bool.and_eq_true, decide_eq_true_eq, beq_iff_eq]
  omega

theorem le_trans {a b c : Instant} (h : a.le b = true) (k : b.le c = true) : a.le c = true := by
  simp only [le, Bool.or_eq_true, Bool.and_eq_true, decide_eq_true_eq, beq_iff_eq, Fin.le_def]
    at h k ⊢
  omega

theorem le_antisymm {a b : Instant} (h : a.le b = true) (k : b.le a = true) : a = b := by
  simp only [le, Bool.or_eq_true, Bool.and_eq_true, decide_eq_true_eq, beq_iff_eq, Fin.le_def]
    at h k
  have hs : a.seconds.toInt = b.seconds.toInt := by omega
  have hn : a.nanos = b.nanos := Fin.ext (by omega)
  cases a; cases b
  simp_all [Int64.toInt_inj]

theorem le_latest_right (a b : Instant) : b.le (latest a b) = true := by
  unfold latest
  split
  · exact le_refl b
  · exact (le_total a b).resolve_left ‹_›

theorem le_latest_left (a b : Instant) : a.le (latest a b) = true := by
  unfold latest
  split
  · assumption
  · exact le_refl a

end Instant
end ItemCatalog
