/-!
# Entropy

A source of random bits as a value: a list of them, then one, two, three and so on.
-/

namespace ItemCatalog

/-- The random values still to come: first those listed, then numbers counted up from `next`. -/
structure Entropy where
  listed : List (BitVec 128) := []
  next : Nat := 1

/-- Takes the next value. -/
def Entropy.draw : Entropy → BitVec 128 × Entropy
  | ⟨value :: rest, next⟩ => (value, ⟨rest, next⟩)
  | ⟨[], next⟩ => (BitVec.ofNat 128 next, ⟨[], next + 1⟩)

end ItemCatalog
