import ItemCatalog.Metrics.Basic

/-!
# Markers of calls in flight

A call is in flight from the taking of its marker to the marker's release. Markers are numbered in
the order in which they are taken; releasing one again does nothing.
-/

namespace ItemCatalog.Metrics

/-- Metrics with the markers taken so far, each in flight or released. -/
structure Guarded where
  metrics : Metrics
  inFlight : List Bool

namespace Guarded

/-- Nothing recorded and no marker taken. -/
def empty : Guarded := ⟨.empty, []⟩

/-- Records an event. -/
def record (g : Guarded) (e : Event) : Guarded := { g with metrics := g.metrics.record e }

/-- Takes the next marker. -/
def take (g : Guarded) : Guarded := ⟨g.metrics.record .enter, g.inFlight ++ [true]⟩

/-- Releases a marker. -/
def release (g : Guarded) (marker : Nat) : Guarded :=
  if g.inFlight[marker]? = some true then
    ⟨g.metrics.record .leave, g.inFlight.set marker false⟩
  else g

end Guarded
end ItemCatalog.Metrics
