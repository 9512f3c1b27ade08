import ItemCatalog.Log
import ItemCatalog.Storage.Table

/-!
# Opening and closing storage

What the log says when items are kept in memory, and how long the server waits for storage to let
go of its connections when it stops.
-/

namespace ItemCatalog.Storage

/-- What the log says of a table that nothing outlives. -/
def memoryEntry : Log.Entry :=
  .event .warn "Using in-memory storage; data will not survive a restart" []

/-- Opens an empty table. -/
def Table.opened : Table × List Log.Entry := (.empty, [memoryEntry])

/-- Whether storage that needs `needed` milliseconds to close, or never closes, does so within
`grace`. -/
def closesWithin (needed : Option Nat) (grace : Nat) : Bool := needed.any (· ≤ grace)

/-- What the log says of the attempt. -/
def closingEntries (needed : Option Nat) (grace : Nat) : List Log.Entry :=
  if closesWithin needed grace then []
  else
    [.event .warn "Storage did not release its connections in time"
      [("grace_secs", toString (grace / 1000))]]

end ItemCatalog.Storage
