import ItemCatalog.Identifier
import ItemCatalog.Instant

/-!
# Items

The entity that the catalogue keeps.
-/

namespace ItemCatalog

/-- A stored item. Its version counts the committed writes and never leaves the server; it has no
modification time until the first of them after its creation. -/
structure Item where
  id : Identifier
  name : String
  createdAt : Instant
  updatedAt : Option Instant
  version : Int
deriving DecidableEq

namespace Item

/-- The name under which failures mention this kind of entity. -/
def entityType : String := "Item"

/-- An item as it stands after its insertion. -/
def created (id : Identifier) (name : String) (now : Instant) : Item where
  id := id
  name := name
  createdAt := now
  updatedAt := none
  version := 1

/-- The modification time of an item created at `createdAt`, which is never before its creation,
even if the clock went back. -/
def modificationTime (now createdAt : Instant) : Instant := now.latest createdAt

/-- A staged item as it stands after its update. -/
def updated (item : Item) (now : Instant) : Item :=
  { item with
    updatedAt := some (modificationTime now item.createdAt)
    version := item.version + 1 }

/-- Items are listed by creation time, then by identifier. -/
def listedBefore (a b : Item) : Bool :=
  if a.createdAt = b.createdAt then a.id.le b.id else a.createdAt.le b.createdAt

end Item
end ItemCatalog
