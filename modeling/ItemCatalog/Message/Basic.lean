import ItemCatalog.Item
import ItemCatalog.Page

/-!
# Messages

What callers and the service say to each other.
-/

namespace ItemCatalog

/-- A point in time inside a message. -/
structure Timestamp where
  seconds : Int64
  nanos : Int32
deriving DecidableEq

/-- An instant inside a message. -/
def Timestamp.ofInstant (at' : Instant) : Timestamp where
  seconds := at'.seconds
  nanos := Int32.ofNat at'.nanos.val

/-- An item inside a message. The times are output only. -/
structure ItemMessage where
  id : String := ""
  name : String := ""
  createdAt : Option Timestamp := none
  updatedAt : Option Timestamp := none
deriving DecidableEq

/-- A stored item inside a message. -/
def ItemMessage.ofItem (item : Item) : ItemMessage where
  id := item.id.text
  name := item.name
  createdAt := some (.ofInstant item.createdAt)
  updatedAt := item.updatedAt.map .ofInstant

/-- Asks for a page of items. -/
structure PageQuery where
  startPage : Int32 := 0
  pageSize : Int32 := 0
deriving DecidableEq

/-- Names an item to read or to delete. -/
structure ItemKey where
  id : String := ""
deriving DecidableEq

/-- Answers with an item. -/
structure ItemReply where
  item : Option ItemMessage := none
deriving DecidableEq

/-- Answers with a page of items. -/
structure PageReply where
  items : List ItemMessage := []
  totalElements : Int64 := 0
  totalPages : Int32 := 0
deriving DecidableEq

/-- Answers a deletion. -/
structure DeleteReply where
  deleted : Bool := false
deriving DecidableEq

/-- The largest total that a reply can state. -/
def PageReply.maxTotal : Nat := 9223372036854775807

/-- The largest number of pages that a reply can state. -/
def PageReply.maxPages : Nat := 2147483647

/-- A page of stored items in the size of its window; totals too large to state are cut off. -/
def PageReply.ofPage (page : Page Item) (window : Window) : PageReply where
  items := page.items.map .ofItem
  totalElements := Int64.ofNat (min page.total maxTotal)
  totalPages := Int32.ofNat (min (pageCount page.total window.pageSize.toNat) maxPages)

end ItemCatalog
