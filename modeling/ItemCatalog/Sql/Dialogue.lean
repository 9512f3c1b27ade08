import ItemCatalog.Program
import ItemCatalog.Sql.Statement
import ItemCatalog.Storage.Basic

/-!
# Dialogues

How storage requests are carried out by sending statements one at a time and looking at each reply.
Writes happen inside a transaction, which is left by a rollback as soon as anything in it fails.
-/

namespace ItemCatalog.Sql

/-- The statements of a dialogue and their replies. -/
abbrev signature : Signature := ⟨Statement, Statement.Answer⟩

/-- A program that talks to a database. -/
abbrev Dialogue (α : Type) := Program signature α

open Storage (Error Change)

/-! ## Failures -/

/-- The failure of a statement. -/
def serverError (message : String) : Error :=
  .database ("error returned from database: " ++ message)

/-- The failure of a query that has to return a row. -/
def noRow : Error :=
  .database "no rows returned by a query that expected to return at least one row"

/-- The failure to read a column that holds nothing. -/
def unexpectedNull (column : String) : Error :=
  .database ("error occurred while decoding column " ++ column ++
    ": unexpected null; try decoding as an \x60Option\x60")

/-- The failure of anything that is asked of a closed pool. -/
def poolClosed : Error := .database "attempted to acquire a connection on a closed pool"

/-! ## Statements and replies -/

variable {α : Type}

/-- Sends a statement. -/
def send (s : Statement) : Dialogue s.Answer := Program.request (S := signature) s

/-- The item in a row. -/
def decode (row : Row) : Except Error Item :=
  match row.item with
  | .ok item => .ok item
  | .error column => .error (unexpectedNull ("\"" ++ column ++ "\""))

/-- The items in rows, if each of them holds one. -/
def decodeAll : List Row → Except Error (List Item)
  | [] => .ok []
  | row :: rest =>
    match decode row with
    | .error e => .error e
    | .ok item =>
      match decodeAll rest with
      | .error e => .error e
      | .ok items => .ok (item :: items)

/-- The item in the first row, if there is a row. -/
def firstItem? : Except String (List Row) → Except Error (Option Item)
  | .error message => .error (serverError message)
  | .ok [] => .ok none
  | .ok (row :: _) => (decode row).map some

/-- The item in the first row, which has to be there. -/
def firstItem (reply : Except String (List Row)) : Except Error Item :=
  match firstItem? reply with
  | .error e => .error e
  | .ok none => .error noRow
  | .ok (some item) => .ok item

/-- The items in all rows. -/
def allItems : Except String (List Row) → Except Error (List Item)
  | .error message => .error (serverError message)
  | .ok rows => decodeAll rows

/-- The number in the first row, which has to be there. -/
def firstCount : Except String (List (Option Int)) → Except Error Nat
  | .error message => .error (serverError message)
  | .ok [] => .error noRow
  | .ok (none :: _) => .error (unexpectedNull "0")
  | .ok (some n :: _) => .ok n.toNat

/-! ## Transactions -/

/-- Leaves a transaction without its effects. -/
def abandon (e : Error) : Dialogue (Except Error α) := do
  let _ ← send .rollback
  return .error e

/-- Ends a transaction with its effects. -/
def conclude (a : α) : Dialogue (Except Error α) := do
  match ← send .commit with
  | .error message => abandon (serverError message)
  | .ok () => return .ok a

/-- Runs something inside a transaction. -/
def transaction (body : Dialogue (Except Error α)) : Dialogue (Except Error α) := do
  match ← send .begin with
  | .error message => return .error (serverError message)
  | .ok () =>
    match ← body with
    | .error e => abandon e
    | .ok a => conclude a

/-! ## Reads -/

/-- Looks an item up. -/
def find (id : Identifier) : Dialogue (Except Error (Option Item)) := do
  let reply ← send (.selectOne id)
  return firstItem? reply

/-- Counts the items. -/
def count : Dialogue (Except Error Nat) := do
  let reply ← send .count
  return firstCount reply

/-- Reads the items in a window. -/
def windowItems (window : Window) : Dialogue (Except Error (List Item)) := do
  let reply ← send (.selectPage window.offset.toInt64 window.pageSize.toUInt64.toInt64)
  return allItems reply

/-- Reads a page and the number of all items. -/
def pageBody (window : Window) : Dialogue (Except Error (Page Item)) := do
  match ← send .isolate with
  | .error message => return .error (serverError message)
  | .ok () =>
    match ← windowItems window with
    | .error e => return .error e
    | .ok items =>
      match ← count with
      | .error e => return .error e
      | .ok total => return .ok ⟨items, total⟩

/-- Reads a page and the number of all items, as they are at one time. -/
def page (window : Window) : Dialogue (Except Error (Page Item)) := transaction (pageBody window)

/-! ## Writes -/

/-- The statement that carries out a staged change. -/
def statementOf (now : Instant) : Change → Statement
  | .insert id name => .insert id name now
  | .update item =>
    .update item.id item.name (Item.modificationTime now item.createdAt) item.version
  | .delete item => .delete item.id item.version

/-- What the reply to an update says; no row means that the item is no longer at its version. -/
def updated (id : Identifier) (reply : Except String (List Row)) : Except Error (Option Item) :=
  match firstItem? reply with
  | .error e => .error e
  | .ok none => .error (.conflict id)
  | .ok (some item) => .ok (some item)

/-- What the reply to a deletion says. -/
def deleted (id : Identifier) : Except String Nat → Except Error (Option Item)
  | .error message => .error (serverError message)
  | .ok 0 => .error (.conflict id)
  | .ok (_ + 1) => .ok none

/-- What the reply to the statement of a change says: the item that was stored, if any. -/
def outcomeOf (now : Instant) :
    (change : Change) → (statementOf now change).Answer → Except Error (Option Item)
  | .insert .., reply => (firstItem reply).map some
  | .update item, reply => updated item.id reply
  | .delete item, reply => deleted item.id reply

/-- Carries out one staged change. -/
def write (now : Instant) (change : Change) : Dialogue (Except Error (Option Item)) := do
  let reply ← send (statementOf now change)
  return outcomeOf now change reply

/-- Carries out staged changes in order, up to the first that fails, and returns what they
stored. -/
def writeAll (now : Instant) : List Change → Dialogue (Except Error (List Item))
  | [] => return .ok []
  | change :: rest => do
    match ← write now change with
    | .error e => return .error e
    | .ok stored =>
      match ← writeAll now rest with
      | .error e => return .error e
      | .ok items => return .ok (stored.toList ++ items)

/-- Commits staged changes. If there are none, nothing is sent. -/
def commit (now : Instant) (staged : List Change) : Dialogue (Except Error (List Item)) :=
  if staged.isEmpty then return .ok [] else transaction (writeAll now staged)

end ItemCatalog.Sql
