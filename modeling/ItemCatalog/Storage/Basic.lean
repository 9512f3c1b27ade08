import ItemCatalog.Item
import ItemCatalog.Page

/-!
# Storage

What a unit of work asks of storage. Reads are answered at once; writes are staged and applied all
together by a commit, or not at all. A commit that finds an item at another version than the one
it was read at fails with a conflict.
-/

namespace ItemCatalog.Storage

/-- Why storage failed. -/
inductive Error
  /-- The item changed or disappeared since it was read. -/
  | conflict (id : Identifier)
  | database (message : String)
  | migration (message : String)
  | unavailable (message : String)
deriving DecidableEq

/-- The wording of a failure. -/
def Error.message : Error → String
  | .conflict id => "item " ++ id.text ++ " was modified concurrently"
  | .database message => "database error: " ++ message
  | .migration message => "migration failed: " ++ message
  | .unavailable message => "storage unavailable: " ++ message

/-- A staged write. -/
inductive Change
  | insert (id : Identifier) (name : String)
  | update (item : Item)
  | delete (item : Item)
deriving DecidableEq

/-- The identifier of the item that a change is about. -/
def Change.id : Change → Identifier
  | .insert id _ => id
  | .update item => item.id
  | .delete item => item.id

/-- What a unit of work may ask. -/
inductive Request
  /-- Starts a unit of work with nothing staged. -/
  | start
  /-- Stages a new item and returns its identifier. -/
  | save (name : String)
  | find (id : Identifier)
  | page (window : Window)
  /-- Stages new values for an item. -/
  | update (item : Item)
  /-- Stages the removal of an item. -/
  | delete (item : Item)
  /-- Applies what is staged and returns every inserted or updated item as it is stored. -/
  | commit
  /-- The number of stored items. -/
  | count
deriving DecidableEq

/-- The kind of answer that a request has. -/
def Request.Answer : Request → Type
  | .start => Unit
  | .save _ => Identifier
  | .find _ => Except Error (Option Item)
  | .page _ => Except Error (Page Item)
  | .update _ => Unit
  | .delete _ => Unit
  | .commit => Except Error (List Item)
  | .count => Except Error Nat

/-- A store with its state: how it answers reads, and what a commit of staged changes at a given
time does. -/
structure Backend (σ : Type) where
  find : Identifier → σ → Except Error (Option Item) × σ
  page : Window → σ → Except Error (Page Item) × σ
  commit : Instant → List Change → σ → Except Error (List Item) × σ
  count : σ → Except Error Nat × σ

/-- One request of a unit of work: `staged` is what it has staged so far, `fresh` the identifier
that a new item gets. Staging is the same for every store, and a commit leaves nothing staged,
whether it succeeds or not. -/
def Backend.respond {σ : Type} (b : Backend σ) (now : Instant) (fresh : Identifier) :
    (r : Request) → List Change → σ → r.Answer × List Change × σ
  | .start, _, s => ((), [], s)
  | .save name, staged, s => (fresh, staged ++ [.insert fresh name], s)
  | .find id, staged, s => ((b.find id s).1, staged, (b.find id s).2)
  | .page window, staged, s => ((b.page window s).1, staged, (b.page window s).2)
  | .update item, staged, s => ((), staged ++ [.update item], s)
  | .delete item, staged, s => ((), staged ++ [.delete item], s)
  | .commit, staged, s => ((b.commit now staged s).1, [], (b.commit now staged s).2)
  | .count, staged, s => ((b.count s).1, staged, (b.count s).2)

/-- Whether a request uses up a random value. -/
def Request.draws : Request → Bool
  | .save _ => true
  | _ => false

end ItemCatalog.Storage
