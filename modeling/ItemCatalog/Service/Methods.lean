import ItemCatalog.Service.Basic

/-!
# The methods of the service

What each of the five methods does with a request. All checks come before storage is asked for
anything, an item that is to be changed is read in the same unit of work that changes it, and the
answer to a write is what the commit says it wrote.
-/

namespace ItemCatalog.Service

/-! ## Creation -/

/-- Answers with the item that was created. -/
def created (id : Identifier) (written : List Item) : Serving (Except Failure ItemReply) :=
  match writtenItem id written with
  | some item => do
    Serving.event .info "Successfully created item" [("id", item.id.text)]
    return .ok ⟨some (.ofItem item)⟩
  | none =>
    return .error (.storage .create "An unexpected error occurred while creating the entity."
      (some "commit did not return the inserted item"))

/-- Stores a new item. -/
def insert (call : Call) (name : String) : Serving (Except Failure ItemReply) := do
  Serving.event .debug "Creating item" (("name", name) :: userField call)
  start
  let id ← save name
  match ← commit .create with
  | .error e =>
    breakOff .create "Failed to save entity to database." .error "Database error creating item" [] e
  | .ok written => created id written

/-- Creates an item with the trimmed name of a request. -/
def create (call : Call) (request : ItemMessage) : Serving (Except Failure ItemReply) := do
  enter "create_item" .create call []
  match request.checkCreate with
  | .error failure => reject .createItem [("name", request.name)] failure
  | .ok () => insert call (Text.trim request.name)

/-! ## Pages -/

/-- The fields of a window in the log. -/
def windowFields (window : Window) : List Log.Field :=
  [("start_page", toString window.startPage.toNat), ("page_size", toString window.pageSize.toNat)]

/-- The fields of a page query in the log. -/
def queryFields (query : PageQuery) : List Log.Field :=
  [("start_page", toString query.startPage.toInt), ("page_size", toString query.pageSize.toInt)]

/-- Reads the items in a window. -/
def list (window : Window) : Serving (Except Failure PageReply) := do
  Serving.event .debug "Fetching items" (windowFields window)
  start
  match ← page window with
  | .error e =>
    breakOff .read "Failed to retrieve entities from database." .error
      "Database error fetching items" (windowFields window) e
  | .ok found => do
    Serving.event .info "Fetched items"
      [("count", toString found.items.length), ("total", toString found.total)]
    return .ok (.ofPage found window)

/-- Reads the page that a query asks for. -/
def getPage (call : Call) (query : PageQuery) : Serving (Except Failure PageReply) := do
  enter "get_items" .read call []
  match query.check with
  | .error failure => reject .getItems (queryFields query) failure
  | .ok () => list query.window

/-! ## Single items -/

/-- Reads an item. -/
def read (id : Identifier) : Serving (Except Failure ItemReply) := do
  start
  match ← find id with
  | .error e =>
    breakOff .read "Failed to retrieve entity from database." .error "Database error fetching item"
      [] e
  | .ok none => notFound "Item not found" id
  | .ok (some item) => do
    Serving.event .debug "Found item" [("name", item.name)]
    return .ok ⟨some (.ofItem item)⟩

/-- Reads the item of a key. -/
def getOne (call : Call) (key : ItemKey) : Serving (Except Failure ItemReply) := do
  enter "get_item" .read call [("id", key.id)]
  match Identifier.require key.id Field.id with
  | .error failure => reject .getItem [] failure
  | .ok id => read id

/-! ## Renaming -/

/-- What the caller is told whose item was changed by someone else meanwhile. -/
def conflictMessage : String :=
  "The entity was modified by another user. Please refresh and try again."

/-- Fails an update whose commit failed. A conflict is the caller's to solve. -/
def updateFailed (error : Storage.Error) : Serving (Except Failure ItemReply) :=
  match error with
  | .conflict _ =>
    breakOff .update conflictMessage .warn "Concurrency conflict updating item" [] error
  | _ =>
    breakOff .update "Failed to update entity in database." .error "Database error updating item" []
      error

/-- Answers with the item that was renamed. -/
def renamed (id : Identifier) (oldName : String) (written : List Item) :
    Serving (Except Failure ItemReply) :=
  match writtenItem id written with
  | some item => do
    Serving.event .info "Updated item" [("old_name", oldName), ("new_name", item.name)]
    return .ok ⟨some (.ofItem item)⟩
  | none =>
    return .error (.storage .update "An unexpected error occurred while updating the entity."
      (some "commit did not return the updated item"))

/-- Gives an item another name. If it has that name already, nothing is written. -/
def rename (id : Identifier) (item : Item) (name : String) :
    Serving (Except Failure ItemReply) :=
  if item.name = name then do
    Serving.event .debug "No changes detected" []
    return .ok ⟨some (.ofItem item)⟩
  else do
    stageUpdate { item with name := name }
    match ← commit .update with
    | .error e => updateFailed e
    | .ok written => renamed id item.name written

/-- Renames the item that is stored under an identifier. -/
def renameStored (id : Identifier) (name : String) : Serving (Except Failure ItemReply) := do
  start
  match ← find id with
  | .error e =>
    breakOff .update "An unexpected error occurred while updating the entity." .error
      "Unexpected error updating item" [] e
  | .ok none => notFound "Item not found for update" id
  | .ok (some item) => rename id item name

/-- The identifier in an update that passes its checks. -/
def updateTarget (request : ItemMessage) : Except Failure Identifier :=
  match request.checkUpdate with
  | .error failure => .error failure
  | .ok () => Identifier.require request.id Field.id

/-- Gives an item the trimmed name of a request. -/
def update (call : Call) (request : ItemMessage) : Serving (Except Failure ItemReply) := do
  enter "update_item" .update call [("id", request.id)]
  match updateTarget request with
  | .error failure => reject .updateItem [] failure
  | .ok id => renameStored id (Text.trim request.name)

/-! ## Deletion -/

/-- Deletes an item at the version that was read. -/
def erase (item : Item) : Serving (Except Failure DeleteReply) := do
  stageDelete item
  match ← commit .delete with
  | .error e =>
    breakOff .delete "Failed to delete entity from database." .error "Database error deleting item"
      [] e
  | .ok _ => do
    Serving.event .info "Deleted item" [("name", item.name)]
    return .ok ⟨true⟩

/-- Deletes the item that is stored under an identifier. -/
def eraseStored (id : Identifier) : Serving (Except Failure DeleteReply) := do
  start
  match ← find id with
  | .error e =>
    breakOff .delete "An unexpected error occurred while deleting the entity." .error
      "Unexpected error deleting item" [] e
  | .ok none => notFound "Item not found for deletion" id
  | .ok (some item) => erase item

/-- Deletes the item of a key. -/
def delete (call : Call) (key : ItemKey) : Serving (Except Failure DeleteReply) := do
  enter "delete_item" .delete call [("id", key.id)]
  match Identifier.require key.id Field.id with
  | .error failure => reject .deleteItem [] failure
  | .ok id => eraseStored id

end ItemCatalog.Service
