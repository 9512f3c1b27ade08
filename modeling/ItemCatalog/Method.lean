import ItemCatalog.Call
import ItemCatalog.Effect
import ItemCatalog.Message.Basic

/-!
# Methods

The five methods of the service, what each is asked and what it answers, and the opening of a call
to one of them.
-/

namespace ItemCatalog

/-- The full name of the service. -/
def serviceName : String := "itemstore.v1.ItemService"

/-- The path of a method of the service. -/
def methodPath (method : String) : String := "/" ++ serviceName ++ "/" ++ method

/-- The methods of the service. -/
inductive Method
  | createItem
  | getItems
  | getItem
  | updateItem
  | deleteItem
deriving DecidableEq

namespace Method

/-- The name of a method. -/
def name : Method → String
  | createItem => "CreateItem"
  | getItems => "GetItems"
  | getItem => "GetItem"
  | updateItem => "UpdateItem"
  | deleteItem => "DeleteItem"

/-- The path of a method. -/
def path (method : Method) : String := methodPath method.name

/-- The message that a method is called with. -/
def Query : Method → Type
  | createItem => ItemMessage
  | getItems => PageQuery
  | getItem => ItemKey
  | updateItem => ItemMessage
  | deleteItem => ItemKey

/-- The message that a method answers with. -/
def Answer : Method → Type
  | createItem => ItemReply
  | getItems => PageReply
  | getItem => ItemReply
  | updateItem => ItemReply
  | deleteItem => DeleteReply

end Method

/-- Opens a call: a correlation identifier that the caller does not supply is drawn at random. -/
def Call.opened (method : String) (metadata : Metadata) : Serving Call :=
  match metadata.correlationId? with
  | some id => return .start method metadata id
  | none => do
    let id ← Serving.freshIdentifier
    return .start method metadata id

end ItemCatalog
