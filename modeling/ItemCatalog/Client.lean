import ItemCatalog.Method
import ItemCatalog.Status

/-!
# The client

The five calls of a client: the message of each, what becomes of its answer, and the token that
goes along with every one of them.
-/

namespace ItemCatalog

/-- A call that a client makes. -/
inductive Errand
  | create (name : String)
  | get (id : String)
  | update (id name : String)
  | delete (id : String)
  | page (startPage pageSize : Int32)
deriving DecidableEq

namespace Errand

/-- The method that a call is for. -/
def method : Errand → Method
  | create _ => .createItem
  | get _ => .getItem
  | update .. => .updateItem
  | delete _ => .deleteItem
  | page .. => .getItems

/-- The message that a call sends. -/
def query : (errand : Errand) → errand.method.Query
  | create name => ({ name } : ItemMessage)
  | get id => ({ id } : ItemKey)
  | update id name => ({ id, name } : ItemMessage)
  | delete id => ({ id } : ItemKey)
  | page startPage pageSize => ({ startPage, pageSize } : PageQuery)

/-- What a call returns. -/
def Gain : Errand → Type
  | create _ => ItemMessage
  | get _ => ItemMessage
  | update .. => ItemMessage
  | delete _ => Bool
  | page .. => PageReply

/-- The status of a call whose answer lacks its item. -/
def missingItem : Status where
  code := .internal
  message := "response did not contain an item"

/-- The item in a reply. -/
def takeItem (reply : ItemReply) : Except Status ItemMessage :=
  match reply.item with
  | some item => .ok item
  | none => .error missingItem

/-- What a call makes of its answer. -/
def take : (errand : Errand) → errand.method.Answer → Except Status errand.Gain
  | create _, reply => takeItem reply
  | get _, reply => takeItem reply
  | update .., reply => takeItem reply
  | delete _, reply => .ok (DeleteReply.deleted reply)
  | page .., reply => .ok reply

end Errand

/-- A client, with what it sends to say who it is. -/
structure Client where
  authorization : Option String := none
deriving DecidableEq

namespace Client

/-- What a client is told about a token that cannot be sent. -/
def tokenErrorMessage : String := "failed to parse metadata value"

/-- The client that sends a token, if it can be sent. -/
def withToken? (_ : Client) (token : String) : Option Client :=
  let value := "Bearer " ++ token
  if (Text.bytes value).all Metadata.isStorable then some ⟨some value⟩ else none

/-- What goes along with every call. -/
def metadata (client : Client) : Metadata :=
  match client.authorization with
  | some value => Metadata.empty.set "authorization" value
  | none => .empty

/-- What becomes of the outcome of a call at the server. -/
def settle (errand : Errand) : Except Status errand.method.Answer → Except Status errand.Gain
  | .error status => .error status
  | .ok answer => errand.take answer

/-- Makes a call of a server. -/
def call {m : Type → Type} [Monad m] (client : Client)
    (server : (method : Method) → Metadata → method.Query → m (Except Status method.Answer))
    (errand : Errand) : m (Except Status errand.Gain) := do
  let outcome ← server errand.method client.metadata errand.query
  return settle errand outcome

end Client
end ItemCatalog
