import ItemCatalog.Identifier
import ItemCatalog.Metadata
import ItemCatalog.Text.Blank
import ItemCatalog.User

/-!
# Calls

What is known about a call while it runs: its method, where it belongs in the log, and who makes
it. A caller's own statements about itself count only until a token has been verified.
-/

namespace ItemCatalog

/-- A call in progress. -/
structure Call where
  method : String
  operation : Operation
  correlationId : Identifier
  metadata : Metadata
  userId : Option String
  user : Option User
deriving DecidableEq

namespace Metadata

/-- The first value of a name as trimmed text, if it is readable and not blank. -/
def words? (m : Metadata) (name : String) : Option String :=
  ((m.text? name).map Text.trim).filter fun s => !s.isEmpty

/-- Entries that may state a correlation identifier, the preferred one first. -/
def correlationNames : List String := ["x-correlation-id", "x-request-id"]

/-- Entries that may state who calls, the preferred one first. -/
def userNames : List String := ["user-id", "x-user-id"]

/-- The correlation identifier that a caller supplies: the first of its entries that holds any
words is taken, and counts if it spells an identifier. -/
def correlationId? (m : Metadata) : Option Identifier :=
  (correlationNames.findSome? m.words?).bind Identifier.parse?

/-- Who a caller claims to be. -/
def claimedUser? (m : Metadata) : Option String := userNames.findSome? m.words?

/-- The mark in front of a token. -/
def bearerMark : String := "bearer "

/-- The token in the `authorization` entry, with or without the mark in front of it and blanks
around it. -/
def bearer? (m : Metadata) : Option String :=
  ((m.text? "authorization").map fun value =>
    let cs := value.toList
    if Text.equalIgnoringCase (String.ofList (cs.take 7)) bearerMark then
      Text.trim (String.ofList (cs.drop 7))
    else Text.trim value).filter fun token => !token.isEmpty

end Metadata

namespace Call

/-- A call of `method` with its metadata, known in the log under `correlationId`. -/
def start (method : String) (metadata : Metadata) (correlationId : Identifier) : Call where
  method := method
  operation := .ofMethod method
  correlationId := correlationId
  metadata := metadata
  userId := metadata.claimedUser?
  user := none

theorem operation_start (method : String) (metadata : Metadata) (id : Identifier) :
    (start method metadata id).operation = .ofMethod method := by
  rw [start]

theorem metadata_start (method : String) (metadata : Metadata) (id : Identifier) :
    (start method metadata id).metadata = metadata := rfl

/-- The last segment of the method's path. -/
def methodName (call : Call) : String := Operation.methodName call.method

theorem methodName_start (method : String) (metadata : Metadata) (id : Identifier) :
    (start method metadata id).methodName = Operation.methodName method := rfl

/-- Records the verified caller, whose identity replaces any that was claimed. -/
def withUser (call : Call) (user : User) : Call :=
  { call with userId := some user.id, user := some user }

@[simp] theorem userId_withUser (call : Call) (user : User) :
    (call.withUser user).userId = some user.id := rfl

@[simp] theorem user_withUser (call : Call) (user : User) :
    (call.withUser user).user = some user := rfl

/-- The methods that need no token. -/
def publicMethods : List String :=
  ["/grpc.health.v1.Health/Check",
    "/grpc.reflection.v1.ServerReflection/ServerReflectionInfo",
    "/grpc.reflection.v1alpha.ServerReflection/ServerReflectionInfo"]

/-- Whether a method needs no token, its path read in any ASCII case. -/
def isPublic (method : String) : Bool := publicMethods.any (Text.equalIgnoringCase · method)

end Call
end ItemCatalog
