import ItemCatalog.Json.Members
import ItemCatalog.Json.Progress
import ItemCatalog.User

/-!
# Claims

What a token says of its bearer. Some claims have two names, of which a token may use one; a group
of roles or permissions may be one text or a list of them. The registered claims about the time,
the issuer and the audience have no effect: they are read, and may fail to be read. But each may be
there only once, and nothing comes after a value in the middle of which its reader gives up.
-/

namespace ItemCatalog.Token

/-- What a token says of its bearer. -/
structure Claims where
  subject : Option String
  name : Option String
  clientId : Option String
  roles : TextSet
  permissions : TextSet
deriving DecidableEq

namespace Claims

/-- The names of each claim, in the order in which a payload in the form of a list holds them. -/
def names : List (List String) :=
  [["sub", "nameid"], ["name", "unique_name"], ["client_id"], ["role", "roles"],
    ["permission", "permissions"]]

/-- A group of texts: one text, a list, or nothing. -/
def group? : Json → Option TextSet
  | .null => some Ordered.empty
  | .array items => (Json.array items).texts?.map TextSet.ofList
  | value => value.text?.map fun s => TextSet.ofList [s]

/-- The claims with these values. -/
def ofValues? : List Json → Option Claims
  | [subject, name, clientId, roles, permissions] => do
    return {
      subject := ← subject.optionalText?
      name := ← name.optionalText?
      clientId := ← clientId.optionalText?
      roles := ← group? roles
      permissions := ← group? permissions }
  | _ => none

/-- How far a time is read. It should be a number, and nothing is looked for inside a list or an
object. -/
def timeProgress : Json → Json.Progress
  | .array [] => .passed
  | .array _ => .stuck
  | .object [] => .passed
  | .object _ => .stuck
  | value => value.progress Json.maxNesting

/-- How far an issuer or an audience is read. It should be a text or a list of texts, but is taken
for what it is before that matters. -/
def partyProgress (value : Json) : Json.Progress := value.progress Json.maxNesting

/-- Claims that no one checks, and how far each is read. -/
def registered : List (String × (Json → Json.Progress)) :=
  [("exp", timeProgress), ("nbf", timeProgress), ("iss", partyProgress), ("aud", partyProgress)]

/-- Whether no registered claim is repeated, and none keeps what comes after it from being read. -/
def isRegular (members : List (String × Json)) : Bool :=
  registered.all fun (name, reach) =>
    (Json.only? members [name]).any fun value => reach value != .stuck

/-- The claims in a payload. -/
def ofJson? : Json → Option Claims
  | .array items => ofValues? items
  | value => do
    let members ← value.members?
    let values ← names.mapM (Json.only? members)
    if isRegular members then ofValues? values else none

/-- The identifier of a user whose token does not say who it is. -/
def unknownUser : String := "unknown"

/-- The user that claims describe. -/
def user (claims : Claims) : User where
  id := claims.subject.getD unknownUser
  name := claims.name
  clientId := claims.clientId
  roles := claims.roles
  permissions := claims.permissions

end Claims
end ItemCatalog.Token
