import ItemCatalog.Json.Members
import ItemCatalog.Json.Progress

/-!
# Headers of tokens

The header names the algorithm that the token was signed with. Everything else that it may hold
has no effect, but has to be of its type.
-/

namespace ItemCatalog.Token

/-- The algorithms that a header may name. -/
inductive Algorithm
  | hs256
  | hs384
  | hs512
  | es256
  | es384
  | rs256
  | rs384
  | rs512
  | ps256
  | ps384
  | ps512
  | edDsa
deriving DecidableEq

/-- The algorithm of a name. -/
def Algorithm.ofName? : String → Option Algorithm
  | "HS256" => some hs256
  | "HS384" => some hs384
  | "HS512" => some hs512
  | "ES256" => some es256
  | "ES384" => some es384
  | "RS256" => some rs256
  | "RS384" => some rs384
  | "RS512" => some rs512
  | "PS256" => some ps256
  | "PS384" => some ps384
  | "PS512" => some ps512
  | "EdDSA" => some edDsa
  | _ => none

namespace Key

/-- What a key in a header may be: its type, its members that hold texts, and whether it names a
curve. -/
structure Family where
  type : String
  texts : List String
  hasCurve : Bool

/-- The families of keys. -/
def families : List Family :=
  [⟨"EC", ["x", "y"], true⟩, ⟨"RSA", ["n", "e"], false⟩, ⟨"oct", ["k"], false⟩,
    ⟨"OKP", ["x"], true⟩]

/-- The curves that a key may name. -/
def curves : List String := ["P-256", "P-384", "P-521", "Ed25519"]

/-- Whether a key has the members of a family. -/
def isOf (members : List (String × Json)) (family : Family) : Bool :=
  let named := fun name => (Json.only? members [name]).bind Json.choice?
  named "kty" == some family.type &&
    (!family.hasCurve || (named "crv").any curves.contains) &&
    family.texts.all fun name => ((Json.only? members [name]).bind Json.text?).isSome

/-- Whether the members that all keys share are of their types. -/
def hasCommonMembers (members : List (String × Json)) : Bool :=
  (["use", "kid", "x5u", "x5t", "x5t#S256"].all fun name =>
      ((Json.only? members [name]).bind Json.optionalText?).isSome) &&
    (["key_ops", "x5c"].all fun name =>
      ((Json.only? members [name]).bind Json.optionalTexts?).isSome) &&
    ((Json.only? members ["alg"]).bind Json.optionalChoice?).isSome

/-- Whether a value is a key or is missing. A key is read as a whole before its members are looked
for. -/
def isOptional : Json → Bool
  | .null => true
  | value =>
    value.progress Json.maxNesting == .complete &&
      value.members?.any fun members => hasCommonMembers members && families.any (isOf members)

end Key

namespace Header

/-- The members of a header that hold texts or nothing. -/
def textNames : List String := ["typ", "cty", "jku", "kid", "x5u", "x5t", "x5t#S256"]

/-- The members in the order in which a header in the form of a list holds them. -/
def order : List String :=
  ["typ", "alg", "cty", "jku", "jwk", "kid", "x5u", "x5c", "x5t", "x5t#S256"]

/-- The members of a header, which may also be a list of all their values. -/
def members? : Json → Option (List (String × Json))
  | .array items => if items.length = order.length then some (order.zip items) else none
  | value => value.members?

/-- The algorithm that a header names, if every member is of its type. -/
def algorithm? (value : Json) : Option Algorithm := do
  let members ← members? value
  let algorithm ← ((← Json.only? members ["alg"]).choice?).bind Algorithm.ofName?
  let texts := textNames.all fun name =>
    ((Json.only? members [name]).bind Json.optionalText?).isSome
  let chain := ((Json.only? members ["x5c"]).bind Json.optionalTexts?).isSome
  let key := (Json.only? members ["jwk"]).any Key.isOptional
  if texts && chain && key then return algorithm else none

end Header
end ItemCatalog.Token
