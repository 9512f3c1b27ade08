import ItemCatalog.Json.Reader
import ItemCatalog.Stage.Gate
import ItemCatalog.Text.Ascii
import ItemCatalog.Token.Base64Url
import ItemCatalog.Token.Claims
import ItemCatalog.Token.Header
import ItemCatalog.Token.Sha256

/-!
# Tokens

A token is a header, a payload and a signature, joined by dots. It is accepted if the signature is
the one that the secret gives to everything before it. Main statement: a text is accepted exactly
if each of its parts is.
-/

namespace ItemCatalog

/-- The parts of a token, as they are written. -/
structure Token where
  header : List Char
  payload : List Char
  signature : List Char
deriving DecidableEq

namespace Token

/-- Why a token is not accepted. -/
inductive Error
  /-- It has fewer than three parts. -/
  | parts
  /-- A part is not written in the alphabet of tokens. -/
  | encoding
  /-- A part does not hold what it should. -/
  | content
  | algorithm
  | signature
deriving DecidableEq

/-- The parts of a text: the last two dots separate them. -/
def ofText? (text : String) : Option Token := do
  let (signed, signature) ← Text.splitLast? '.' text.toList
  let (header, payload) ← Text.splitLast? '.' signed
  return { header, payload, signature }

/-- What a signature vouches for. -/
def signed (token : Token) : List Char := token.header ++ '.' :: token.payload

/-- The text of a token. -/
def text (token : Token) : String := String.ofList (token.signed ++ '.' :: token.signature)

/-- The signature that a secret gives to a text. -/
def signatureOf (secret : List UInt8) (signed : List Char) : List Char :=
  Base64Url.encode (Sha256.code secret (Text.bytes (String.ofList signed)))

/-- Reads the value that a part holds. -/
def readPart (part : List Char) : Except Error Json :=
  match Base64Url.decode? part with
  | none => .error .encoding
  | some bytes =>
    match Json.parse? bytes with
    | none => .error .content
    | some value => .ok value

/-- Reads the algorithm in a header. -/
def readHeader (part : List Char) : Except Error Algorithm :=
  match readPart part with
  | .error e => .error e
  | .ok value =>
    match Header.algorithm? value with
    | none => .error .content
    | some algorithm => .ok algorithm

/-- Reads the claims in a payload. -/
def readPayload (part : List Char) : Except Error Claims :=
  match readPart part with
  | .error e => .error e
  | .ok value =>
    match Claims.ofJson? value with
    | none => .error .content
    | some claims => .ok claims

/-- Verifies a token and reads its claims. -/
def verify (secret : List UInt8) (token : Token) : Except Error Claims :=
  match readHeader token.header with
  | .error e => .error e
  | .ok algorithm =>
    if algorithm ≠ .hs256 then .error .algorithm
    else if token.signature ≠ signatureOf secret token.signed then .error .signature
    else readPayload token.payload

/-- Verifies the token in a text and reads its claims. -/
def decode (secret : List UInt8) (text : String) : Except Error Claims :=
  match ofText? text with
  | none => .error .parts
  | some token => token.verify secret

/-- The user to whom a token belongs, if it is accepted. -/
def user? (secret : List UInt8) (text : String) : Option User :=
  match decode secret text with
  | .ok claims => some claims.user
  | .error _ => none

/-- What the log says of a token. -/
def remark (user : Option User) : Log.Entry :=
  match user with
  | some user =>
    .event .debug "JWT signature validation successful" [("user_id", user.id)]
  | none => .event .warn "JWT signature validation failed" []

/-- The validator of tokens signed with a secret. -/
def validator (secret : List UInt8) : Validator where
  judge text :=
    match user? secret text with
    | some user => .accepted user
    | none => .rejected
  remarks text := [remark (user? secret text)]

/-- A token is verified exactly if its header names the algorithm, its signature is the signature of
what stands before it, and its payload holds the claims. -/
theorem verify_eq_ok_iff (secret : List UInt8) (token : Token) (claims : Claims) :
    token.verify secret = .ok claims ↔
      readHeader token.header = .ok .hs256 ∧ token.signature = signatureOf secret token.signed ∧
        readPayload token.payload = .ok claims := by
  unfold verify
  split
  · simp_all
  · rename_i algorithm h
    by_cases ha : algorithm = .hs256 <;> by_cases hs : token.signature = signatureOf secret token.signed <;>
      simp_all

/-- The signature that a key of four letters gives to a sentence. -/
example : signatureOf (Text.bytes "Jefe") "what do ya want for nothing?".toList =
    "W9zBRr9gdU5qBCQmCJV1x1oAPwidJzmDnexYuWTsOEM".toList := by decide +kernel

end Token
end ItemCatalog
