import ItemCatalog.Settings.Arguments
import ItemCatalog.Text.Blank
import ItemCatalog.Text.Quoted

/-!
# Settings

What the server runs with. Outside ephemeral mode items are kept in a database and tokens are
verified, so both have to be configured; in ephemeral mode neither is. The description for the log
shows neither the secret nor where the database is.
-/

namespace ItemCatalog

/-- Where items are kept. -/
inductive StorageChoice
  | memory
  /-- A database, how many connections to it are kept at most, and how many seconds to wait for
  one. -/
  | database (url : String) (maxConnections : UInt32) (connectTimeout : UInt64)
deriving DecidableEq

/-- What the server runs with. -/
structure Settings where
  serverAddr : String
  uds : Bool
  httpAddr : String
  storage : StorageChoice
  /-- The secret of tokens; without one, no token is asked for. -/
  jwtSecret : Option String
  ephemeral : Bool
  /-- How many seconds calls are given to finish when the server stops. -/
  shutdownGrace : UInt64
deriving DecidableEq

namespace Settings

/-- Why arguments do not amount to settings. -/
inductive Error
  | noConnections
  | noDatabase
  | noSecret
deriving DecidableEq

/-- The wording of an error. -/
def Error.message : Error → String
  | noConnections => "DATABASE_MAX_CONNECTIONS must be greater than 0"
  | noDatabase => "DATABASE_URL is required unless EPHEMERAL is set"
  | noSecret => "JWT_SECRET is required unless EPHEMERAL is set"

/-- Settings with the storage and the secret chosen, the rest as the arguments say. -/
def assemble (a : Arguments) (storage : StorageChoice) (secret : Option String) : Settings where
  serverAddr := a.serverAddr
  uds := a.uds
  httpAddr := a.httpAddr
  storage := storage
  jwtSecret := secret
  ephemeral := a.ephemeral
  shutdownGrace := a.shutdownGrace

/-- The settings that arguments amount to. -/
def ofArguments (a : Arguments) : Except Error Settings :=
  if a.databaseMaxConnections = 0 then .error .noConnections
  else if a.ephemeral then .ok (assemble a .memory none)
  else
    match a.databaseUrl.filter fun url => !(Text.trim url).isEmpty with
    | none => .error .noDatabase
    | some url =>
      match a.jwtSecret.filter fun secret => !secret.isEmpty with
      | none => .error .noSecret
      | some secret =>
        .ok (assemble a (.database url a.databaseMaxConnections a.databaseConnectTimeout)
          (some secret))

/-- The kind of storage, which is all that a description says of it. -/
def storageKind : StorageChoice → String
  | .memory => "memory"
  | .database .. => "postgres"

/-- Whether there is a secret, which is all that a description says of it. -/
def secretMark : Option String → String
  | some _ => "Some(\"<redacted>\")"
  | none => "None"

/-- A description for the log. -/
def summary (s : Settings) : String :=
  "ServerConfig \x7b server_addr: " ++ Text.quoted s.serverAddr ++ ", uds: " ++ toString s.uds ++
    ", http_addr: " ++ Text.quoted s.httpAddr ++ ", storage: " ++
    Text.quoted (storageKind s.storage) ++ ", jwt_secret: " ++ secretMark s.jwtSecret ++
    ", ephemeral: " ++ toString s.ephemeral ++ ", shutdown_grace: " ++
    toString s.shutdownGrace.toNat ++ "s \x7d"

end Settings
end ItemCatalog
