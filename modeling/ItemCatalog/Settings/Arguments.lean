import ItemCatalog.Assoc

/-!
# Arguments

What the server can be told when it starts: its options, the text that each of them takes, and the
values that hold where nothing is said.
-/

namespace ItemCatalog

/-- The options. -/
inductive Parameter
  | serverAddr
  | uds
  | httpAddr
  | databaseUrl
  | databaseMaxConnections
  | databaseConnectTimeout
  | jwtSecret
  | ephemeral
  | shutdownGrace
deriving DecidableEq

/-- What kind of text an option takes. -/
inductive Parameter.Kind
  | switch
  | text
  | number32
  | number64
deriving DecidableEq

namespace Parameter

/-- Every option, in the order in which the environment is asked for them. -/
def all : List Parameter :=
  [serverAddr, uds, httpAddr, databaseUrl, databaseMaxConnections, databaseConnectTimeout,
    jwtSecret, ephemeral, shutdownGrace]

/-- The name of an option on the command line. -/
def name : Parameter → String
  | serverAddr => "server-addr"
  | uds => "uds"
  | httpAddr => "http-addr"
  | databaseUrl => "database-url"
  | databaseMaxConnections => "database-max-connections"
  | databaseConnectTimeout => "database-connect-timeout-secs"
  | jwtSecret => "jwt-secret"
  | ephemeral => "ephemeral"
  | shutdownGrace => "shutdown-grace-secs"

/-- The option of a name. -/
def ofName? (s : String) : Option Parameter := all.find? fun p => p.name == s

/-- The environment variable that stands in for an option. -/
def environmentName? : Parameter → Option String
  | serverAddr => some "SERVER_ADDR"
  | uds => none
  | httpAddr => some "HTTP_ADDR"
  | databaseUrl => some "DATABASE_URL"
  | databaseMaxConnections => some "DATABASE_MAX_CONNECTIONS"
  | databaseConnectTimeout => some "DATABASE_CONNECT_TIMEOUT_SECS"
  | jwtSecret => some "JWT_SECRET"
  | ephemeral => some "EPHEMERAL"
  | shutdownGrace => some "SHUTDOWN_GRACE_SECS"

/-- The kind of text that an option takes. -/
def kind : Parameter → Kind
  | uds => .switch
  | ephemeral => .switch
  | databaseMaxConnections => .number32
  | databaseConnectTimeout => .number64
  | shutdownGrace => .number64
  | _ => .text

end Parameter

/-! ## Texts of values -/

/-- The number that decimal digits spell. -/
def decimal? (cs : List Char) : Option Nat :=
  if cs.isEmpty || !cs.all Char.isDigit then none
  else some (cs.foldl (fun n c => n * 10 + (c.toNat - '0'.toNat)) 0)

/-- A number of at most 32 bits; a plus sign may precede it, and a minus sign may precede zero. -/
def number32? (s : String) : Option UInt32 :=
  let n := match s.toList with
    | '+' :: cs => decimal? cs
    | '-' :: cs => (decimal? cs).filter (· = 0)
    | cs => decimal? cs
  (n.filter (· < UInt32.size)).map UInt32.ofNat

/-- A number of at most 64 bits, which a plus sign may precede. -/
def number64? (s : String) : Option UInt64 :=
  let n := match s.toList with
    | '+' :: cs => decimal? cs
    | cs => decimal? cs
  (n.filter (· < UInt64.size)).map UInt64.ofNat

/-- What a switch is set to. -/
def switch? : String → Option Bool
  | "true" => some true
  | "false" => some false
  | _ => none

/-- Whether an option takes a text. -/
def Parameter.takes (p : Parameter) (s : String) : Bool :=
  match p.kind with
  | .switch => (switch? s).isSome
  | .text => true
  | .number32 => (number32? s).isSome
  | .number64 => (number64? s).isSome

/-! ## Arguments -/

/-- A value for every option. -/
structure Arguments where
  serverAddr : String := "0.0.0.0:50051"
  uds : Bool := false
  httpAddr : String := "0.0.0.0:8080"
  databaseUrl : Option String := none
  databaseMaxConnections : UInt32 := 10
  databaseConnectTimeout : UInt64 := 5
  jwtSecret : Option String := none
  ephemeral : Bool := false
  shutdownGrace : UInt64 := 30
deriving DecidableEq

/-- Texts that were given for options. -/
abbrev Given := Assoc Parameter String

/-- The arguments that given texts amount to. -/
def Arguments.ofGiven (given : Given) : Arguments :=
  let standard : Arguments := {}
  { serverAddr := (given.get? .serverAddr).getD standard.serverAddr
    uds := ((given.get? .uds).bind switch?).getD standard.uds
    httpAddr := (given.get? .httpAddr).getD standard.httpAddr
    databaseUrl := given.get? .databaseUrl
    databaseMaxConnections :=
      ((given.get? .databaseMaxConnections).bind number32?).getD standard.databaseMaxConnections
    databaseConnectTimeout :=
      ((given.get? .databaseConnectTimeout).bind number64?).getD standard.databaseConnectTimeout
    jwtSecret := given.get? .jwtSecret
    ephemeral := ((given.get? .ephemeral).bind switch?).getD standard.ephemeral
    shutdownGrace := ((given.get? .shutdownGrace).bind number64?).getD standard.shutdownGrace }

end ItemCatalog
