import ItemCatalog.Log
import ItemCatalog.Sql.Dialogue

/-!
# Pools of connections

A database as storage: how it is connected to and prepared, the store that it then is, and what is
left of it once its pool has been closed.
-/

namespace ItemCatalog.Sql
variable {σ : Type}

open Storage (Error Backend)

/-- How a database receives whoever wants to connect. -/
inductive Reception
  | welcome
  /-- The address makes no sense. -/
  | badAddress
  | refused (message : String)
deriving DecidableEq

/-- The failure to connect, if any. -/
def Reception.failure? : Reception → Option Error
  | .welcome => none
  | .badAddress => some (.database "error with configuration: invalid address")
  | .refused message => some (serverError message)

/-- A database: the state of what answers statements, whether the table of items has been created,
and the version of a preparation that was left half done. -/
structure Database (σ : Type) where
  server : σ
  isPrepared : Bool := false
  halfDone : Option Int := none

/-- A pool of connections to a database. -/
structure Pool (σ : Type) where
  database : Database σ
  isClosed : Bool := false

/-! ## Preparation -/

/-- The version of the only step of preparation. -/
def stepVersion : Int := 20241024141140

/-- The failure to prepare a database that was left half prepared. -/
def halfPrepared (version : Int) : Error :=
  .migration ("migration " ++ toString version ++
    " is partially applied; fix and remove row from \x60_sqlx_migrations\x60 table")

/-- The failure of the transaction around the preparation. -/
def preparationFailed (message : String) : Error :=
  .migration ("while executing migrations: error returned from database: " ++ message)

/-- The failure of the preparation itself. -/
def stepFailed (message : String) : Error :=
  .migration ("while executing migration " ++ toString stepVersion ++
    ": error returned from database: " ++ message)

/-- Leaves the preparation without its effects. -/
def abandonStep (e : Error) : Dialogue (Except Error Unit) := do
  let _ ← send .rollback
  return .error e

/-- Creates the table of items. -/
def createTable : Dialogue (Except Error Unit) := do
  match ← send .begin with
  | .error message => return .error (preparationFailed message)
  | .ok () =>
    match ← send .migrate with
    | .error message => abandonStep (stepFailed message)
    | .ok () =>
      match ← send .commit with
      | .error message => abandonStep (preparationFailed message)
      | .ok () => return .ok ()

namespace Database

/-- Talks to the database. -/
def talk {α : Type} (respond : Program.Responder signature σ) (dialogue : Dialogue α)
    (db : Database σ) : α × Database σ :=
  ((dialogue.run respond db.server).1, { db with server := (dialogue.run respond db.server).2 })

/-- Creates the table of items where that has not been done. -/
def prepare (respond : Program.Responder signature σ) (db : Database σ) :
    Except Error Unit × Database σ :=
  match db.halfDone with
  | some version => (.error (halfPrepared version), db)
  | none =>
    if db.isPrepared then (.ok (), db)
    else
      match db.talk respond createTable with
      | (.ok (), db) => (.ok (), { db with isPrepared := true })
      | failed => failed

/-- Connects to a database and prepares it. Returns the outcome, the database, and what the log
says. -/
def connect (respond : Program.Responder signature σ) (reception : Reception)
    (maxConnections : Nat) (db : Database σ) :
    Except Error Unit × Database σ × List Log.Entry :=
  match reception.failure? with
  | some e => (.error e, db, [])
  | none =>
    let connected : Log.Entry :=
      .event .info "Connected to PostgreSQL" [("max_connections", toString maxConnections)]
    match db.prepare respond with
    | (.ok (), db) => (.ok (), db, [connected, .event .info "Database migrations applied" []])
    | (.error e, db) => (.error e, db, [connected])

end Database

namespace Pool

/-- Closes a pool. -/
def close (pool : Pool σ) : Pool σ := { pool with isClosed := true }

/-- What the log says of a closed pool. -/
def closedEntry : Log.Entry := .event .info "PostgreSQL pool closed" []

/-- Talks to the database over a connection of the pool. -/
def talk {α : Type} (respond : Program.Responder signature σ)
    (dialogue : Dialogue (Except Error α)) (pool : Pool σ) : Except Error α × Pool σ :=
  if pool.isClosed then (.error poolClosed, pool)
  else
    ((pool.database.talk respond dialogue).1,
      { pool with database := (pool.database.talk respond dialogue).2 })

/-- A database as a store. -/
def backend (respond : Program.Responder signature σ) : Backend (Pool σ) where
  find id pool := pool.talk respond (find id)
  page window pool := pool.talk respond (page window)
  commit now staged pool :=
    if staged.isEmpty then (.ok [], pool) else pool.talk respond (commit now staged)
  count pool := pool.talk respond count

end Pool
end ItemCatalog.Sql
