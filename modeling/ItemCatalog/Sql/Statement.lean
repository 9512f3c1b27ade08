import ItemCatalog.Item
import ItemCatalog.Page

/-!
# Statements

The statements that a database is sent, with their texts and parameters, and the rows that it
replies with. Times travel as whole microseconds since the year 2000.
-/

namespace ItemCatalog

namespace Instant

/-- The seconds from 1970 to 2000. -/
def secondsTo2000 : Int := 946684800

/-- Whole microseconds since 2000; a fraction is cut off toward that year. -/
def micros (a : Instant) : Int :=
  (a.nanosSinceEpoch - secondsTo2000 * 1000000000).tdiv 1000

/-- The instant a number of microseconds after 2000. -/
def ofMicros (n : Int) : Instant where
  seconds := Int64.ofInt (secondsTo2000 + n / 1000000)
  nanos := ⟨(n % 1000000).toNat * 1000, by omega⟩

end Instant

namespace Sql

/-- A parameter of a statement. -/
inductive Param
  | id (id : Identifier)
  | text (s : String)
  | number (n : Int)
  /-- A time in microseconds since 2000. -/
  | time (micros : Int)
deriving DecidableEq

/-- A row of the table of items. Any column may hold nothing. -/
structure Row where
  id : Option Identifier
  name : Option String
  createdAt : Option Instant
  updatedAt : Option Instant
  version : Option Int
deriving DecidableEq

/-- The item in a row, or the first column that holds nothing but has to hold something. -/
def Row.item (row : Row) : Except String Item :=
  match row.id, row.name, row.createdAt, row.version with
  | none, _, _, _ => .error "id"
  | _, none, _, _ => .error "name"
  | _, _, none, _ => .error "created_at"
  | _, _, _, none => .error "version"
  | some id, some name, some createdAt, some version =>
    .ok ⟨id, name, createdAt, row.updatedAt, version⟩

/-- The row of an item. -/
def Row.ofItem (item : Item) : Row where
  id := some item.id
  name := some item.name
  createdAt := some item.createdAt
  updatedAt := item.updatedAt
  version := some item.version

@[simp] theorem Row.item_ofItem (item : Item) : (Row.ofItem item).item = .ok item := rfl

/-- A statement. -/
inductive Statement
  | begin
  /-- All reads of the transaction are to see the same state. -/
  | isolate
  | commit
  | rollback
  /-- Creates the table of items and its index. -/
  | migrate
  | selectOne (id : Identifier)
  | selectPage (offset limit : Int64)
  | count
  | insert (id : Identifier) (name : String) (now : Instant)
  /-- Gives a row of the stated version a new name and modification time. -/
  | update (id : Identifier) (name : String) (modified : Instant) (version : Int)
  /-- Deletes a row of the stated version. -/
  | delete (id : Identifier) (version : Int)
deriving DecidableEq

namespace Statement

/-- The columns of the table of items. -/
def columns : String := "id, name, created_at, updated_at, version"

/-- The text that creates the table. -/
def migration : String :=
  "CREATE TABLE IF NOT EXISTS items (\n" ++
  "    id          UUID         PRIMARY KEY,\n" ++
  "    name        VARCHAR(100) NOT NULL,\n" ++
  "    created_at  TIMESTAMPTZ  NOT NULL,\n" ++
  "    updated_at  TIMESTAMPTZ  NULL,\n" ++
  "    version     BIGINT       NOT NULL DEFAULT 1\n" ++
  ");\n\n" ++
  "CREATE INDEX IF NOT EXISTS items_created_at_idx ON items (created_at, id);\n"

/-- The text of a statement. -/
def text : Statement → String
  | begin => "BEGIN"
  | isolate => "SET TRANSACTION ISOLATION LEVEL REPEATABLE READ, READ ONLY"
  | commit => "COMMIT"
  | rollback => "ROLLBACK"
  | migrate => migration
  | selectOne _ => "SELECT " ++ columns ++ " FROM items WHERE id = $1"
  | selectPage .. =>
    "SELECT " ++ columns ++ " FROM items ORDER BY created_at, id OFFSET $1 LIMIT $2"
  | count => "SELECT COUNT(*) FROM items"
  | insert .. =>
    "INSERT INTO items (id, name, created_at, updated_at, version) " ++
      "VALUES ($1, $2, $3, NULL, 1) RETURNING " ++ columns
  | update .. =>
    "UPDATE items SET name = $2, updated_at = $3, version = version + 1 " ++
      "WHERE id = $1 AND version = $4 RETURNING " ++ columns
  | delete .. => "DELETE FROM items WHERE id = $1 AND version = $2"

/-- The parameters of a statement, in the order of their numbers. -/
def params : Statement → List Param
  | selectOne id => [.id id]
  | selectPage offset limit => [.number offset.toInt, .number limit.toInt]
  | insert id name now => [.id id, .text name, .time now.micros]
  | update id name modified version =>
    [.id id, .text name, .time modified.micros, .number version]
  | delete id version => [.id id, .number version]
  | _ => []

/-- What a statement is answered with when it succeeds: rows; for a count, single numbers, which
may be missing; for a deletion, how many rows it deleted. -/
def Payload : Statement → Type
  | selectOne _ => List Row
  | selectPage .. => List Row
  | insert .. => List Row
  | update .. => List Row
  | count => List (Option Int)
  | delete .. => Nat
  | _ => Unit

/-- The reply to a statement: what it is answered with, or why it failed. -/
abbrev Answer (s : Statement) : Type := Except String s.Payload

end Statement
end Sql
end ItemCatalog
