import ItemCatalog.Sql.Dialogue

/-!
# Scripted databases

A database that understands nothing: it takes down every statement and gives the next reply of a
script, except to statements that only steer the transaction, which succeed. Some statements may be
planned to fail.
-/

namespace ItemCatalog.Sql

/-- A reply in a script. -/
inductive Reply
  | rows (rows : List Row)
  | numbers (numbers : List (Option Int))
  | affected (n : Nat)
  | failed (message : String)
deriving DecidableEq

/-- The plan that a statement with the text `start` at its beginning fails, after `skip` of them
went through. -/
structure PlannedFailure where
  start : String
  message : String
  skip : Nat := 0
deriving DecidableEq

/-- The state of a scripted database: what is still to come, and what it was sent. -/
structure Script where
  replies : List Reply := []
  failures : List PlannedFailure := []
  sent : List Statement := []

namespace Script

/-- Looks for a plan that a statement of a given text fails; the first that fits it counts. -/
def planned (text : String) : List PlannedFailure → Option String × List PlannedFailure
  | [] => (none, [])
  | plan :: rest =>
    if plan.start.toList.isPrefixOf text.toList then
      match plan.skip with
      | 0 => (some plan.message, rest)
      | skip + 1 => (none, { plan with skip := skip } :: rest)
    else
      let (message, rest) := planned text rest
      (message, plan :: rest)

/-- The rows in a reply. -/
def rowsOf : Reply → Except String (List Row)
  | .rows rows => .ok rows
  | .failed message => .error message
  | _ => .ok []

/-- The numbers in a reply. -/
def numbersOf : Reply → Except String (List (Option Int))
  | .numbers numbers => .ok numbers
  | .failed message => .error message
  | _ => .ok []

/-- The number of rows that a reply says were deleted. -/
def affectedOf : Reply → Except String Nat
  | .affected n => .ok n
  | .failed message => .error message
  | _ => .ok 0

/-- Takes the next reply, which says nothing once the script is over. -/
def next {α : Type} (read : Reply → Except String α) (script : Script) :
    Except String α × Script :=
  match script.replies with
  | reply :: rest => (read reply, { script with replies := rest })
  | [] => (read (.affected 0), script)

/-- The reply to a statement that is not planned to fail. -/
def reply : (s : Statement) → Script → s.Answer × Script
  | .selectOne _, script => script.next rowsOf
  | .selectPage .., script => script.next rowsOf
  | .insert .., script => script.next rowsOf
  | .update .., script => script.next rowsOf
  | .count, script => script.next numbersOf
  | .delete .., script => script.next affectedOf
  | .begin, script => (.ok (), script)
  | .isolate, script => (.ok (), script)
  | .commit, script => (.ok (), script)
  | .rollback, script => (.ok (), script)
  | .migrate, script => (.ok (), script)

/-- The reply to a statement. -/
def respond : Program.Responder signature Script := fun s script =>
  let script := { script with sent := script.sent ++ [s] }
  match planned (Statement.text s) script.failures with
  | (some message, rest) => (.error message, { script with failures := rest })
  | (none, rest) => reply s { script with failures := rest }

end Script
end ItemCatalog.Sql
