import ItemCatalog.Proofs.Sql.Server

/-!
# A ledger

A server that keeps its rows in a table and executes statements on them: the reference for what a
server is relied upon to do. It turns away what its columns do not hold, and whatever comes in a
transaction that has failed.
-/

namespace ItemCatalog.Sql
open Storage (Table)

/-- What a connection is doing: nothing, a transaction that works on some rows, or a transaction
in which a statement has failed. -/
inductive Session
  | idle
  | working (rows : Table)
  | failed

/-- The committed rows and what the connection is doing. -/
structure Ledger where
  committed : Table
  session : Session := .idle

namespace Ledger

/-- The failure of a text that a server does not take. -/
def invalidText : String := "invalid byte sequence for encoding \"UTF8\": 0x00"

/-- Executes a statement on rows. Those that begin or end transactions do nothing to them. -/
def execute (t : Table) : (q : Statement) → Except String (q.Payload × Table)
  | .selectOne id => .ok ((t.get? id).toList.map Row.ofItem, t)
  | .selectPage offset limit =>
    .ok (((t.listed.drop offset.toInt.toNat).take limit.toInt.toNat).map Row.ofItem, t)
  | .count => .ok ([some (t.size : Int)], t)
  | .insert id name now =>
    if '\x00' ∈ name.toList then .error invalidText
    else if (t.get? id).isSome then
      .error "duplicate key value violates unique constraint \"items_pkey\""
    else if 100 < name.length then .error "value too long for type character varying(100)"
    else
      let item := Item.created id name (.ofMicros now.micros)
      .ok ([.ofItem item], t.insert id item)
  | .update id name modified version =>
    if '\x00' ∈ name.toList then .error invalidText
    else
      match t.get? id with
      | none => .ok ([], t)
      | some x =>
        if x.version ≠ version then .ok ([], t)
        else if 100 < name.length then .error "value too long for type character varying(100)"
        else if Int64.maxValue.toInt < version + 1 then .error "bigint out of range"
        else
          let item : Item :=
            ⟨x.id, name, x.createdAt, some (.ofMicros modified.micros), version + 1⟩
          .ok ([.ofItem item], t.insert id item)
  | .delete id version =>
    if (t.get? id).map Item.version = some version then .ok ((1 : Nat), t.erase id)
    else .ok ((0 : Nat), t)
  | .begin | .isolate | .commit | .rollback | .migrate => .ok ((), t)

/-- The failure of whatever comes after a failure. -/
def aborted : String :=
  "current transaction is aborted, commands ignored until end of transaction block"

/-- Replies to a statement. An open transaction is not begun again. After a failure nothing succeeds
until the transaction is left, and its end leaves the committed rows. -/
def respond : Program.Responder signature Ledger
  | .begin, l =>
    match l.session with
    | .idle => (.ok (), { l with session := .working l.committed })
    | .working _ => (.ok (), l)
    | .failed => (.error aborted, l)
  | .commit, l =>
    match l.session with
    | .working rows => (.ok (), ⟨rows, .idle⟩)
    | _ => (.ok (), { l with session := .idle })
  | .rollback, l => (.ok (), { l with session := .idle })
  | q, l =>
    match l.session with
    | .idle =>
      match execute l.committed q with
      | .ok (payload, rows) => (.ok payload, { l with committed := rows })
      | .error message => (.error message, l)
    | .working rows =>
      match execute rows q with
      | .ok (payload, rows') => (.ok payload, { l with session := .working rows' })
      | .error message => (.error message, { l with session := .failed })
    | .failed => (.error aborted, l)

/-- A ledger as a server. -/
def server : Server Ledger where
  respond := respond
  committed l := l.committed.get?
  idle l := l.session = .idle
  working l :=
    match l.session with
    | .working rows => some rows.get?
    | _ => none

/-- A ledger whose transaction works on rows. -/
theorem eq_of_working {l : Ledger} {w : Relation} (h : server.working l = some w) :
    ∃ rows, l = ⟨l.committed, .working rows⟩ ∧ w = rows.get? := by
  obtain ⟨committed, session⟩ := l
  cases session with
  | idle => cases h
  | working rows =>
    simp only [server, Option.some.injEq] at h
    exact ⟨rows, rfl, h.symm⟩
  | failed => cases h

theorem get?_insert_eq_update (t : Table) (id : Identifier) (x : Item) :
    Assoc.get? (t.insert id x) = Function.update t.get? id (some x) := by
  funext k
  rw [Assoc.get?_insert, Function.update_apply]

theorem get?_erase_eq_update (t : Table) (id : Identifier) :
    Assoc.get? (t.erase id) = Function.update t.get? id none := by
  funext k
  rw [Assoc.get?_erase, Function.update_apply]

/-- Whether a statement begins or ends a transaction. -/
def controls : Statement → Bool
  | .begin | .commit | .rollback => true
  | _ => false

/-- What a ledger replies inside a transaction. -/
theorem replies_of_execute {committed rows rows' : Table} {q : Statement} {payload : q.Payload}
    (hq : controls q = false) (h : execute rows q = .ok (payload, rows')) :
    server.Replies ⟨committed, .working rows⟩ q (.ok payload) rows'.get? := by
  have hr : respond q ⟨committed, .working rows⟩ = (.ok payload, ⟨committed, .working rows'⟩) := by
    cases q <;> simp_all [respond, controls]
  exact ⟨congrArg Prod.fst hr, congrArg (fun a => a.2.committed.get?) hr,
    congrArg (fun a => server.working a.2) hr⟩

/-- Whatever fails inside a transaction leaves the committed rows. -/
theorem reply_of_execute_error {committed rows : Table} {q : Statement} {message : String}
    (hq : controls q = false) (h : execute rows q = .error message) :
    respond q ⟨committed, .working rows⟩ = (.error message, ⟨committed, .failed⟩) := by
  cases q <;> simp_all [respond, controls]

/-- A ledger executes statements by their meaning. -/
theorem executes : server.Executes where
  begins := by
    rintro ⟨rows, _⟩ rfl
    exact ⟨rfl, rfl, rfl⟩
  inserts := by
    intro l w id name now hw hfree hname
    obtain ⟨rows, hl, rfl⟩ := eq_of_working hw
    obtain ⟨hlength, htext⟩ := hname
    rw [hl, ← get?_insert_eq_update]
    refine replies_of_execute rfl ?_
    rw [execute, if_neg htext, hfree, if_neg (by simp), if_neg (by omega)]
  rejects := by
    intro l w id name now hw htaken
    obtain ⟨rows, hl, rfl⟩ := eq_of_working hw
    obtain ⟨message, hmessage⟩ : ∃ message,
        execute rows (.insert id name now) = .error message := by
      rw [execute, if_pos (Option.isSome_iff_ne_none.2 htaken)]
      split
      · exact ⟨_, rfl⟩
      · exact ⟨_, rfl⟩
    have hr : respond (.insert id name now) ⟨l.committed, .working rows⟩ =
        (.error message, ⟨l.committed, .failed⟩) := reply_of_execute_error rfl hmessage
    rw [hl]
    exact ⟨⟨message, congrArg Prod.fst hr⟩, congrArg (fun a => a.2.committed.get?) hr⟩
  updates := by
    intro l w id name modified version x hw hx hv hname hversion hraised
    obtain ⟨rows, hl, rfl⟩ := eq_of_working hw
    obtain ⟨hlength, htext⟩ := hname
    rw [hl, ← get?_insert_eq_update]
    refine replies_of_execute rfl ?_
    rw [execute, if_neg htext]
    simp only [hx]
    rw [if_neg (by simpa using hv), if_neg (by omega), if_neg (Int.not_lt.2 hraised.2)]
  passes := by
    intro l w id name modified version hw hne htext _
    obtain ⟨rows, hl, rfl⟩ := eq_of_working hw
    rw [hl]
    refine replies_of_execute rfl ?_
    rw [execute, if_neg htext]
    cases hx : rows.get? id with
    | none => rfl
    | some x =>
      rw [hx, Option.map_some, ne_eq, Option.some.injEq] at hne
      exact if_pos hne
  deletes := by
    intro l w id version hw hv _
    obtain ⟨rows, hl, rfl⟩ := eq_of_working hw
    rw [hl, ← get?_erase_eq_update]
    refine replies_of_execute rfl ?_
    rw [execute, if_pos hv]
  spares := by
    intro l w id version hw hv _
    obtain ⟨rows, hl, rfl⟩ := eq_of_working hw
    rw [hl]
    refine replies_of_execute rfl ?_
    rw [execute, if_neg hv]
  commits := by
    intro l w hw
    obtain ⟨rows, hl, rfl⟩ := eq_of_working hw
    rw [hl]
    exact ⟨rfl, rfl⟩
  rolls_back := by
    intro l
    rfl

end Ledger
end ItemCatalog.Sql
