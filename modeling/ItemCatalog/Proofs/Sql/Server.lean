import ItemCatalog.Proofs.Storage.Turns
import ItemCatalog.Sql.Dialogue
import Mathlib.Logic.Function.Basic

/-!
# A server that executes statements

What a commit relies on when it sends its statements to a server: that they are executed in order,
by their meaning, on a table whose primary key is the identifier, and that nothing of a transaction
remains unless it is ended by a commit. Nothing else is known of the server. Names in its table
have up to a hundred characters, none of them U+0000, versions are numbers of 64 bits, and times are
whole microseconds.

## Main definitions

* `IsName`, `IsVersion`: what the columns of names and versions hold.
* `Server`: a server as one connection sees it.
* `Server.Executes`: what it is relied upon to do.
* `Relation.accepts`, `Relation.row`: what the statement of a change finds and writes.
-/

namespace ItemCatalog

/-! ## Whole microseconds -/

/-- Whether an instant is a whole number of microseconds, and in no leap second. -/
def Instant.IsWhole (a : Instant) : Prop := a.nanos.val < 1000000000 ∧ a.nanos.val % 1000 = 0

/-- A whole number of microseconds comes back from a database as it was sent. -/
theorem Instant.ofMicros_micros {a : Instant} (h : a.IsWhole) : ofMicros a.micros = a := by
  obtain ⟨hlt, hmod⟩ := h
  have hmicros : a.micros =
      (a.seconds.toInt - secondsTo2000) * 1000000 + (a.nanos.val / 1000 : Nat) := by
    have hsum : a.nanosSinceEpoch - secondsTo2000 * 1000000000 =
        1000 * ((a.seconds.toInt - secondsTo2000) * 1000000 + (a.nanos.val / 1000 : Nat)) := by
      simp only [nanosSinceEpoch]
      omega
    rw [micros, hsum, Int.mul_tdiv_cancel_left _ (by decide)]
  have hseconds : secondsTo2000 + a.micros / 1000000 = a.seconds.toInt := by omega
  have hnanos : (a.micros % 1000000).toNat * 1000 = a.nanos.val := by omega
  cases a with
  | mk seconds nanos =>
    rw [ofMicros, Instant.mk.injEq]
    refine ⟨?_, Fin.ext hnanos⟩
    rw [hseconds]
    exact Int64.ofInt_toInt seconds

theorem Instant.IsWhole.latest {a b : Instant} (ha : a.IsWhole) (hb : b.IsWhole) :
    (a.latest b).IsWhole := by
  unfold Instant.latest
  split
  · exact hb
  · exact ha

namespace Sql
open Storage (Change Error Table)

/-! ## Columns -/

/-- Texts that a server takes have no character U+0000. -/
def IsText (s : String) : Prop := '\x00' ∉ s.toList

instance (s : String) : Decidable (IsText s) := inferInstanceAs (Decidable (_ ∉ _))

/-- Texts that a column of names holds. -/
def IsName (s : String) : Prop := s.length ≤ 100 ∧ IsText s

instance (s : String) : Decidable (IsName s) := inferInstanceAs (Decidable (_ ∧ _))

/-- Numbers that a column of versions holds. -/
def IsVersion (n : Int) : Prop := Int64.minValue.toInt ≤ n ∧ n ≤ Int64.maxValue.toInt

instance (n : Int) : Decidable (IsVersion n) := inferInstanceAs (Decidable (_ ∧ _))

/-! ## The server -/

/-- The rows of the table of items by their primary keys. -/
abbrev Relation := Identifier → Option Item

/-- A server as one connection sees it: its replies, the rows that are committed, whether the
connection is between two transactions, and the rows that the open transaction works on, if one is
open and nothing in it has failed. -/
structure Server (σ : Type) where
  respond : Program.Responder signature σ
  committed : σ → Relation
  idle : σ → Prop
  working : σ → Option Relation

variable {σ : Type} {v : Server σ} {s : σ} {w : Relation} {now : Instant}

/-- Inside a transaction a statement is replied to, and the transaction works on `w` from then
on. -/
structure Server.Replies (v : Server σ) (s : σ) (q : Statement) (reply : q.Answer) (w : Relation) :
    Prop where
  reply : (v.respond q s).1 = reply
  committed : v.committed (v.respond q s).2 = v.committed s
  working : v.working (v.respond q s).2 = some w

/-- A server executes statements by their meaning. -/
structure Server.Executes (v : Server σ) : Prop where
  /-- Between two transactions one can be begun. -/
  begins : ∀ s, v.idle s → v.Replies s .begin (.ok ()) (v.committed s)
  /-- A row is inserted under a key that is free, with no modification time and version one. -/
  inserts : ∀ s w id name (now : Instant), v.working s = some w → w id = none → IsName name →
    v.Replies s (.insert id name now) (.ok [.ofItem (.created id name (.ofMicros now.micros))])
      (Function.update w id (some (.created id name (.ofMicros now.micros))))
  /-- Two rows do not have the same key. -/
  rejects : ∀ s w id name now, v.working s = some w → w id ≠ none →
    (∃ message, (v.respond (.insert id name now) s).1 = .error message) ∧
      v.committed (v.respond (.insert id name now) s).2 = v.committed s
  /-- An update gives the row with its key and version a new name, modification time and
  version, if the column holds one. -/
  updates : ∀ s w id name (modified : Instant) version x, v.working s = some w → w id = some x →
    x.version = version → IsName name → IsVersion version → IsVersion (version + 1) →
    v.Replies s (.update id name modified version)
      (.ok [.ofItem ⟨x.id, name, x.createdAt, some (.ofMicros modified.micros), version + 1⟩])
      (Function.update w id
        (some ⟨x.id, name, x.createdAt, some (.ofMicros modified.micros), version + 1⟩))
  /-- An update without such a row changes nothing. -/
  passes : ∀ s w id name modified version, v.working s = some w →
    (w id).map Item.version ≠ some version → IsText name → IsVersion version →
    v.Replies s (.update id name modified version) (.ok []) w
  /-- A deletion removes the row with its key and version. -/
  deletes : ∀ s w id version, v.working s = some w → (w id).map Item.version = some version →
    IsVersion version →
    v.Replies s (.delete id version) (Except.ok (1 : Nat)) (Function.update w id none)
  /-- A deletion without such a row removes nothing. -/
  spares : ∀ s w id version, v.working s = some w → (w id).map Item.version ≠ some version →
    IsVersion version →
    v.Replies s (.delete id version) (Except.ok (0 : Nat)) w
  /-- A commit makes the rows of the transaction the committed ones. -/
  commits : ∀ s w, v.working s = some w → (v.respond .commit s).1 = .ok () ∧
    v.committed (v.respond .commit s).2 = w
  /-- A rollback leaves the committed rows. -/
  rolls_back : ∀ s, v.committed (v.respond .rollback s).2 = v.committed s

/-! ## The statement of a change -/

/-- Whether the statement of a change finds what it is about. -/
def Relation.accepts (w : Relation) : Change → Prop
  | .insert id _ => w id = none
  | .update item => (w item.id).map Item.version = some item.version
  | .delete item => (w item.id).map Item.version = some item.version

/-- The row that the statement of a change leaves under its key. -/
def Relation.row (w : Relation) (now : Instant) : Change → Option Item
  | .insert id name => some (.created id name (.ofMicros now.micros))
  | .update item => (w item.id).map fun x =>
    ⟨x.id, item.name, x.createdAt,
      some (.ofMicros (Item.modificationTime now item.createdAt).micros), item.version + 1⟩
  | .delete _ => none

/-- Whether the columns hold what a change is about: the name that it stores, and the version that
it looks for and, if it raises it, the next one. -/
def fits : Change → Prop
  | .insert _ name => IsName name
  | .update item => IsName item.name ∧ IsVersion item.version ∧ IsVersion (item.version + 1)
  | .delete item => IsVersion item.version

/-- The failure that a refused change is reported by: a conflict if its item is not stored at its
version, and a failure of the database if its identifier is taken. -/
def Reports (c : Change) (e : Error) : Prop :=
  match c.item? with
  | some _ => e = .conflict c.id
  | none => ∃ message, e = serverError message

/-- What is made of the reply to the statement of a change. -/
theorem run_write {respond : Program.Responder signature σ} {c : Change}
    {reply : (statementOf now c).Answer} (h : (respond (statementOf now c) s).1 = reply) :
    (write now c).run respond s = (outcomeOf now c reply, (respond (statementOf now c) s).2) := by
  rw [← h]
  rfl

/-- The statement of a change that finds what it is about. -/
theorem Server.Executes.run_write_of_accepts (hv : v.Executes) (now : Instant)
    (hw : v.working s = some w) {c : Change} (hfits : fits c) (ha : w.accepts c) :
    ∃ s', (write now c).run v.respond s = (.ok (w.row now c), s') ∧
      v.committed s' = v.committed s ∧
      v.working s' = some (Function.update w c.id (w.row now c)) := by
  cases c with
  | insert id name =>
    have hr := hv.inserts s w id name now hw ha hfits
    exact ⟨_, run_write (c := .insert id name) hr.reply, hr.committed, hr.working⟩
  | update item =>
    obtain ⟨x, hx, hver⟩ := Option.map_eq_some_iff.1 ha
    obtain ⟨hname, hversion, hraised⟩ := hfits
    have hr := hv.updates s w item.id item.name (Item.modificationTime now item.createdAt)
      item.version x hw hx hver hname hversion hraised
    have hrow : w.row now (.update item) = some ⟨x.id, item.name, x.createdAt,
        some (.ofMicros (Item.modificationTime now item.createdAt).micros), item.version + 1⟩ := by
      rw [Relation.row, hx, Option.map_some]
    rw [hrow]
    exact ⟨_, run_write (c := .update item) hr.reply, hr.committed, hr.working⟩
  | delete item =>
    have hr := hv.deletes s w item.id item.version hw ha hfits
    exact ⟨_, run_write (c := .delete item) hr.reply, hr.committed, hr.working⟩

/-- The statement of a change that does not find what it is about. -/
theorem Server.Executes.run_write_of_not_accepts (hv : v.Executes) (now : Instant)
    (hw : v.working s = some w) {c : Change} (hfits : fits c) (ha : ¬w.accepts c) :
    ∃ e s', (write now c).run v.respond s = (.error e, s') ∧ v.committed s' = v.committed s ∧
      Reports c e := by
  cases c with
  | insert id name =>
    obtain ⟨⟨message, hr⟩, hc⟩ := hv.rejects s w id name now hw ha
    exact ⟨serverError message, _, run_write (c := .insert id name) hr, hc, message, rfl⟩
  | update item =>
    obtain ⟨hname, hversion, _⟩ := hfits
    have hr := hv.passes s w item.id item.name (Item.modificationTime now item.createdAt)
      item.version hw ha hname.2 hversion
    exact ⟨.conflict item.id, _, run_write (c := .update item) hr.reply, hr.committed, rfl⟩
  | delete item =>
    have hr := hv.spares s w item.id item.version hw ha hfits
    exact ⟨.conflict item.id, _, run_write (c := .delete item) hr.reply, hr.committed, rfl⟩

/-! ## Rows and tables -/

variable {t : Table} {staged : List Change}

/-- Whether rows and a table hold the same identifiers at the same versions. -/
def Relation.SameVersions (w : Relation) (t : Table) : Prop :=
  ∀ k, (w k).map Item.version = (t.get? k).map Item.version

theorem Relation.SameVersions.accepts_iff (h : w.SameVersions t) {c : Change} :
    w.accepts c ↔ t.accepts c = true := by
  cases c with
  | insert id name =>
    rw [Table.accepts_insert]
    change w id = none ↔ t.get? id = none
    rw [← Option.map_eq_none_iff, h id, Option.map_eq_none_iff]
  | update item =>
    change (w item.id).map Item.version = some item.version ↔
      ((t.get? item.id).map Item.version == some item.version) = true
    rw [h item.id, beq_iff_eq]
  | delete item =>
    change (w item.id).map Item.version = some item.version ↔
      ((t.get? item.id).map Item.version == some item.version) = true
    rw [h item.id, beq_iff_eq]

/-- A row is written at the version at which a table stores the change. -/
theorem Relation.map_version_row {c : Change} (ha : w.accepts c) :
    (w.row now c).map Item.version = (Table.written? now c).map Item.version := by
  cases c with
  | insert id name => rfl
  | update item =>
    obtain ⟨x, hx, _⟩ := Option.map_eq_some_iff.1 ha
    rw [Relation.row, hx]
    rfl
  | delete item => rfl

theorem Relation.SameVersions.apply (h : w.SameVersions t) {c : Change} (ha : w.accepts c) :
    Relation.SameVersions (Function.update w c.id (w.row now c)) (t.apply now c) := by
  intro k
  rw [Table.get?_apply]
  by_cases hk : k = c.id
  · rw [hk, Function.update_self, if_pos rfl]
    exact Relation.map_version_row ha
  · rw [Function.update_of_ne hk, if_neg hk]
    exact h k

/-- The row of a renaming of a stored item is what a table stores for it. -/
theorem row_eq_written? (hnow : now.IsWhole) {c : Change}
    (hc : ∀ x, c = .update x → ∃ r, w x.id = some r ∧ x.IsRenaming r ∧ r.createdAt.IsWhole) :
    w.row now c = Table.written? now c := by
  cases c with
  | insert id name => rw [Relation.row, Instant.ofMicros_micros hnow]; rfl
  | update item =>
    obtain ⟨r, hr, hren, hcreated⟩ := hc item rfl
    have hsame : item.createdAt = r.createdAt := by rw [hren]
    have hwhole : (Item.modificationTime now item.createdAt).IsWhole := by
      rw [hsame]
      exact hnow.latest hcreated
    rw [Relation.row, hr, Option.map_some, Instant.ofMicros_micros hwhole, ← hren.id_eq, ← hsame]
    rfl
  | delete item => rfl

/-! ## Changes in turn -/

/-- What one change and then the others come to. -/
theorem run_writeAll_cons (respond : Program.Responder signature σ) (c : Change) :
    (writeAll now (c :: staged)).run respond s =
      match (write now c).run respond s with
      | (.error e, s') => (.error e, s')
      | (.ok stored, s') =>
        match (writeAll now staged).run respond s' with
        | (.error e, s'') => (.error e, s'')
        | (.ok items, s'') => (.ok (stored.toList ++ items), s'') := by
  rw [writeAll, Program.run_bind]
  rcases (write now c).run respond s with ⟨_ | stored, s'⟩
  · rfl
  · simp only [Program.run_bind]
    rcases (writeAll now staged).run respond s' with ⟨_ | items, s''⟩ <;> rfl

/-- Changes that are each accepted in its turn are all carried out. -/
theorem Server.Executes.run_writeAll_of_none (hv : v.Executes) (hw : v.working s = some w)
    (hs : w.SameVersions t) (hfits : ∀ c ∈ staged, fits c)
    (h : t.refusedInTurn? now staged = none) :
    ∃ items s' w', (writeAll now staged).run v.respond s = (.ok items, s') ∧
      v.working s' = some w' := by
  induction staged generalizing s w t with
  | nil => exact ⟨[], s, w, rfl, hw⟩
  | cons c rest ih =>
    rw [Table.refusedInTurn?] at h
    by_cases ha : t.accepts c = true
    · rw [if_pos ha] at h
      have hwa := hs.accepts_iff.2 ha
      obtain ⟨s', hrun, _, hw'⟩ := hv.run_write_of_accepts now hw (hfits c List.mem_cons_self) hwa
      obtain ⟨items, s'', w', hrest, hw''⟩ :=
        ih hw' (hs.apply hwa) (fun d hd => hfits d (List.mem_cons_of_mem c hd)) h
      refine ⟨(w.row now c).toList ++ items, s'', w', ?_, hw''⟩
      rw [run_writeAll_cons, hrun]
      simp only [hrest]
    · rw [if_neg ha] at h
      cases h

/-- Changes are carried out up to the first that is refused in its turn. -/
theorem Server.Executes.run_writeAll_of_refused (hv : v.Executes) (hw : v.working s = some w)
    (hs : w.SameVersions t) (hfits : ∀ c ∈ staged, fits c) {d : Change}
    (h : t.refusedInTurn? now staged = some d) :
    ∃ e s', (writeAll now staged).run v.respond s = (.error e, s') ∧
      v.committed s' = v.committed s ∧ Reports d e := by
  induction staged generalizing s w t with
  | nil => cases h
  | cons c rest ih =>
    rw [Table.refusedInTurn?] at h
    by_cases ha : t.accepts c = true
    · rw [if_pos ha] at h
      have hwa := hs.accepts_iff.2 ha
      obtain ⟨s', hrun, hc, hw'⟩ := hv.run_write_of_accepts now hw (hfits c List.mem_cons_self) hwa
      obtain ⟨e, s'', hrest, hc', hrep⟩ :=
        ih hw' (hs.apply hwa) (fun d hd => hfits d (List.mem_cons_of_mem c hd)) h
      refine ⟨e, s'', ?_, hc'.trans hc, hrep⟩
      rw [run_writeAll_cons, hrun]
      simp only [hrest]
    · rw [if_neg ha, Option.some.injEq] at h
      obtain ⟨e, s', hrun, hc, hrep⟩ :=
        hv.run_write_of_not_accepts now hw (hfits c List.mem_cons_self) (mt hs.accepts_iff.1 ha)
      refine ⟨e, s', ?_, hc, h ▸ hrep⟩
      rw [run_writeAll_cons, hrun]

/-- When no identifier is touched twice, accepted changes are carried out just as a table applies
them. -/
theorem Server.Executes.run_writeAll_of_nodup (hv : v.Executes) (hw : v.working s = some t.get?)
    (hnow : now.IsWhole) (hfits : ∀ c ∈ staged, fits c)
    (hread : ∀ x, .update x ∈ staged →
      ∃ r, t.get? x.id = some r ∧ x.IsRenaming r ∧ r.createdAt.IsWhole)
    (hnodup : (staged.map Change.id).Nodup) (h : t.refused? staged = none) :
    ∃ s', (writeAll now staged).run v.respond s =
        (.ok (staged.filterMap (Table.written? now)), s') ∧
      v.working s' = some (t.applyAll now staged).get? := by
  induction staged generalizing s t with
  | nil => exact ⟨s, rfl, hw⟩
  | cons c rest ih =>
    rw [List.map_cons, List.nodup_cons] at hnodup
    obtain ⟨hnotMem, hnodup⟩ := hnodup
    have ha : t.accepts c = true := Table.refused?_eq_none.1 h c List.mem_cons_self
    have hsame : Relation.SameVersions t.get? t := fun k => rfl
    obtain ⟨s', hrun, _, hw'⟩ :=
      hv.run_write_of_accepts now hw (hfits c List.mem_cons_self) (hsame.accepts_iff.2 ha)
    have hrow : Relation.row t.get? now c = Table.written? now c := by
      apply row_eq_written? hnow
      rintro x rfl
      exact hread x List.mem_cons_self
    rw [hrow] at hrun hw'
    have happly : Function.update t.get? c.id (Table.written? now c) = (t.apply now c).get? := by
      funext k
      rw [Table.get?_apply, Function.update_apply]
    rw [happly] at hw'
    have hread' : ∀ x, .update x ∈ rest →
        ∃ r, (t.apply now c).get? x.id = some r ∧ x.IsRenaming r ∧ r.createdAt.IsWhole := by
      intro x hx
      have hne : x.id ≠ c.id := by
        intro heq
        exact hnotMem (List.mem_map.2 ⟨.update x, hx, heq⟩)
      rw [Table.get?_apply, if_neg hne]
      exact hread x (List.mem_cons_of_mem c hx)
    have hnone : (t.apply now c).refused? rest = none := by
      rw [Table.refused?_apply_of_notMem hnotMem, ← h, Table.refused?_cons_of_accepts ha]
    obtain ⟨s'', hrest, hw''⟩ :=
      ih hw' (fun d hd => hfits d (List.mem_cons_of_mem c hd)) hread' hnodup hnone
    refine ⟨s'', ?_, hw''⟩
    rw [run_writeAll_cons, hrun]
    simp only [hrest]
    cases hwritten : Table.written? now c with
    | none => simp [hwritten]
    | some y => simp [hwritten]

/-! ## Transactions -/

variable {α : Type} {body : Dialogue (Except Error α)}

/-- What a transaction comes to once it has begun. -/
theorem run_transaction (respond : Program.Responder signature σ)
    (h : (respond .begin s).1 = .ok ()) :
    (transaction body).run respond s =
      match body.run respond (respond .begin s).2 with
      | (.error e, s') => (.error e, (respond .rollback s').2)
      | (.ok a, s') => (conclude a).run respond s' := by
  rw [transaction, Program.run_bind]
  change Program.run respond (match (respond .begin s).1 with
    | .error message => _
    | .ok () => _) (respond .begin s).2 = _
  rw [h]
  change Program.run respond (body >>= _) _ = _
  rw [Program.run_bind]
  rcases body.run respond (respond .begin s).2 with ⟨_ | a, s'⟩ <;> rfl

/-- How a transaction ends whose commit succeeds. -/
theorem run_conclude (respond : Program.Responder signature σ) {a : α}
    (h : (respond .commit s).1 = .ok ()) :
    (conclude a).run respond s = (.ok a, (respond .commit s).2) := by
  rw [conclude, Program.run_bind]
  change Program.run respond (match (respond .commit s).1 with
    | .error message => _
    | .ok () => _) (respond .commit s).2 = _
  rw [h]
  rfl

/-- A transaction whose body succeeds makes its rows the committed ones. -/
theorem Server.Executes.run_transaction_of_ok (hv : v.Executes) (hidle : v.idle s) {a : α}
    {s' : σ} (hbody : body.run v.respond (v.respond .begin s).2 = (.ok a, s'))
    (hw' : v.working s' = some w) :
    ∃ s'', (transaction body).run v.respond s = (.ok a, s'') ∧ v.committed s'' = w := by
  obtain ⟨hok, hc⟩ := hv.commits s' w hw'
  refine ⟨(v.respond .commit s').2, ?_, hc⟩
  rw [run_transaction v.respond (hv.begins s hidle).reply, hbody]
  exact run_conclude v.respond hok

/-- A transaction whose body fails leaves the committed rows. -/
theorem Server.Executes.run_transaction_of_error (hv : v.Executes) (hidle : v.idle s)
    {e : Error} {s' : σ} (hbody : body.run v.respond (v.respond .begin s).2 = (.error e, s'))
    (hc : v.committed s' = v.committed s) :
    ∃ s'', (transaction body).run v.respond s = (.error e, s'') ∧
      v.committed s'' = v.committed s := by
  refine ⟨(v.respond .rollback s').2, ?_, ?_⟩
  · rw [run_transaction v.respond (hv.begins s hidle).reply, hbody]
  · rw [hv.rolls_back, hc]

/-! ## Commits -/

theorem commit_nil : commit now [] = .done (.ok []) := rfl

theorem commit_of_ne_nil (h : staged ≠ []) :
    commit now staged = transaction (writeAll now staged) := by
  rw [commit, if_neg (by simpa using h)]

theorem Server.Executes.run_commit_of_refused (hv : v.Executes) (hidle : v.idle s)
    (hs : Relation.SameVersions (v.committed s) t) (hfits : ∀ c ∈ staged, fits c) {d : Change}
    (h : t.refusedInTurn? now staged = some d) :
    ∃ e s', (commit now staged).run v.respond s = (.error e, s') ∧
      v.committed s' = v.committed s ∧ Reports d e := by
  have hne : staged ≠ [] := by
    rintro rfl
    cases h
  have hbegin := hv.begins s hidle
  obtain ⟨e, s', hrun, hc, hrep⟩ := hv.run_writeAll_of_refused hbegin.working hs hfits h
  obtain ⟨s'', htrans, hc'⟩ := hv.run_transaction_of_error hidle hrun (hc.trans hbegin.committed)
  exact ⟨e, s'', by rw [commit_of_ne_nil hne, htrans], hc', hrep⟩

theorem Server.Executes.run_commit_of_none (hv : v.Executes) (hidle : v.idle s)
    (hs : Relation.SameVersions (v.committed s) t) (hfits : ∀ c ∈ staged, fits c)
    (h : t.refusedInTurn? now staged = none) :
    ∃ items s', (commit now staged).run v.respond s = (.ok items, s') := by
  by_cases hne : staged = []
  · exact ⟨[], s, by rw [hne, commit_nil]; rfl⟩
  · obtain ⟨items, s', w, hrun, hw'⟩ :=
      hv.run_writeAll_of_none (hv.begins s hidle).working hs hfits h
    obtain ⟨s'', htrans, _⟩ := hv.run_transaction_of_ok hidle hrun hw'
    exact ⟨items, s'', by rw [commit_of_ne_nil hne, htrans]⟩

theorem Server.Executes.run_commit_of_nodup (hv : v.Executes) (hidle : v.idle s)
    (hrows : v.committed s = t.get?) (hnow : now.IsWhole) (hfits : ∀ c ∈ staged, fits c)
    (hread : ∀ x, .update x ∈ staged →
      ∃ r, t.get? x.id = some r ∧ x.IsRenaming r ∧ r.createdAt.IsWhole)
    (hnodup : (staged.map Change.id).Nodup) (h : t.refused? staged = none) :
    ∃ s', (commit now staged).run v.respond s =
        (.ok (staged.filterMap (Table.written? now)), s') ∧
      v.committed s' = (t.applyAll now staged).get? := by
  by_cases hne : staged = []
  · refine ⟨s, ?_, ?_⟩
    · rw [hne, commit_nil]
      rfl
    · rw [hne, hrows]
      rfl
  · have hworking := (hv.begins s hidle).working
    rw [hrows] at hworking
    obtain ⟨s', hrun, hw'⟩ := hv.run_writeAll_of_nodup hworking hnow hfits hread hnodup h
    obtain ⟨s'', htrans, hc⟩ := hv.run_transaction_of_ok hidle hrun hw'
    exact ⟨s'', by rw [commit_of_ne_nil hne, htrans], hc⟩

end Sql
end ItemCatalog
