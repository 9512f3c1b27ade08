import ItemCatalog.Proofs.Page
import ItemCatalog.Proofs.Sql.Ledger
import ItemCatalog.Proofs.Storage.Listing

/-!
# Connections

What the reads of storage rely on in a server, beside what its commits do: that between two
transactions a row is found by its key, and that a transaction which only reads lists the rows by
creation time and identifier and counts them. Main statements: over a server with the rows of a
table, a look-up, a page and a commit of one change come to what they come to over the table
(`run_find`, `run_page`, `run_commit_of_accepts`, `run_commit_of_not_accepts`), and leave the
connection between two transactions.

## Main definitions

* `Connection`: a server, and what a transaction sees of it that only reads.
* `Relation.Lists`: the rows in the order in which a server lists them.
* `Connection.Answers`: what a server is relied upon to do.
-/

namespace ItemCatalog.Sql
open Storage (Change Error Table)

/-! ## Listings of rows -/

/-- Whether a list holds the rows of a relation under their keys, ascending by creation time and
then by identifier. -/
structure Relation.Lists (w : Relation) (l : List Item) : Prop where
  ascending : l.Pairwise Item.Before
  rows : ∀ k x, w k = some x ↔ x ∈ l ∧ x.id = k

/-- The listing of a table holds its rows. -/
theorem lists_listed {t : Table} (hk : t.IsKeyed) : Relation.Lists t.get? t.listed where
  ascending := Table.pairwise_listed hk
  rows := by
    intro k x
    rw [Table.mem_listed hk]
    constructor
    · intro h
      have hid := hk k x h
      rw [hid]
      exact ⟨h, rfl⟩
    · rintro ⟨h, rfl⟩
      exact h

/-- There is one listing only. -/
theorem Relation.Lists.unique {w : Relation} {l l' : List Item} (h : w.Lists l) (h' : w.Lists l') :
    l = l' := by
  refine Item.eq_of_ascending h.ascending h'.ascending fun x => ?_
  have hx : x ∈ l ↔ w x.id = some x := by simp [h.rows]
  have hx' : x ∈ l' ↔ w x.id = some x := by simp [h'.rows]
  rw [hx, hx']

/-! ## Connections -/

/-- A server, and the rows that an open transaction sees that only reads. -/
structure Connection (σ : Type) extends Server σ where
  reading : σ → Option Relation

variable {σ : Type} {v : Connection σ} {s : σ} {w : Relation} {now : Instant}

/-- Inside a transaction that only reads a statement is replied to, and the transaction goes on
seeing the rows `w`. -/
structure Connection.Reads (v : Connection σ) (s : σ) (q : Statement) (reply : q.Answer)
    (w : Relation) : Prop where
  reply : (v.respond q s).1 = reply
  reading : v.reading (v.respond q s).2 = some w

/-- A server answers statements by their meaning. -/
structure Connection.Answers (v : Connection σ) : Prop extends v.toServer.Executes where
  /-- A commit ends a transaction. -/
  idle_commit : ∀ s w, v.working s = some w → v.idle (v.respond .commit s).2
  /-- A rollback ends a transaction, whatever has failed in it. -/
  idle_rollback : ∀ s, v.idle (v.respond .rollback s).2
  /-- Between two transactions a row is found by its key. -/
  finds : ∀ s id, v.idle s →
    (v.respond (.selectOne id) s).1 = .ok ((v.committed s id).toList.map .ofItem) ∧
      v.committed (v.respond (.selectOne id) s).2 = v.committed s ∧
      v.idle (v.respond (.selectOne id) s).2
  /-- A transaction can be made one that only reads. -/
  isolates : ∀ s w, v.working s = some w → v.Reads s .isolate (.ok ()) w
  /-- Rows are listed in their order, some of them left out before and after. -/
  lists : ∀ s w l (offset limit : Int64), v.reading s = some w → w.Lists l →
    0 ≤ offset.toInt → 0 ≤ limit.toInt →
    v.Reads s (.selectPage offset limit)
      (.ok (((l.drop offset.toInt.toNat).take limit.toInt.toNat).map .ofItem)) w
  counts : ∀ s w l, v.reading s = some w → w.Lists l →
    v.Reads s .count (Except.ok [some (l.length : Int)]) w
  /-- A transaction that only reads leaves the rows that it has seen. -/
  closes : ∀ s w, v.reading s = some w → (v.respond .commit s).1 = .ok () ∧
    v.committed (v.respond .commit s).2 = w ∧ v.idle (v.respond .commit s).2

/-! ## Rows as they are read -/

@[simp] theorem decode_ofItem (x : Item) : decode (.ofItem x) = .ok x := rfl

theorem decodeAll_map_ofItem (l : List Item) : decodeAll (l.map .ofItem) = .ok l := by
  induction l with
  | nil => rfl
  | cons x rest ih => rw [List.map_cons, decodeAll, decode_ofItem, ih]

theorem firstItem?_toList (x : Option Item) : firstItem? (.ok (x.toList.map .ofItem)) = .ok x := by
  cases x <;> rfl

/-! ## Look-ups -/

/-- A look-up finds the row under a key. -/
theorem Connection.Answers.run_find (hv : v.Answers) (hidle : v.idle s) (id : Identifier) :
    ∃ s', (find id).run v.respond s = (.ok (v.committed s id), s') ∧
      v.committed s' = v.committed s ∧ v.idle s' := by
  obtain ⟨hreply, hrows, hidle'⟩ := hv.finds s id hidle
  have hfound : firstItem? (v.respond (.selectOne id) s).1 = .ok (v.committed s id) :=
    (congrArg firstItem? hreply).trans (firstItem?_toList _)
  exact ⟨_, Prod.ext hfound rfl, hrows, hidle'⟩

/-! ## Pages -/

/-- The items of a window are read as they are listed. -/
theorem Connection.Answers.run_windowItems (hv : v.Answers) (hw : v.reading s = some w)
    {l : List Item} (hl : w.Lists l) (window : Window) :
    ∃ s', (windowItems window).run v.respond s = (.ok (window.slice l), s') ∧
      v.reading s' = some w := by
  have hoffset := window.toInt_offset
  have hsize := window.toInt_pageSize
  have hr := hv.lists s w l window.offset.toInt64 window.pageSize.toUInt64.toInt64 hw hl
    (by omega) (by omega)
  have hitems : allItems (v.respond (.selectPage window.offset.toInt64
      window.pageSize.toUInt64.toInt64) s).1 = .ok (window.slice l) := by
    refine (congrArg allItems hr.reply).trans ((decodeAll_map_ofItem _).trans ?_)
    rw [hoffset, hsize]
    rfl
  exact ⟨_, Prod.ext hitems rfl, hr.reading⟩

theorem Connection.Answers.run_count (hv : v.Answers) (hw : v.reading s = some w)
    {l : List Item} (hl : w.Lists l) :
    ∃ s', count.run v.respond s = (.ok l.length, s') ∧ v.reading s' = some w := by
  have hr := hv.counts s w l hw hl
  have hcount : firstCount (v.respond .count s).1 = .ok l.length := congrArg firstCount hr.reply
  exact ⟨_, Prod.ext hcount rfl, hr.reading⟩

/-- Inside its transaction a page is read as it is listed, with the number of all rows. -/
theorem Connection.Answers.run_pageBody (hv : v.Answers) (hw : v.working s = some w)
    {l : List Item} (hl : w.Lists l) (window : Window) :
    ∃ s', (pageBody window).run v.respond s = (.ok ⟨window.slice l, l.length⟩, s') ∧
      v.reading s' = some w := by
  have hisolated := hv.isolates s w hw
  obtain ⟨s₁, hitems, hw₁⟩ := hv.run_windowItems hisolated.reading hl window
  obtain ⟨s₂, hcount, hw₂⟩ := hv.run_count hw₁ hl
  refine ⟨s₂, ?_, hw₂⟩
  rw [pageBody, Program.run_bind]
  change Program.run v.respond (match (v.respond .isolate s).1 with
    | .error message => _
    | .ok () => _) (v.respond .isolate s).2 = _
  rw [hisolated.reply]
  change Program.run v.respond (windowItems window >>= _) _ = _
  rw [Program.run_bind, hitems]
  change Program.run v.respond (count >>= _) _ = _
  rw [Program.run_bind, hcount]
  rfl

/-- A page is read as it is listed, with the number of all rows. -/
theorem Connection.Answers.run_page (hv : v.Answers) (hidle : v.idle s) {l : List Item}
    (hl : Relation.Lists (v.committed s) l) (window : Window) :
    ∃ s', (page window).run v.respond s = (.ok ⟨window.slice l, l.length⟩, s') ∧
      v.committed s' = v.committed s ∧ v.idle s' := by
  have hbegin := hv.begins s hidle
  obtain ⟨s', hbody, hw'⟩ := hv.run_pageBody hbegin.working hl window
  obtain ⟨hok, hrows, hidle'⟩ := hv.closes s' _ hw'
  refine ⟨_, ?_, hrows, hidle'⟩
  rw [page, run_transaction v.respond hbegin.reply, hbody]
  exact run_conclude v.respond hok

/-! ## Commits of one change -/

section Commit
variable {t : Table} {c : Change}

/-- A change that the table accepts is committed as the table commits it. -/
theorem Connection.Answers.run_commit_of_accepts (hv : v.Answers) (hidle : v.idle s)
    (hrows : v.committed s = t.get?) (hnow : now.IsWhole) (hfits : fits c)
    (hread : ∀ x, c = .update x →
      ∃ r, t.get? x.id = some r ∧ x.IsRenaming r ∧ r.createdAt.IsWhole)
    (ha : t.accepts c = true) :
    ∃ s', (commit now [c]).run v.respond s = ((t.commit now [c]).1, s') ∧
      v.committed s' = (t.commit now [c]).2.get? ∧ v.idle s' := by
  have hbegin := hv.begins s hidle
  have hworking := hbegin.working
  rw [hrows] at hworking
  have hnone : t.refused? [c] = none := by
    rw [Table.refused?_cons_of_accepts ha]
    rfl
  obtain ⟨s', hbody, hw'⟩ : ∃ s', (writeAll now [c]).run v.respond (v.respond .begin s).2 =
      (.ok ([c].filterMap (Table.written? now)), s') ∧
        v.working s' = some (t.applyAll now [c]).get? := by
    refine hv.run_writeAll_of_nodup hworking hnow ?_ ?_ (by simp) hnone
    · intro d hd
      rw [List.mem_singleton.1 hd]
      exact hfits
    · intro x hx
      exact hread x (List.mem_singleton.1 hx).symm
  obtain ⟨hok, hcommitted⟩ := hv.commits s' _ hw'
  rw [Table.commit_eq_of_refused_none hnone]
  refine ⟨_, ?_, hcommitted, hv.idle_commit s' _ hw'⟩
  rw [commit_of_ne_nil (List.cons_ne_nil c []), run_transaction v.respond hbegin.reply, hbody]
  exact run_conclude v.respond hok

/-- A change that the table does not accept is not committed. -/
theorem Connection.Answers.run_commit_of_not_accepts (hv : v.Answers) (hidle : v.idle s)
    (hrows : v.committed s = t.get?) (hfits : fits c) (ha : t.accepts c = false) :
    ∃ e s', (commit now [c]).run v.respond s = (.error e, s') ∧
      v.committed s' = t.get? ∧ v.idle s' := by
  have hbegin := hv.begins s hidle
  have hsame : Relation.SameVersions (v.committed s) t := fun k => by rw [hrows]
  have hrefused : ¬Relation.accepts (v.committed s) c := by
    rw [hsame.accepts_iff, ha]
    exact Bool.false_ne_true
  obtain ⟨e, s', hwrite, hcommitted, _⟩ :=
    hv.run_write_of_not_accepts now hbegin.working hfits hrefused
  refine ⟨e, (v.respond .rollback s').2, ?_, ?_, hv.idle_rollback s'⟩
  · rw [commit_of_ne_nil (List.cons_ne_nil c []), run_transaction v.respond hbegin.reply,
      run_writeAll_cons, hwrite]
  · rw [hv.rolls_back, hcommitted, hbegin.committed, hrows]

end Commit

/-! ## The ledger -/

namespace Ledger

/-- A connection to a ledger. Its transactions that only read are transactions like the others. -/
def connection : Connection Ledger where
  toServer := server
  reading := server.working

/-- A ledger answers statements by their meaning. -/
theorem answers : connection.Answers where
  toExecutes := executes
  idle_commit := by
    intro l w hw
    obtain ⟨rows, hl, rfl⟩ := eq_of_working hw
    rw [hl]
    rfl
  idle_rollback := by
    intro l
    rfl
  finds := by
    rintro ⟨rows, _⟩ id rfl
    exact ⟨rfl, rfl, rfl⟩
  isolates := by
    intro l w hw
    obtain ⟨rows, hl, rfl⟩ := eq_of_working hw
    rw [hl]
    exact ⟨rfl, rfl⟩
  lists := by
    intro l w items offset limit hw hitems _ _
    obtain ⟨rows, hl, rfl⟩ := eq_of_working hw
    have hkeyed : rows.IsKeyed := fun k x hx => ((hitems.rows k x).1 hx).2
    rw [hl, hitems.unique (lists_listed hkeyed)]
    exact ⟨rfl, rfl⟩
  counts := by
    intro l w items hw hitems
    obtain ⟨rows, hl, rfl⟩ := eq_of_working hw
    have hkeyed : rows.IsKeyed := fun k x hx => ((hitems.rows k x).1 hx).2
    rw [hl, hitems.unique (lists_listed hkeyed), Table.length_listed]
    exact ⟨rfl, rfl⟩
  closes := by
    intro l w hw
    obtain ⟨rows, hl, rfl⟩ := eq_of_working hw
    rw [hl]
    exact ⟨rfl, rfl, rfl⟩

end Ledger
end ItemCatalog.Sql
