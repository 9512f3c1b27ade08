import ItemCatalog.Proofs.Service.Fate
import ItemCatalog.Proofs.Sql.Connection
import ItemCatalog.Sql.Pool

/-!
# The service over two stores

Calls one after another over any store, and what becomes of them over a table and over a database
with the same rows. Main statement: `backends_agree`, by which callers cannot tell the one from the
other.

## Main definitions

* `Course.over`: what a course comes to over a store.
* `replayOver`: calls one after another over a store.
* `Reply.shown`: what a caller sees of a reply.
* `Mirrors`: whether a database that is between two transactions holds what a table holds.
* `HasRoom`: whether the versions in a table can be raised.
-/

namespace ItemCatalog.Service
open Storage (Change Request Table Backend)
open Sql (Connection Pool)

variable {σ β R : Type}

/-! ## Over any store -/

/-- The rest of a course over a store, once an item has been read. -/
def Errand.over (b : Backend σ) (now : Instant) (item : Item) (s : σ) : Errand R → R × σ
  | .answer a => (a, s)
  | .edit kind reply =>
    (reply (b.commit now [kind.change item] s).1, (b.commit now [kind.change item] s).2)

/-- The rest of a course over a store, once an item has been looked for. -/
def lookupOver (b : Backend σ) (now : Instant) (broken : Storage.Error → R) (missing : R)
    (errand : Item → Errand R) : Except Storage.Error (Option Item) × σ → R × σ
  | (.error e, s) => (broken e, s)
  | (.ok none, s) => (missing, s)
  | (.ok (some item), s) => (errand item).over b now item s

/-- What a course answers over a store, and what it leaves: `fresh` is the identifier that an
inserted item gets. -/
def Course.over (b : Backend σ) (now : Instant) (fresh : Identifier) (s : σ) : Course R → R × σ
  | .refused a => (a, s)
  | .creation name reply =>
    (reply fresh (b.commit now [.insert fresh name] s).1, (b.commit now [.insert fresh name] s).2)
  | .listing window reply => (reply (b.page window s).1, (b.page window s).2)
  | .lookup id broken missing errand => lookupOver b now broken missing errand (b.find id s)

/-- Surroundings at the beginning of a call over a store. -/
def openingOver (s : σ) (now : Instant) (random : BitVec 128) : Surroundings σ where
  store := s
  now := now
  entropy := ⟨[random], 0⟩

/-- A course in surroundings of its own comes to what it comes to over their store. -/
theorem Course.run_plan_over (c : Course R) (b : Backend σ) (s : σ) (now : Instant)
    (random : BitVec 128) :
    ((openingOver s now random).run b c.plan).1 = (c.over b now (.ofRandom random) s).1 ∧
      ((openingOver s now random).run b c.plan).2.store =
        (c.over b now (.ofRandom random) s).2 := by
  cases c with
  | refused a => exact ⟨rfl, rfl⟩
  | creation name reply => exact ⟨rfl, rfl⟩
  | listing window reply => exact ⟨rfl, rfl⟩
  | lookup id broken missing errand =>
    have hplan : (openingOver s now random).run b (Course.lookup id broken missing errand).plan =
        ({ openingOver (b.find id s).2 now random with
            asked := [.start, .find id] } : Surroundings σ).run b
          (lookupPlan broken missing errand (b.find id s).1) := rfl
    rw [hplan, Course.over]
    rcases b.find id s with ⟨_ | _ | item, s'⟩
    · exact ⟨rfl, rfl⟩
    · exact ⟨rfl, rfl⟩
    · rw [lookupPlan, lookupOver]
      cases errand item with
      | answer a => exact ⟨rfl, rfl⟩
      | edit kind reply => cases kind <;> exact ⟨rfl, rfl⟩

/-- Serves a call over a store: its reply, and the store afterwards. -/
def Turn.serveOver (b : Backend σ) (turn : Turn) (s : σ) : Reply × σ :=
  let served := (openingOver s turn.now turn.random).run b turn.invocation.program
  (served.1, served.2.store)

/-- Serves calls one after another over a store: their replies, and the store in the end. -/
def replayOver (b : Backend σ) : List Turn → σ → List Reply × σ
  | [], s => ([], s)
  | turn :: rest, s =>
    ((turn.serveOver b s).1 :: (replayOver b rest (turn.serveOver b s).2).1,
      (replayOver b rest (turn.serveOver b s).2).2)

/-- A call comes to what its course comes to. -/
theorem Turn.serveOver_eq (b : Backend σ) (turn : Turn) (s : σ) :
    turn.serveOver b s = turn.invocation.course.over b turn.now turn.fresh s := by
  obtain ⟨hreply, halike⟩ := Surroundings.run_of_follows (follows_course turn.invocation) b
    (Surroundings.Alike.refl (openingOver s turn.now turn.random))
  obtain ⟨hreply', hstore⟩ :=
    turn.invocation.course.run_plan_over b s turn.now turn.random
  exact Prod.ext (hreply.trans hreply') (halike.store.trans hstore)

/-! ## What callers see -/

/-- What a caller sees of a reply: the answer, or the status of the failure. -/
def Reply.shown (r : Reply) : (method : Method) × Except Status method.Answer :=
  ⟨r.method, r.outcome.mapError Failure.status⟩

/-- Whether callers cannot tell by what failure an insertion failed. -/
def Course.Hides (shown : R → β) (c : Course R) : Prop :=
  ∀ name reply, c = .creation name reply →
    ∀ id e e', shown (reply id (.error e)) = shown (reply id (.error e'))

theorem creates_pageCourse (query : PageQuery) : (pageCourse query).creates = false := by
  rw [pageCourse]
  split <;> rfl

theorem creates_readCourse (key : ItemKey) : (readCourse key).creates = false := by
  rw [readCourse]
  split <;> rfl

theorem creates_updateCourse (request : ItemMessage) : (updateCourse request).creates = false := by
  rw [updateCourse]
  split <;> rfl

theorem creates_deleteCourse (key : ItemKey) : (deleteCourse key).creates = false := by
  rw [deleteCourse]
  split <;> rfl

/-- A course that inserts nothing has nothing to hide. -/
theorem Course.hides_of_creates {c : Course R} (h : c.creates = false) (shown : R → β) :
    c.Hides shown := by
  rintro name reply rfl
  cases h

theorem hides_createCourse (request : ItemMessage) :
    ((createCourse request).map fun outcome => (⟨.createItem, outcome⟩ : Reply)).Hides
      Reply.shown := by
  intro name reply h
  rw [createCourse] at h
  split at h
  · cases h
  · cases h
    intro id e e'
    rfl

/-- The status of a failed insertion does not depend on the failure of storage. -/
theorem Invocation.hides (i : Invocation) : i.course.Hides Reply.shown := by
  obtain ⟨method, call, query⟩ := i
  cases method with
  | createItem => exact hides_createCourse query
  | getItems =>
    refine Course.hides_of_creates ?_ _
    exact (Course.creates_map _ _).trans (creates_pageCourse query)
  | getItem =>
    refine Course.hides_of_creates ?_ _
    exact (Course.creates_map _ _).trans (creates_readCourse query)
  | updateItem =>
    refine Course.hides_of_creates ?_ _
    exact (Course.creates_map _ _).trans (creates_updateCourse query)
  | deleteItem =>
    refine Course.hides_of_creates ?_ _
    exact (Course.creates_map _ _).trans (creates_deleteCourse query)

/-- A column of names holds every name that a call may give an item. -/
theorem Invocation.isName_of_gives {i : Invocation} {name : String} (h : i.course.Gives name) :
    Sql.IsName name := by
  obtain ⟨_, hlength, hallowed⟩ :=
    Name.broken?_eq_none_iff_chars.1 (Invocation.isStored_of_gives h).2
  refine ⟨hlength, fun hzero => ?_⟩
  have hnot : Name.isAllowed '\x00' = false := by decide
  rw [Name.isAllowed_iff.2 (hallowed _ hzero)] at hnot
  cases hnot

/-! ## A database and a table -/

/-- Whether a database that is between two transactions holds what a table holds, each item under
its own identifier and created at a whole microsecond. -/
structure Mirrors (v : Connection σ) (pool : Pool σ) (t : Table) : Prop where
  isOpen : pool.isClosed = false
  idle : v.idle pool.database.server
  rows : v.committed pool.database.server = t.get?
  keyed : t.IsKeyed
  whole : ∀ k y, t.get? k = some y → y.createdAt.IsWhole

/-- Whether a column holds the versions in a table and the next ones. -/
def HasRoom (t : Table) : Prop :=
  ∀ k y, t.get? k = some y → Sql.IsVersion y.version ∧ Sql.IsVersion (y.version + 1)

section Mirrors
variable {v : Connection σ} {pool : Pool σ} {t t' : Table} {now : Instant} {fresh : Identifier}

/-- A dialogue over an open pool. -/
theorem Mirrors.talk {α : Type} {dialogue : Sql.Dialogue (Except Storage.Error α)}
    (hm : Mirrors v pool t) {a : Except Storage.Error α} {s' : σ}
    (hrun : dialogue.run v.respond pool.database.server = (a, s'))
    (hrows : v.committed s' = t'.get?) (hidle : v.idle s') (hkeyed : t'.IsKeyed)
    (hwhole : ∀ k y, t'.get? k = some y → y.createdAt.IsWhole) :
    ∃ pool', pool.talk v.respond dialogue = (a, pool') ∧ Mirrors v pool' t' := by
  refine ⟨{ pool with database := { pool.database with server := s' } }, ?_, hm.isOpen, hidle,
    hrows, hkeyed, hwhole⟩
  rw [Pool.talk, hm.isOpen, if_neg Bool.false_ne_true, Sql.Database.talk, hrun]

theorem Mirrors.find (hm : Mirrors v pool t) (hv : v.Answers) (id : Identifier) :
    ∃ pool', (Pool.backend v.respond).find id pool = (.ok (t.get? id), pool') ∧
      Mirrors v pool' t := by
  obtain ⟨s', hrun, hrows, hidle⟩ := hv.run_find hm.idle id
  rw [hm.rows] at hrun hrows
  exact hm.talk hrun hrows hidle hm.keyed hm.whole

theorem Mirrors.page (hm : Mirrors v pool t) (hv : v.Answers) (window : Window) :
    ∃ pool', (Pool.backend v.respond).page window pool = (.ok (t.page window), pool') ∧
      Mirrors v pool' t := by
  have hlists : Sql.Relation.Lists (v.committed pool.database.server) t.listed := by
    rw [hm.rows]
    exact Sql.lists_listed hm.keyed
  obtain ⟨s', hrun, hrows, hidle⟩ := hv.run_page hm.idle hlists window
  rw [hm.rows] at hrows
  rw [Table.length_listed] at hrun
  exact hm.talk hrun hrows hidle hm.keyed hm.whole

/-- Whatever a commit of one change writes is created at a whole microsecond. -/
theorem Mirrors.whole_commit (hm : Mirrors v pool t) (hnow : now.IsWhole) {c : Change}
    (hread : ∀ x, c = .update x →
      ∃ r, t.get? x.id = some r ∧ x.IsRenaming r ∧ r.createdAt.IsWhole) :
    ∀ k y, (t.commit now [c]).2.get? k = some y → y.createdAt.IsWhole := by
  intro k y hy
  rcases Table.get?_commit t now [c] k with hget | ⟨d, hd, _, _, hget⟩
  · rw [hget] at hy
    exact hm.whole k y hy
  · rw [hget] at hy
    cases List.mem_singleton.1 hd
    cases c with
    | insert id name =>
      cases hy
      exact hnow
    | update x =>
      cases hy
      obtain ⟨r, _, hren, hwhole⟩ := hread x rfl
      have hcreated : x.createdAt = r.createdAt := by rw [hren]
      change x.createdAt.IsWhole
      rw [hcreated]
      exact hwhole
    | delete x => cases hy

/-- A change that the table accepts is committed by both alike. -/
theorem Mirrors.commit_of_accepts (hm : Mirrors v pool t) (hv : v.Answers) (hnow : now.IsWhole)
    {c : Change} (hfits : Sql.fits c)
    (hread : ∀ x, c = .update x →
      ∃ r, t.get? x.id = some r ∧ x.IsRenaming r ∧ r.createdAt.IsWhole)
    (ha : t.accepts c = true) :
    ∃ pool', (Pool.backend v.respond).commit now [c] pool = ((t.commit now [c]).1, pool') ∧
      Mirrors v pool' (t.commit now [c]).2 := by
  obtain ⟨s', hrun, hrows, hidle⟩ :=
    hv.run_commit_of_accepts hm.idle hm.rows hnow hfits hread ha
  exact hm.talk hrun hrows hidle hm.keyed.commit (hm.whole_commit hnow hread)

/-- A change that the table does not accept is committed by neither. -/
theorem Mirrors.commit_of_not_accepts (hm : Mirrors v pool t) (hv : v.Answers) {c : Change}
    (hfits : Sql.fits c) (ha : t.accepts c = false) :
    ∃ e pool', (Pool.backend v.respond).commit now [c] pool = (.error e, pool') ∧
      Mirrors v pool' t := by
  obtain ⟨e, s', hrun, hrows, hidle⟩ := hv.run_commit_of_not_accepts hm.idle hm.rows hfits ha
  obtain ⟨pool', htalk, hm'⟩ := hm.talk hrun hrows hidle hm.keyed hm.whole
  exact ⟨e, pool', htalk, hm'⟩

/-! ## One call over both -/

/-- Whether a call comes to the same for its caller over a database and over a table, and leaves
the same in both. -/
def Matches (v : Connection σ) (shown : R → β) (a : R × Pool σ) (b : R × Table) : Prop :=
  shown a.1 = shown b.1 ∧ Mirrors v a.2 b.2

theorem Mirrors.creation (hm : Mirrors v pool t) (hv : v.Answers) (hnow : now.IsWhole)
    {shown : R → β} {name : String}
    {reply : Identifier → Except Storage.Error (List Item) → R} (hname : Sql.IsName name)
    (hhides : ∀ id e e', shown (reply id (.error e)) = shown (reply id (.error e'))) :
    Matches v shown ((Course.creation name reply).over (Pool.backend v.respond) now fresh pool)
      ((Course.creation name reply).over Table.backend now fresh t) := by
  cases ha : t.accepts (.insert fresh name) with
  | true =>
    obtain ⟨pool', hcommit, hm'⟩ :=
      hm.commit_of_accepts (c := .insert fresh name) hv hnow hname nofun ha
    rw [Course.over, hcommit]
    exact ⟨rfl, hm'⟩
  | false =>
    -- The identifier is taken: a conflict for the table, and a failed statement for the database.
    obtain ⟨e, pool', hcommit, hm'⟩ : ∃ e pool', (Pool.backend v.respond).commit now
        [.insert fresh name] pool = (.error e, pool') ∧ Mirrors v pool' t :=
      hm.commit_of_not_accepts hv hname ha
    have hrefused : t.commit now [.insert fresh name] = (.error (.conflict fresh), t) :=
      Table.commit_eq_of_refused (Table.refused?_cons_of_not_accepts ha)
    rw [Course.over, hcommit]
    change Matches v shown (reply fresh (.error e), pool')
      (reply fresh (t.commit now [.insert fresh name]).1, (t.commit now [.insert fresh name]).2)
    rw [hrefused]
    exact ⟨hhides fresh e _, hm'⟩

theorem Mirrors.lookup (hm : Mirrors v pool t) (hv : v.Answers) (hnow : now.IsWhole)
    {shown : R → β} {id : Identifier} {broken : Storage.Error → R} {missing : R}
    {errand : Item → Errand R} (hroom : HasRoom t)
    (hnames : ∀ name, (Course.lookup id broken missing errand).Gives name → Sql.IsName name) :
    Matches v shown
      ((Course.lookup id broken missing errand).over (Pool.backend v.respond) now fresh pool)
      ((Course.lookup id broken missing errand).over Table.backend now fresh t) := by
  obtain ⟨pool', hfind, hm'⟩ := hm.find hv id
  change Matches v shown (lookupOver _ now broken missing errand _)
    (lookupOver Table.backend now broken missing errand (.ok (t.get? id), t))
  rw [hfind]
  cases hget : t.get? id with
  | none => exact ⟨rfl, hm'⟩
  | some item =>
    change Matches v shown ((errand item).over _ now item pool')
      ((errand item).over Table.backend now item t)
    cases herrand : errand item with
    | answer a => exact ⟨rfl, hm'⟩
    | edit kind reply =>
      have hid : t.get? item.id = some item := by rw [hm.keyed id item hget, hget]
      have haccepts : t.accepts (kind.change item) = true := by
        cases kind with
        | rename name =>
          exact (Table.accepts_of_item? (x := { item with name := name }) rfl).2 ⟨item, hid, rfl⟩
        | remove => exact (Table.accepts_of_item? rfl).2 ⟨item, hid, rfl⟩
      have hfits : Sql.fits (kind.change item) := by
        cases kind with
        | rename name => exact ⟨hnames name (.rename herrand), hroom id item hget⟩
        | remove => exact (hroom id item hget).1
      have hread : ∀ x, kind.change item = .update x →
          ∃ r, t.get? x.id = some r ∧ x.IsRenaming r ∧ r.createdAt.IsWhole := by
        intro x hx
        cases kind with
        | rename name =>
          cases hx
          exact ⟨item, hid, rfl, hm.whole id item hget⟩
        | remove => cases hx
      obtain ⟨pool'', hcommit, hm''⟩ := hm'.commit_of_accepts hv hnow hfits hread haccepts
      rw [Errand.over, hcommit]
      exact ⟨rfl, hm''⟩

/-- A course comes to the same over both, if columns hold the versions and the names that it gives,
and callers cannot tell how an insertion failed. -/
theorem Mirrors.course (hm : Mirrors v pool t) (hv : v.Answers) (hnow : now.IsWhole)
    {shown : R → β} {c : Course R} (hroom : HasRoom t)
    (hnames : ∀ name, c.Gives name → Sql.IsName name) (hhides : c.Hides shown)
    (fresh : Identifier) :
    Matches v shown (c.over (Pool.backend v.respond) now fresh pool)
      (c.over Table.backend now fresh t) := by
  cases c with
  | refused a => exact ⟨rfl, hm⟩
  | creation name reply =>
    exact hm.creation hv hnow (hnames name .creation) (hhides name reply rfl)
  | listing window reply =>
    obtain ⟨pool', hpage, hm'⟩ := hm.page hv window
    rw [Course.over, hpage]
    exact ⟨rfl, hm'⟩
  | lookup id broken missing errand => exact hm.lookup hv hnow hroom hnames

/-- So does a call. -/
theorem Mirrors.serveOver (hm : Mirrors v pool t) (hv : v.Answers) {turn : Turn}
    (hnow : turn.now.IsWhole) (hroom : HasRoom t) :
    Matches v Reply.shown (turn.serveOver (Pool.backend v.respond) pool)
      (turn.serveOver Table.backend t) := by
  rw [Turn.serveOver_eq, Turn.serveOver_eq]
  exact hm.course hv hnow hroom (fun _ => Invocation.isName_of_gives) turn.invocation.hides
    turn.fresh

/-! ## Many calls -/

/-- Calls one after another, with the same clock readings in whole microseconds and the same random
bits, whatever identifiers come out of them: over a database and over a table with the same rows,
whose versions never reach the last one that a column holds, every call comes to the same answer or
to a failure of the same status, and in the end the database and the table have the same rows. -/
theorem backends_agree (hv : v.Answers) (hm : Mirrors v pool t) (turns : List Turn)
    (hnow : ∀ turn ∈ turns, turn.now.IsWhole)
    (hroom : ∀ n, HasRoom (replayOver Table.backend (turns.take n) t).2) :
    (replayOver (Pool.backend v.respond) turns pool).1.map Reply.shown =
        (replayOver Table.backend turns t).1.map Reply.shown ∧
      Mirrors v (replayOver (Pool.backend v.respond) turns pool).2
        (replayOver Table.backend turns t).2 := by
  induction turns generalizing pool t with
  | nil => exact ⟨rfl, hm⟩
  | cons turn rest ih =>
    obtain ⟨hshown, hm'⟩ := hm.serveOver hv (hnow turn List.mem_cons_self) (hroom 0)
    obtain ⟨hrest, hm''⟩ := ih hm' (fun turn' h => hnow turn' (List.mem_cons_of_mem turn h))
      fun n => hroom (n + 1)
    refine ⟨?_, hm''⟩
    rw [replayOver, replayOver, List.map_cons, List.map_cons, hshown, hrest]

end Mirrors

/-- Two creations that draw the same identifier, and a renaming of the item. -/
def collision : List Turn :=
  let call : Call := .start "" .empty .nil
  let id := (Identifier.ofRandom 1).text
  [⟨⟨.createItem, call, ({ name := "a" } : ItemMessage)⟩, .ofMicros 2, 1⟩,
    ⟨⟨.createItem, call, ({ name := "b" } : ItemMessage)⟩, .ofMicros 2, 1⟩,
    ⟨⟨.updateItem, call, ({ id := id, name := "c" } : ItemMessage)⟩, .ofMicros 1, 2⟩]

/-- A prepared ledger without rows. -/
def ledger : Pool Sql.Ledger := ⟨⟨⟨.empty, .idle⟩, true, none⟩, false⟩

/-- The second creation fails over a table and over a ledger, and callers see no difference. -/
theorem collision_agrees :
    ((replayOver Table.backend collision .empty).1.map fun r => r.outcome.isOk) =
        [true, false, true] ∧
      (replayOver (Pool.backend Sql.Ledger.respond) collision ledger).1.map Reply.shown =
        (replayOver Table.backend collision .empty).1.map Reply.shown := by
  have hm : Mirrors Sql.Ledger.connection ledger .empty :=
    ⟨rfl, rfl, rfl, Table.isKeyed_empty, nofun⟩
  have hnow : ∀ turn ∈ collision, turn.now.IsWhole := by
    intro turn h
    simp only [collision, List.mem_cons, List.not_mem_nil, or_false] at h
    rcases h with rfl | rfl | rfl <;> exact ⟨by decide, by decide⟩
  have hroom : ∀ n, HasRoom (replayOver Table.backend (collision.take n) .empty).2 := by
    have hentries : ∀ turns ∈ [[], collision.take 1, collision.take 2, collision],
        ∀ e ∈ (replayOver Table.backend turns .empty).2.entries,
          Sql.IsVersion e.2.version ∧ Sql.IsVersion (e.2.version + 1) := by decide +kernel
    intro n k y hy
    refine hentries (collision.take n) ?_ (k, y) ((Assoc.get?_eq_some_iff _).1 hy)
    match n with
    | 0 => simp
    | 1 => simp
    | 2 => simp
    | n + 3 => simp [collision]
  exact ⟨by decide +kernel, (backends_agree Sql.Ledger.answers hm collision hnow hroom).1⟩

end ItemCatalog.Service
