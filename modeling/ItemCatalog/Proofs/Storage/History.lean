import ItemCatalog.Proofs.Storage.Commit
import ItemCatalog.Storage.Workspace

/-!
# Units of work over one table

Any number of units of work over one table that is empty at first, their requests interleaved in
any order, with a record of what was read, of the identifiers that were drawn and of every commit.
A unit of work stages updates and deletions of items that it has read, with at most the name
changed, and no identifier is drawn twice. Main statement: `inv_of_reachable`, from which it follows
that a version of an item is written over at most once.

## Main definitions

* `History`: the units of work, their table, and what has happened so far.
* `History.Reachable`: the histories that a run can lead to.
* `History.Inv`: what holds in all of them.
-/

namespace ItemCatalog.Storage

/-- A commit that took place: what it had staged and what its unit of work had read by then, the
table it found, how it ended, and the table it left. -/
structure CommitRecord (κ : Type) where
  unit : κ
  staged : List Change
  read : List Item
  before : Table
  outcome : Except Error (List Item)
  after : Table

/-- Whether a commit staged an update or a deletion of an item at a version. -/
def CommitRecord.writes {κ : Type} (c : CommitRecord κ) (id : Identifier) (version : Int) : Bool :=
  c.staged.any fun d => d.item?.any fun x => x.id == id && x.version == version

/-- What the record of a commit says of it, whatever comes later: if it failed, it left the table
and names a change that it had staged; if it succeeded, it found every item that it wrote over just
as its unit of work had read it. -/
structure CommitRecord.Sound {κ : Type} (c : CommitRecord κ) : Prop where
  failed : ∀ e, c.outcome = .error e → c.after = c.before ∧ ∃ d ∈ c.staged, e = .conflict d.id
  current : c.outcome.isOk = true → ∀ d ∈ c.staged, ∀ x, d.item? = some x →
    (∃ r ∈ c.read, x.IsRenaming r) ∧ ∀ r ∈ c.read, x.IsRenaming r → c.before.get? x.id = some r

theorem CommitRecord.writes_iff {κ : Type} {c : CommitRecord κ} {id : Identifier} {version : Int} :
    c.writes id version = true ↔
      ∃ d ∈ c.staged, ∃ x, d.item? = some x ∧ x.id = id ∧ x.version = version := by
  simp [writes, Option.any_eq_true]

/-- The items that the answer to a request hands out. -/
def Request.handedOut : (r : Request) → r.Answer → List Item
  | .find _, .ok (some item) => [item]
  | .page _, .ok found => found.items
  | _, _ => []

/-- The change that a request stages, if it stages any. -/
def Request.change? (fresh : Identifier) : Request → Option Change
  | .save name => some (.insert fresh name)
  | .update item => some (.update item)
  | .delete item => some (.delete item)
  | _ => none

/-- What is staged after a request was staged before it, unless it is what the request stages. -/
theorem Backend.mem_staged_respond {σ : Type} {b : Backend σ} {now : Instant} {fresh : Identifier}
    {r : Request} {staged : List Change} {s : σ} {d : Change}
    (hd : d ∈ (b.respond now fresh r staged s).2.1) :
    d ∈ staged ∨ r.change? fresh = some d := by
  have hstaged : (b.respond now fresh r staged s).2.1 = [] ∨
      (b.respond now fresh r staged s).2.1 = staged ++ (r.change? fresh).toList := by
    cases r with
    | start => exact Or.inl rfl
    | commit => exact Or.inl rfl
    | find id => exact Or.inr (List.append_nil staged).symm
    | page window => exact Or.inr (List.append_nil staged).symm
    | count => exact Or.inr (List.append_nil staged).symm
    | _ => exact Or.inr rfl
  rcases hstaged with hnil | happend
  · rw [hnil] at hd
    cases hd
  · rw [happend] at hd
    rcases List.mem_append.1 hd with hd | hd
    · exact Or.inl hd
    · exact Or.inr (Option.mem_toList.1 hd)

/-- Units of work over one table, and what has happened so far: which unit of work was handed which
item, the identifiers that were drawn for new items, and the commits, the oldest first. -/
structure History (κ : Type) where
  work : Workspace κ Table := { store := .empty }
  reads : List (κ × Item) := []
  drawn : List Identifier := []
  commits : List (CommitRecord κ) := []

namespace History
variable {κ : Type} [DecidableEq κ] {h : History κ}

/-- The shared table. -/
def table (h : History κ) : Table := h.work.store

/-- What a unit of work has staged. -/
def staged (h : History κ) (unit : κ) : List Change := h.work.staged unit

/-- The items that a unit of work has been handed. -/
def readBy (h : History κ) (unit : κ) : List Item :=
  (h.reads.filter fun e => e.1 = unit).map (·.2)

theorem mem_readBy {unit : κ} {r : Item} : r ∈ h.readBy unit ↔ (unit, r) ∈ h.reads := by
  simp [readBy]

/-- The record of a commit of what a unit of work has staged. -/
def record (h : History κ) (now : Instant) (unit : κ) : CommitRecord κ where
  unit := unit
  staged := h.staged unit
  read := h.readBy unit
  before := h.table
  outcome := (h.table.commit now (h.staged unit)).1
  after := (h.table.commit now (h.staged unit)).2

/-- Answers a request of a unit of work: `now` is what the clock shows, `fresh` the identifier that
is drawn if the request needs one. -/
def perform (h : History κ) (now : Instant) (fresh : Identifier) (unit : κ) (r : Request) :
    r.Answer × History κ :=
  let served := h.work.serve Table.backend now fresh unit r
  (served.1,
    { work := served.2
      reads := h.reads ++ (r.handedOut served.1).map fun item => (unit, item)
      drawn := if r.draws then h.drawn ++ [fresh] else h.drawn
      commits := if r = .commit then h.commits ++ [h.record now unit] else h.commits })

/-- What may be requested: identifiers are drawn once only, and an item is staged by a unit of work
that was handed it, with at most the name changed. -/
def Permits (h : History κ) (fresh : Identifier) (unit : κ) : Request → Prop
  | .save _ => fresh ∉ h.drawn
  | .update x => ∃ r ∈ h.readBy unit, x.IsRenaming r
  | .delete x => ∃ r ∈ h.readBy unit, x.IsRenaming r
  | _ => True

/-- The histories that a run over an empty table can lead to. -/
inductive Reachable : History κ → Prop
  | start : Reachable {}
  | step {h : History κ} (now : Instant) (fresh : Identifier) (unit : κ) (r : Request) :
      Reachable h → h.Permits fresh unit r → Reachable (h.perform now fresh unit r).2

/-! ## What a request does -/

@[simp] theorem staged_perform (now : Instant) (fresh : Identifier) (unit u : κ) (r : Request) :
    (h.perform now fresh unit r).2.staged u =
      if u = unit then (Table.backend.respond now fresh r (h.staged unit) h.table).2.1
      else h.staged u :=
  Workspace.staged_serve Table.backend now fresh unit u r h.work

@[simp] theorem table_perform (now : Instant) (fresh : Identifier) (unit : κ) (r : Request) :
    (h.perform now fresh unit r).2.table =
      (Table.backend.respond now fresh r (h.staged unit) h.table).2.2 := rfl

theorem perform_fst (now : Instant) (fresh : Identifier) (unit : κ) (r : Request) :
    (h.perform now fresh unit r).1 =
      (Table.backend.respond now fresh r (h.staged unit) h.table).1 := rfl

/-- What is handed out is stored. -/
theorem get?_of_mem_handedOut (hk : h.table.IsKeyed) {now : Instant} {fresh : Identifier}
    {unit : κ} {r : Request} {y : Item}
    (hy : y ∈ r.handedOut (h.perform now fresh unit r).1) : h.table.get? y.id = some y := by
  rw [perform_fst] at hy
  cases r with
  | find id =>
    change y ∈ Request.handedOut (.find id) (.ok (h.table.get? id)) at hy
    cases hg : h.table.get? id with
    | none => rw [hg] at hy; simp [Request.handedOut] at hy
    | some z =>
      rw [hg] at hy
      simp only [Request.handedOut, List.mem_singleton] at hy
      rw [hy, hk id z hg, hg]
  | page window => exact hk.mem_page hy
  | start => simp [Request.handedOut] at hy
  | save name => simp [Request.handedOut] at hy
  | update item => simp [Request.handedOut] at hy
  | delete item => simp [Request.handedOut] at hy
  | commit => simp [Request.handedOut] at hy
  | count => simp [Request.handedOut] at hy

/-! ## The invariant -/

/-- What holds in every history. An item that was read is stored as it was, or its version is past,
and a version that a commit wrote over is past. An identifier that waits to be inserted waits in
one unit of work only, and is neither stored nor known from a read. -/
structure Inv (h : History κ) : Prop where
  keyed : h.table.IsKeyed
  read : ∀ e ∈ h.reads, h.table.IsPast e.2.id e.2.version ∨ h.table.get? e.2.id = some e.2
  staged : ∀ u, ∀ d ∈ h.staged u, ∀ x, d.item? = some x → ∃ r ∈ h.readBy u, x.IsRenaming r
  waiting : ∀ u id name, .insert id name ∈ h.staged u → id ∈ h.drawn ∧ h.table.get? id = none ∧
    (∀ e ∈ h.reads, e.2.id ≠ id) ∧ ∀ v name', .insert id name' ∈ h.staged v → v = u
  stored_drawn : ∀ id y, h.table.get? id = some y → id ∈ h.drawn
  read_drawn : ∀ e ∈ h.reads, e.2.id ∈ h.drawn
  spent : ∀ c ∈ h.commits, ∀ d ∈ c.staged, ∀ x, d.item? = some x →
    (∃ e ∈ h.reads, e.2.id = x.id) ∧ (c.outcome.isOk = true → h.table.IsPast x.id x.version)
  sound : ∀ c ∈ h.commits, c.Sound
  once : h.commits.Pairwise fun c d => c.outcome.isOk = true → d.outcome.isOk = true →
    ∀ id version, ¬(c.writes id version = true ∧ d.writes id version = true)

theorem inv_start : Inv ({} : History κ) where
  keyed := Table.isKeyed_empty
  read := by simp
  staged := by simp [History.staged, Workspace.staged]
  waiting := by simp [History.staged, Workspace.staged]
  stored_drawn := by simp [table, Table.empty]
  read_drawn := by simp
  spent := by simp
  sound := by simp
  once := List.Pairwise.nil

/-- What a unit of work read and wrote over is stored as it was read, if the table accepts the
change at all. -/
theorem Inv.get?_of_accepts (hi : h.Inv) {unit : κ} {d : Change} {x r : Item}
    (hd : d.item? = some x) (ha : h.table.accepts d = true) (hr : r ∈ h.readBy unit)
    (hx : x.IsRenaming r) : h.table.get? x.id = some r := by
  obtain ⟨y, hy, hv⟩ := (Table.accepts_of_item? hd).1 ha
  rw [hx.id_eq] at hy ⊢
  rcases hi.read (unit, r) (mem_readBy.1 hr) with hpast | hget
  · have hlt : r.version < y.version := hpast y hy
    rw [hx.version_eq] at hv
    omega
  · exact hget

/-! ### Staging -/

/-- A unit of work may put what it has read, or an insertion under an identifier that was never
drawn before, in the place of what it has staged. -/
theorem Inv.restage {h' : History κ} (hi : h.Inv) (unit : κ) (htable : h'.table = h.table)
    (hreads : h'.reads = h.reads) (hcommits : h'.commits = h.commits)
    (hdrawn : ∀ id ∈ h.drawn, id ∈ h'.drawn)
    (hother : ∀ u, u ≠ unit → h'.staged u = h.staged u)
    (hitem : ∀ d ∈ h'.staged unit, ∀ x, d.item? = some x → ∃ r ∈ h.readBy unit, x.IsRenaming r)
    (hinsert : ∀ id name, .insert id name ∈ h'.staged unit →
      (∃ name', .insert id name' ∈ h.staged unit) ∨ id ∉ h.drawn ∧ id ∈ h'.drawn) :
    h'.Inv where
  keyed := by rw [htable]; exact hi.keyed
  read := by rw [htable, hreads]; exact hi.read
  staged := by
    intro u d hd x hx
    rw [readBy, hreads]
    by_cases hu : u = unit
    · subst hu
      exact hitem d hd x hx
    · rw [hother u hu] at hd
      exact hi.staged u d hd x hx
  waiting := by
    intro u id name hm
    rw [htable, hreads]
    by_cases hu : u = unit
    · subst hu
      rcases hinsert id name hm with ⟨name', hold⟩ | ⟨hnew, hin⟩
      · obtain ⟨hd, hnone, hread, honly⟩ := hi.waiting u id name' hold
        refine ⟨hdrawn id hd, hnone, hread, ?_⟩
        intro v n hv
        by_cases hvu : v = u
        · exact hvu
        · rw [hother v hvu] at hv
          exact honly v n hv
      · refine ⟨hin, ?_, ?_, ?_⟩
        · cases hg : h.table.get? id with
          | none => rfl
          | some y => exact absurd (hi.stored_drawn id y hg) hnew
        · intro e he heq
          exact hnew (heq ▸ hi.read_drawn e he)
        · intro v n hv
          by_cases hvu : v = u
          · exact hvu
          · rw [hother v hvu] at hv
            exact absurd (hi.waiting v id n hv).1 hnew
    · rw [hother u hu] at hm
      obtain ⟨hd, hnone, hread, honly⟩ := hi.waiting u id name hm
      refine ⟨hdrawn id hd, hnone, hread, ?_⟩
      intro v n hv
      by_cases hvu : v = unit
      · subst hvu
        rcases hinsert id n hv with ⟨name', hold⟩ | ⟨hnew, _⟩
        · exact honly v name' hold
        · exact absurd hd hnew
      · rw [hother v hvu] at hv
        exact honly v n hv
  stored_drawn := by
    intro id y hy
    rw [htable] at hy
    exact hdrawn id (hi.stored_drawn id y hy)
  read_drawn := by
    intro e he
    rw [hreads] at he
    exact hdrawn _ (hi.read_drawn e he)
  spent := by rw [htable, hreads, hcommits]; exact hi.spent
  sound := by rw [hcommits]; exact hi.sound
  once := by rw [hcommits]; exact hi.once

/-- A unit of work may stage an insertion under an identifier that was never drawn before. -/
theorem Inv.insert {h' : History κ} (hi : h.Inv) {unit : κ} {id : Identifier} {name : String}
    (hnew : id ∉ h.drawn) (htable : h'.table = h.table) (hreads : h'.reads = h.reads)
    (hcommits : h'.commits = h.commits) (hdrawn : h'.drawn = h.drawn ++ [id])
    (hother : ∀ u, u ≠ unit → h'.staged u = h.staged u)
    (hstaged : h'.staged unit = h.staged unit ++ [.insert id name]) : h'.Inv := by
  refine hi.restage unit htable hreads hcommits ?_ hother ?_ ?_
  · intro k hk
    rw [hdrawn]
    exact List.mem_append_left _ hk
  · intro d hd x hx
    rw [hstaged, List.mem_append, List.mem_singleton] at hd
    rcases hd with hd | rfl
    · exact hi.staged unit d hd x hx
    · cases hx
  · intro k n hm
    rw [hstaged, List.mem_append, List.mem_singleton] at hm
    rcases hm with hm | hm
    · exact Or.inl ⟨n, hm⟩
    · rw [Change.insert.injEq] at hm
      rw [hm.1, hdrawn]
      exact Or.inr ⟨hnew, List.mem_append_right _ List.mem_cons_self⟩

/-- A unit of work may stage a change of an item that it has read. -/
theorem Inv.stage {h' : History κ} (hi : h.Inv) {unit : κ} {c : Change} {x : Item}
    (hc : c.item? = some x) (hx : ∃ r ∈ h.readBy unit, x.IsRenaming r)
    (htable : h'.table = h.table) (hreads : h'.reads = h.reads) (hcommits : h'.commits = h.commits)
    (hdrawn : h'.drawn = h.drawn) (hother : ∀ u, u ≠ unit → h'.staged u = h.staged u)
    (hstaged : h'.staged unit = h.staged unit ++ [c]) : h'.Inv := by
  refine hi.restage unit htable hreads hcommits ?_ hother ?_ ?_
  · rw [hdrawn]
    exact fun _ hid => hid
  · intro d hd y hy
    rw [hstaged, List.mem_append, List.mem_singleton] at hd
    rcases hd with hd | rfl
    · exact hi.staged unit d hd y hy
    · rw [hc, Option.some.injEq] at hy
      exact hy ▸ hx
  · intro id name hm
    rw [hstaged, List.mem_append, List.mem_singleton] at hm
    rcases hm with hm | rfl
    · exact Or.inl ⟨name, hm⟩
    · cases hc

/-! ### Reading -/

/-- A unit of work may be handed items that are stored. -/
theorem Inv.hand {h' : History κ} (hi : h.Inv) (unit : κ) {items : List Item}
    (htable : h'.table = h.table) (hreads : h'.reads = h.reads ++ items.map fun y => (unit, y))
    (hcommits : h'.commits = h.commits) (hdrawn : h'.drawn = h.drawn)
    (hstaged : ∀ u, h'.staged u = h.staged u) (hitems : ∀ y ∈ items, h.table.get? y.id = some y) :
    h'.Inv where
  keyed := by rw [htable]; exact hi.keyed
  read := by
    intro e he
    rw [hreads, List.mem_append] at he
    rw [htable]
    rcases he with he | he
    · exact hi.read e he
    · obtain ⟨y, hy, rfl⟩ := List.mem_map.1 he
      exact Or.inr (hitems y hy)
  staged := by
    intro u d hd x hx
    rw [hstaged u] at hd
    obtain ⟨r, hr, hxr⟩ := hi.staged u d hd x hx
    refine ⟨r, ?_, hxr⟩
    rw [mem_readBy] at hr ⊢
    rw [hreads]
    exact List.mem_append_left _ hr
  waiting := by
    intro u id name hm
    simp only [hstaged] at hm ⊢
    obtain ⟨hd, hnone, hread, honly⟩ := hi.waiting u id name hm
    rw [htable, hdrawn, hreads]
    refine ⟨hd, hnone, ?_, honly⟩
    intro e he heq
    rcases List.mem_append.1 he with he | he
    · exact hread e he heq
    · obtain ⟨y, hy, rfl⟩ := List.mem_map.1 he
      have hget := hitems y hy
      simp only at heq
      rw [heq, hnone] at hget
      cases hget
  stored_drawn := by rw [htable, hdrawn]; exact hi.stored_drawn
  read_drawn := by
    intro e he
    rw [hdrawn]
    rw [hreads, List.mem_append] at he
    rcases he with he | he
    · exact hi.read_drawn e he
    · obtain ⟨y, hy, rfl⟩ := List.mem_map.1 he
      exact hi.stored_drawn y.id y (hitems y hy)
  spent := by
    intro c hc d hd x hx
    rw [hcommits] at hc
    obtain ⟨⟨e, he, heq⟩, hpast⟩ := hi.spent c hc d hd x hx
    rw [htable, hreads]
    exact ⟨⟨e, List.mem_append_left _ he, heq⟩, hpast⟩
  sound := by rw [hcommits]; exact hi.sound
  once := by rw [hcommits]; exact hi.once

/-! ### Committing -/

theorem Inv.not_insert_of_read (hi : h.Inv) {unit : κ} {e : κ × Item} (he : e ∈ h.reads)
    (name : String) : .insert e.2.id name ∉ h.staged unit := by
  intro hm
  exact (hi.waiting unit e.2.id name hm).2.2.1 e he rfl

/-- The record of a commit is sound. -/
theorem Inv.sound_record (hi : h.Inv) (now : Instant) (unit : κ) :
    (h.record now unit).Sound where
  failed := by
    intro e he
    obtain ⟨htable, c, hc, _, heq⟩ := Table.commit_eq_of_error he
    exact ⟨htable, c, hc, heq⟩
  current := by
    intro hok d hd x hx
    refine ⟨hi.staged unit d hd x hx, ?_⟩
    intro r hr hxr
    exact hi.get?_of_accepts hx (Table.accepts_of_isOk hok d hd) hr hxr

/-- What was read before a commit is still stored as it was, or past, after it. -/
theorem Inv.read_commit (hi : h.Inv) (now : Instant) (unit : κ) {e : κ × Item} (he : e ∈ h.reads) :
    (h.table.commit now (h.staged unit)).2.IsPast e.2.id e.2.version ∨
      (h.table.commit now (h.staged unit)).2.get? e.2.id = some e.2 := by
  rcases hi.read e he with hpast | hget
  · exact Or.inl (hpast.commit (hi.not_insert_of_read he))
  · rcases Table.get?_commit_of_get? now (h.staged unit) hget with hsame | hpast
    · exact Or.inr hsame
    · rw [hi.keyed _ _ hget] at hpast
      exact Or.inl hpast

/-- A commit of what a unit of work has staged keeps the invariant. -/
theorem Inv.commit {h' : History κ} (hi : h.Inv) {now : Instant} {unit : κ}
    (htable : h'.table = (h.table.commit now (h.staged unit)).2) (hreads : h'.reads = h.reads)
    (hdrawn : h'.drawn = h.drawn) (hcommits : h'.commits = h.commits ++ [h.record now unit])
    (hself : h'.staged unit = []) (hother : ∀ u, u ≠ unit → h'.staged u = h.staged u) :
    h'.Inv where
  keyed := by rw [htable]; exact hi.keyed.commit
  read := by
    intro e he
    rw [hreads] at he
    rw [htable]
    exact hi.read_commit now unit he
  staged := by
    intro u d hd x hx
    rw [readBy, hreads]
    by_cases hu : u = unit
    · rw [hu, hself] at hd
      cases hd
    · rw [hother u hu] at hd
      exact hi.staged u d hd x hx
  waiting := by
    intro u id name hm
    by_cases hu : u = unit
    · rw [hu, hself] at hm
      cases hm
    · rw [hother u hu] at hm
      obtain ⟨hd, hnone, hread, honly⟩ := hi.waiting u id name hm
      rw [hdrawn, hreads, htable]
      refine ⟨hd, ?_, hread, ?_⟩
      · apply Table.get?_commit_of_none now hnone
        intro n hn
        exact hu (honly unit n hn).symm
      · intro v n hv
        by_cases hvu : v = unit
        · rw [hvu, hself] at hv
          cases hv
        · rw [hother v hvu] at hv
          exact honly v n hv
  stored_drawn := by
    intro id y hy
    rw [htable] at hy
    rw [hdrawn]
    cases hg : h.table.get? id with
    | some z => exact hi.stored_drawn id z hg
    | none =>
      by_cases hins : ∃ name, .insert id name ∈ h.staged unit
      · obtain ⟨name, hm⟩ := hins
        exact (hi.waiting unit id name hm).1
      · have hnone := Table.get?_commit_of_none now hg fun name hm => hins ⟨name, hm⟩
        rw [hnone] at hy
        cases hy
  read_drawn := by rw [hreads, hdrawn]; exact hi.read_drawn
  spent := by
    intro c hc d hd x hx
    rw [hcommits, List.mem_append, List.mem_singleton] at hc
    rw [hreads, htable]
    rcases hc with hc | rfl
    · obtain ⟨⟨e, he, heq⟩, hpast⟩ := hi.spent c hc d hd x hx
      refine ⟨⟨e, he, heq⟩, ?_⟩
      intro hok
      apply (hpast hok).commit
      rw [← heq]
      exact hi.not_insert_of_read he
    · obtain ⟨r, hr, hxr⟩ := hi.staged unit d hd x hx
      refine ⟨⟨(unit, r), mem_readBy.1 hr, hxr.id_eq.symm⟩, ?_⟩
      intro hok
      exact Table.isPast_commit_of_written hok hd hx
  sound := by
    intro c hc
    rw [hcommits, List.mem_append, List.mem_singleton] at hc
    rcases hc with hc | rfl
    · exact hi.sound c hc
    · exact hi.sound_record now unit
  once := by
    rw [hcommits, List.pairwise_append]
    refine ⟨hi.once, List.pairwise_singleton _ _, ?_⟩
    intro c hc d hd hcok hdok id version hw
    rw [List.mem_singleton] at hd
    subst hd
    obtain ⟨a, ha, x, hx, hxid, hxv⟩ := CommitRecord.writes_iff.1 hw.1
    obtain ⟨b, hb, y, hy, hyid, hyv⟩ := CommitRecord.writes_iff.1 hw.2
    -- The first commit has made the version past, so the second cannot have found it.
    have hpast := (hi.spent c hc a ha x hx).2 hcok
    obtain ⟨z, hz, hzv⟩ := (Table.accepts_of_item? hy).1 (Table.accepts_of_isOk hdok b hb)
    rw [hyid, ← hxid] at hz
    have := hpast z hz
    omega

/-! ### Runs -/

theorem staged_perform_of_ne {now : Instant} {fresh : Identifier} {unit u : κ} {r : Request}
    (hu : u ≠ unit) : (h.perform now fresh unit r).2.staged u = h.staged u := by
  rw [staged_perform, if_neg hu]

/-- What a request hands out is all that is added to what was read. -/
theorem reads_perform {now : Instant} {fresh : Identifier} {unit : κ} {r : Request}
    (hr : r.handedOut (h.perform now fresh unit r).1 = []) :
    (h.perform now fresh unit r).2.reads = h.reads := by
  change h.reads ++ (r.handedOut (h.perform now fresh unit r).1).map _ = h.reads
  rw [hr, List.map_nil, List.append_nil]

/-- A request that stages nothing and commits nothing may hand out items. -/
theorem Inv.hand_perform (hi : h.Inv) {now : Instant} {fresh : Identifier} {unit : κ}
    {r : Request} (htable : (h.perform now fresh unit r).2.table = h.table)
    (hcommits : (h.perform now fresh unit r).2.commits = h.commits)
    (hdrawn : (h.perform now fresh unit r).2.drawn = h.drawn)
    (hstaged : (h.perform now fresh unit r).2.staged unit = h.staged unit) :
    (h.perform now fresh unit r).2.Inv := by
  refine hi.hand unit htable rfl hcommits hdrawn ?_ fun y hy => get?_of_mem_handedOut hi.keyed hy
  intro u
  by_cases hu : u = unit
  · rw [hu, hstaged]
  · exact staged_perform_of_ne hu

/-- Every request that is permitted keeps the invariant. -/
theorem inv_perform (hi : h.Inv) (now : Instant) (fresh : Identifier) (unit : κ) (r : Request)
    (hp : h.Permits fresh unit r) : (h.perform now fresh unit r).2.Inv := by
  have hother : ∀ u, u ≠ unit → (h.perform now fresh unit r).2.staged u = h.staged u :=
    fun u hu => staged_perform_of_ne hu
  have hstaged := staged_perform (h := h) now fresh unit unit r
  rw [if_pos rfl] at hstaged
  cases r with
  | start =>
    refine hi.restage unit rfl (reads_perform rfl) rfl (fun _ hid => hid) hother ?_ ?_
    · intro d hd
      rw [hstaged] at hd
      cases hd
    · intro id name hm
      rw [hstaged] at hm
      cases hm
  | save name => exact hi.insert hp rfl (reads_perform rfl) rfl rfl hother hstaged
  | find id => exact hi.hand_perform rfl rfl rfl hstaged
  | page window => exact hi.hand_perform rfl rfl rfl hstaged
  | count => exact hi.hand_perform rfl rfl rfl hstaged
  | update item =>
    exact hi.stage (c := .update item) rfl hp rfl (reads_perform rfl) rfl rfl hother hstaged
  | delete item =>
    exact hi.stage (c := .delete item) rfl hp rfl (reads_perform rfl) rfl rfl hother hstaged
  | commit => exact hi.commit rfl (reads_perform rfl) rfl rfl hstaged hother

/-- The invariant holds in every history that a run can lead to. -/
theorem inv_of_reachable (hr : h.Reachable) : h.Inv := by
  induction hr with
  | start => exact inv_start
  | step now fresh unit r _ hp ih => exact inv_perform ih now fresh unit r hp

end History
end ItemCatalog.Storage
