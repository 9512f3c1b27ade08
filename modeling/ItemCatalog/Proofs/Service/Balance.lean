import ItemCatalog.Proofs.Service.Books
import ItemCatalog.Proofs.Storage.Census

/-!
# Counters and the store

Any number of calls of the service through the standard pipeline, over one table. Main statements:
whenever no call is in flight, the number of items has changed by as much as the counters of
creations and deletions say (`store_balances`), and the counter of updates is the number of
modifications together with the number of updates that were answered although there was nothing to
change (`updates_counted`).
-/

namespace ItemCatalog

namespace Service
open Serving
open Storage (Change Request Table Workspace)

/-! ## One request -/

/-- Whether what a request adds to the committed changes of a call goes with what it makes of the
table. -/
structure Books.Follows (b b' : Books) (t t' : Table) (added : Operation → Nat) : Prop where
  changes : ∀ o, b'.changes o = b.changes o + added o
  size : t'.size + added .delete = t.size + added .create
  raises : (if Table.raises t t' then 1 else 0) = added .update

namespace Books
variable {keyed : Prop} {b : Books} {t : Table}

/-- A request that leaves the table adds nothing. -/
theorem Follows.refl {b' : Books} (h : b'.performed = b.performed) (t : Table) :
    b.Follows b' t t fun _ => 0 where
  changes o := by rw [Books.changes, Books.changes, h]; rfl
  size := rfl
  raises := by rw [Table.not_raises_self]; rfl

/-- A change that is accepted is added, and changes the table as its operation does. -/
theorem Follows.apply {b' : Books} {d : Change} (hd : t.accepts d = true)
    (h : b'.performed = b.performed ++ [d]) (now : Instant) :
    b.Follows b' t (t.apply now d) fun o => if d.operation = o then 1 else 0 where
  changes o := by
    rw [Books.changes, Books.changes, h, List.countP_append, List.countP_singleton]
    simp
  size := Table.size_apply hd
  raises := by
    rw [Table.raises_apply hd]
    simp

/-- The books of a call are right about a table once one of its questions has been answered. -/
structure Tracks (keyed : Prop) (b : Books) (f : Effect) (x : f.Answer) (staged : List Change)
    (t t' : Table) : Prop where
  admits : (protocol keyed).admits b f x
  staged : ((protocol keyed).next b f x).staged = staged
  asked : ((protocol keyed).next b f x).asked = true ↔ b.asked = true ∨ f = .storage .commit
  follows : ∃ added, b.Follows ((protocol keyed).next b f x) t t' added
  keyed : keyed → t'.IsKeyed

/-- The tally of a call is all that depends on what it is answered by anything but storage. -/
theorem next_aside {f : Effect} (hf : ∀ r, f ≠ .storage r) (x : f.Answer) :
    (protocol keyed).next b f x = { b with tally := b.tally.after f } := by
  cases f with
  | storage r => exact absurd rfl (hf r)
  | _ => rfl

theorem tally_next (f : Effect) (x : f.Answer) :
    ((protocol keyed).next b f x).tally = b.tally.after f := by
  cases f with
  | storage r =>
    cases r with
    | commit => cases x <;> rfl
    | _ => rfl
  | _ => rfl

theorem tracks_aside (hkeyed : keyed → t.IsKeyed) {f : Effect} (hf : ∀ r, f ≠ .storage r)
    (x : f.Answer) : Tracks keyed b f x b.staged t t := by
  have hnext : (protocol keyed).next b f x = { b with tally := b.tally.after f } :=
    next_aside hf x
  refine ⟨?_, by rw [hnext], ?_, ⟨_, Follows.refl (by rw [hnext]) t⟩, hkeyed⟩
  · cases f with
    | storage r => exact absurd rfl (hf r)
    | _ => exact trivial
  · rw [hnext]
    exact (or_iff_left (hf .commit)).symm

theorem tracks_commit (hkeyed : keyed → t.IsKeyed) (now : Instant) {d : Change}
    (hd : b.staged = [d]) :
    Tracks keyed b (.storage .commit) (t.commit now b.staged).1 [] t (t.commit now b.staged).2 := by
  have hkept : keyed → (t.commit now b.staged).2.IsKeyed := fun h => (hkeyed h).commit
  rw [hd] at hkept ⊢
  rcases Table.commit_cases t now [d] with ⟨c, _, _, heq⟩ | ⟨hall, heq⟩
  · -- The change is refused: the call has asked in vain, and its books show no change.
    rw [heq] at hkept ⊢
    exact ⟨trivial, rfl, iff_of_true rfl (.inr rfl), ⟨_, .refl (by rfl) t⟩, hkept⟩
  · rw [heq] at hkept ⊢
    have hperformed : b.performed ++ b.staged = b.performed ++ [d] := by rw [hd]
    have haccepts : t.accepts d = true := hall d (List.mem_singleton_self d)
    exact ⟨⟨now, by rw [hd]⟩, rfl, iff_of_true rfl (.inr rfl),
      ⟨_, .apply haccepts hperformed now⟩, hkept⟩

/-- Whatever a call asks storage, its books are right about the answer, if it asks for commits of
one change only. -/
theorem tracks_respond (hkeyed : keyed → t.IsKeyed) (now : Instant) (fresh : Identifier)
    {r : Request} (hasks : (protocol keyed).asks b (.storage r)) :
    Tracks keyed b (.storage r) (Table.backend.respond now fresh r b.staged t).1
      (Table.backend.respond now fresh r b.staged t).2.1 t
      (Table.backend.respond now fresh r b.staged t).2.2 := by
  cases r with
  | commit =>
    obtain ⟨d, hd⟩ := hasks rfl
    exact tracks_commit hkeyed now hd
  | find id =>
    refine ⟨?_, rfl, (or_iff_left nofun).symm, ⟨_, .refl (by rfl) t⟩, hkeyed⟩
    change Answers keyed b (.find id) (.ok (t.get? id))
    cases hitem : t.get? id with
    | none => trivial
    | some item => exact fun h => hkeyed h id item hitem
  | _ => exact ⟨trivial, rfl, (or_iff_left nofun).symm, ⟨_, .refl (by rfl) t⟩, hkeyed⟩

end Books

/-! ## Steps -/

variable {ι : Type} [DecidableEq ι]

namespace Traffic

/-- Whether a call has been delivered. -/
def isDone (w : Traffic ι) (i : ι) : Bool :=
  match w.rest i with
  | .done _ => true
  | .ask .. => false

/-- Whether the caller has received an answer. -/
def answered (w : Traffic ι) (i : ι) : Bool :=
  match w.rest i with
  | .done d => d.answered
  | .ask .. => false

/-- How many of the steps of a run raise the version of a stored item. -/
def modifications (w : Traffic ι) : List (Tick ι) → Nat
  | [] => 0
  | e :: rest =>
    (if Table.raises w.table (w.tick e).table then 1 else 0) + (w.tick e).modifications rest

theorem run_concat (w : Traffic ι) (ticks : List (Tick ι)) (e : Tick ι) :
    w.run (ticks ++ [e]) = (w.run ticks).tick e := List.foldl_concat ..

theorem modifications_concat (w : Traffic ι) (ticks : List (Tick ι)) (e : Tick ι) :
    w.modifications (ticks ++ [e]) = w.modifications ticks +
      if Table.raises (w.run ticks).table ((w.run ticks).tick e).table then 1 else 0 := by
  induction ticks generalizing w with
  | nil => exact Nat.add_comm _ _
  | cons e' rest ih =>
    rw [List.cons_append, modifications, ih, ← Nat.add_assoc]
    rfl

/-- What answering a question of a call makes of all calls. -/
structure Moves (w w' : Traffic ι) (i : ι) (f : Effect) (p : Serving Delivery)
    (staged : List Change) : Prop where
  rest : w'.rest = Function.update w.rest i p
  staged : ∀ j, w'.work.staged j = if j = i then staged else w.work.staged j
  asked : ∀ j r, (j, r) ∈ w'.asked ↔ (j, r) ∈ w.asked ∨ (j = i ∧ f = .storage r)
  metrics : w'.metrics = w.metrics.after f

variable {w : Traffic ι} {e : Tick ι}

/-- A step of a call that has been delivered does nothing. -/
theorem tick_of_done {d : Delivery} (h : w.rest e.call = .done d) : w.tick e = w := by
  simp only [tick, h]

theorem tick_of_storage {r : Request} {resume : r.Answer → Serving Delivery}
    (h : w.rest e.call = .ask (.storage r) resume) : w.tick e = w.serve e r resume := by
  simp only [tick, h]

theorem moves_serve (w : Traffic ι) (e : Tick ι) (r : Request)
    (resume : r.Answer → Serving Delivery) :
    let answer := Table.backend.respond e.now (.ofRandom e.random) r (w.work.staged e.call) w.table
    w.Moves (w.serve e r resume) e.call (.storage r) (resume answer.1) answer.2.1 where
  rest := rfl
  staged j := Workspace.staged_serve ..
  asked j r' := by
    simp [serve, eq_comm]
  metrics := rfl

/-- The answer to a question of a call that is not of storage is recorded, if at all. -/
theorem tick_of_ask {f : Effect} {resume : f.Answer → Serving Delivery}
    (h : w.rest e.call = .ask f resume) (hf : ∀ r, f ≠ .storage r) :
    ∃ x, w.tick e = { w.goOn e.call (resume x) with metrics := w.metrics.after f } := by
  cases f with
  | storage r => exact absurd rfl (hf r)
  | random => exact ⟨e.random, by simp only [tick, h]; rfl⟩
  | elapsed => exact ⟨e.nanos, by simp only [tick, h]; rfl⟩
  | _ => exact ⟨(), by simp only [tick, h]; rfl⟩

theorem moves_aside (w : Traffic ι) (i : ι) {f : Effect} (hf : ∀ r, f ≠ .storage r)
    (p : Serving Delivery) :
    w.Moves { w.goOn i p with metrics := w.metrics.after f } i f p (w.work.staged i) where
  rest := rfl
  staged j := by
    split
    · next hj => rw [hj]; rfl
    · rfl
  asked j r := (or_iff_left fun h => hf r h.2).symm
  metrics := rfl

/-- Whatever question of a call is answered, its books are right about the table afterwards. -/
theorem tick_tracked {keyed : Prop} {b : Books} (hstaged : w.work.staged e.call = b.staged)
    (hkeyed : keyed → w.table.IsKeyed) {f : Effect} {resume : f.Answer → Serving Delivery}
    (hrest : w.rest e.call = .ask f resume) (hasks : (Books.protocol keyed).asks b f) :
    ∃ x staged, w.Moves (w.tick e) e.call f (resume x) staged ∧
      b.Tracks keyed f x staged w.table (w.tick e).table := by
  by_cases hf : ∃ r, f = .storage r
  · obtain ⟨r, rfl⟩ := hf
    rw [tick_of_storage hrest]
    refine ⟨_, _, w.moves_serve e r resume, ?_⟩
    rw [hstaged]
    have htracks := Books.tracks_respond hkeyed e.now (.ofRandom e.random) hasks
    change b.Tracks keyed _ _ _ w.table
      (Table.backend.respond e.now (.ofRandom e.random) r (w.work.staged e.call) w.table).2.2
    rw [hstaged]
    exact htracks
  · have hf : ∀ r, f ≠ .storage r := not_exists.1 hf
    obtain ⟨x, htick⟩ := tick_of_ask hrest hf
    rw [htick]
    refine ⟨x, _, w.moves_aside e.call hf (resume x), ?_⟩
    rw [hstaged]
    exact Books.tracks_aside hkeyed hf x

end Traffic

/-! ## Runs -/

section Runs
variable {keyed : Prop} {calls : ι → Submission} {size modified : Nat} {S : Finset ι}
  {books : ι → Books} {w : Traffic ι}

/-- What holds of calls of which some have begun, over a table that had `size` items at first and of
which `modified` versions have been raised: each call keeps its books, and the metrics and the table
are the sum of the books. -/
structure Traffic.Booked (keyed : Prop) (calls : ι → Submission) (size : Nat) (S : Finset ι)
    (books : ι → Books) (modified : Nat) (w : Traffic ι) : Prop where
  keeps : ∀ i, KeepsTo (Books.protocol keyed)
    (Books.Delivered keyed (calls i).method.operation) (books i) (w.rest i)
  fresh : ∀ i ∉ S, books i = {}
  staged : ∀ i, w.work.staged i = (books i).staged
  asked : ∀ i, (books i).asked = true ↔ (i, .commit) ∈ w.asked
  keyed : keyed → w.table.IsKeyed
  sums : w.metrics.Sums S fun i => (books i).tally
  size : w.table.size + ∑ i ∈ S, (books i).changes .delete =
    size + ∑ i ∈ S, (books i).changes .create
  modified : modified = ∑ i ∈ S, (books i).changes .update

namespace Traffic

theorem booked_start (validator : Option Validator) (calls : ι → Submission) {t : Table}
    (hkeyed : keyed → t.IsKeyed) :
    Booked keyed calls t.size ∅ (fun _ => {}) 0 (start validator t calls) where
  keeps i := keepsTo_submission keyed validator (calls i)
  fresh _ _ := rfl
  staged _ := rfl
  asked _ := iff_of_false nofun nofun
  keyed := hkeyed
  sums := ⟨fun _ => rfl, rfl⟩
  size := rfl
  modified := rfl

/-- A call that has been delivered has begun. -/
theorem Booked.mem_of_done (h : Booked keyed calls size S books modified w) {i : ι} {d : Delivery}
    (hrest : w.rest i = .done d) : i ∈ S := by
  by_contra hi
  have hkeeps := h.keeps i
  rw [hrest, h.fresh i hi] at hkeeps
  cases hkeeps.post.entered

/-- A call that moves keeps its books, and the metrics and the table remain the sum of all. -/
theorem Booked.moved (h : Booked keyed calls size S books modified w) {i : ι} {f : Effect}
    {resume : f.Answer → Serving Delivery} (hrest : w.rest i = .ask f resume) {x : f.Answer}
    {staged : List Change} {w' : Traffic ι} (hmoves : w.Moves w' i f (resume x) staged)
    (htracks : (books i).Tracks keyed f x staged w.table w'.table) :
    Booked keyed calls size (Insert.insert i S)
      (Function.update books i ((Books.protocol keyed).next (books i) f x))
      (modified + if Table.raises w.table w'.table then 1 else 0) w' := by
  obtain ⟨added, hfollows⟩ := htracks.follows
  have hsum (o : Operation) := sum_insert_update (fun b : Books => b.changes o)
    (hfollows.changes o) fun hi => by rw [h.fresh i hi]; rfl
  refine ⟨?keeps, ?fresh, ?staged, ?asked, htracks.keyed, ?sums, ?size, ?modified⟩
  case keeps =>
    have hkeeps := h.keeps i
    rw [hrest] at hkeeps
    rw [hmoves.rest]
    exact KeepsTo.update h.keeps (hkeeps.resume htracks.admits)
  case fresh => exact fun j => update_eq_of_notMem_insert h.fresh i _
  case staged =>
    intro j
    rw [hmoves.staged j]
    split
    · next hj => rw [hj, Function.update_self, htracks.staged]
    · next hj => rw [Function.update_of_ne hj, h.staged j]
  case asked =>
    intro j
    rw [hmoves.asked j]
    by_cases hj : j = i
    · subst hj
      rw [Function.update_self, htracks.asked, h.asked j]
      simp
    · rw [Function.update_of_ne hj, h.asked j]
      simp [hj]
  case sums =>
    have hsums := h.sums.after (fun hi => by rw [h.fresh i hi]) f
    rw [← Books.tally_next f x, ← hmoves.metrics] at hsums
    convert hsums using 1
    exact (Function.comp_update Books.tally books i _)
  case size =>
    have hsize := h.size
    have hfollow := hfollows.size
    rw [hsum .create, hsum .delete]
    omega
  case modified => rw [hsum .update, h.modified, hfollows.raises]

theorem Booked.tick (h : Booked keyed calls size S books modified w) (e : Tick ι) :
    ∃ books', Booked keyed calls size (Insert.insert e.call S) books'
      (modified + if Table.raises w.table (w.tick e).table then 1 else 0) (w.tick e) := by
  cases hrest : w.rest e.call with
  | done d =>
    -- No call begins by a step that does nothing, as one that is delivered has entered.
    rw [tick_of_done hrest, Finset.insert_eq_of_mem (h.mem_of_done hrest), Table.not_raises_self]
    exact ⟨books, h⟩
  | ask f resume =>
    have hkeeps := h.keeps e.call
    rw [hrest] at hkeeps
    obtain ⟨x, staged, hmoves, htracks⟩ :=
      tick_tracked (h.staged e.call) h.keyed hrest hkeeps.asks
    exact ⟨_, h.moved hrest hmoves htracks⟩

/-- In every run the books show what has become of the table. -/
theorem exists_booked_run (validator : Option Validator) (calls : ι → Submission) {t : Table}
    (hkeyed : keyed → t.IsKeyed) (ticks : List (Tick ι)) :
    ∃ books, Booked keyed calls t.size (ticks.map Tick.call).toFinset books
      ((start validator t calls).modifications ticks) ((start validator t calls).run ticks) := by
  induction ticks using List.reverseRecOn with
  | nil => exact ⟨_, booked_start validator calls hkeyed⟩
  | append_singleton ticks e ih =>
    obtain ⟨books, h⟩ := ih
    have hbegun : ((ticks ++ [e]).map Tick.call).toFinset =
        Insert.insert e.call (ticks.map Tick.call).toFinset := by
      ext j
      simp
    rw [run_concat, modifications_concat, hbegun]
    exact h.tick e

/-! ## When nothing is in flight -/

theorem Booked.delivered (h : Booked keyed calls size S books modified w) {i : ι}
    (hdone : w.isDone i = true) :
    ∃ d, w.answered i = d.answered ∧
      (books i).Delivered keyed (calls i).method.operation d := by
  have hkeeps := h.keeps i
  rw [isDone] at hdone
  rw [answered]
  cases hrest : w.rest i with
  | done d =>
    rw [hrest] at hkeeps
    exact ⟨d, rfl, hkeeps.post⟩
  | ask f resume =>
    rw [hrest] at hdone
    cases hdone

section Done
variable (h : Booked keyed calls size S books modified w) (hdone : ∀ i ∈ S, w.isDone i = true)
include h hdone

/-- The counters of creations and deletions add up to the changes that were committed. -/
theorem Booked.count_eq {o : Operation} (ho : o = .create ∨ o = .delete) {s : Metrics.Series}
    (hs : Metrics.Series.changes? o = some s) :
    w.metrics.count s = ∑ i ∈ S, (books i).changes o := by
  rw [h.sums.count]
  refine Finset.sum_congr rfl fun i hi => ?_
  obtain ⟨d, _, hd⟩ := h.delivered (hdone i hi)
  exact hd.count_eq ho hs

/-- The counter of updates adds up to the modifications and the updates that were answered without a
commit. -/
theorem Booked.count_updated (hkeyed : keyed) :
    w.metrics.count ⟨.updated, []⟩ = modified + (S.filter fun i =>
      (calls i).method = .updateItem ∧ w.answered i = true ∧ (i, .commit) ∉ w.asked).card := by
  rw [h.sums.count, h.modified, Finset.card_filter, ← Finset.sum_add_distrib]
  refine Finset.sum_congr rfl fun i hi => ?_
  obtain ⟨d, hanswered, hd⟩ := h.delivered (hdone i hi)
  have hmethod : (calls i).method.operation = .update ↔ (calls i).method = .updateItem := by
    refine ⟨fun ho => ?_, fun hm => by rw [hm]; rfl⟩
    have hwrites : Method.updateItem.operation ≠ .read := nofun
    exact Method.eq_of_operation ho hwrites
  rw [hd.count_updated hkeyed]
  simp only [hmethod, hanswered, ← h.asked i, Bool.not_eq_true]

end Done
end Traffic
end Runs

/-! ## Statements -/

/-- In every run of calls through the standard pipeline, with a validator or without one, over any
table, with any times and any random bits: when each call that has begun has been delivered, the
number of items is the number at first, with the creations that were counted and without the
deletions. -/
theorem store_balances (validator : Option Validator) (calls : ι → Submission) (t : Table)
    (ticks : List (Tick ι)) :
    let w := (Traffic.start validator t calls).run ticks
    (∀ e ∈ ticks, w.isDone e.call = true) →
      (w.table.size : Int) =
        t.size + w.metrics.count ⟨.created, []⟩ - w.metrics.count ⟨.deleted, []⟩ := by
  intro w hticks
  have hkeyed : False → t.IsKeyed := nofun
  obtain ⟨books, h⟩ := Traffic.exists_booked_run validator calls hkeyed ticks
  have hdone : ∀ i ∈ (ticks.map Tick.call).toFinset, w.isDone i = true := by simpa using hticks
  have hsize : w.table.size + _ = _ := h.size
  rw [h.count_eq hdone (.inl rfl) rfl, h.count_eq hdone (.inr rfl) rfl]
  omega

/-- Two deletions of one item, and three creations. -/
def crowd (i : Nat) : Submission :=
  let key : ItemKey := { id := (Identifier.ofRandom 1).text }
  if i < 2 then ⟨.deleteItem, .empty, key⟩
  else ⟨.createItem, .empty, ({ name := "b" } : ItemMessage)⟩

/-- A table with one item. -/
def single : Table := (Table.empty.commit (.ofMicros 0) [.insert (.ofRandom 1) "a"]).2

/-- Steps of five calls in turns. Chance comes up with the same identifier for the last two. -/
def crowdTicks : List (Tick Nat) :=
  (List.range 100).map fun k => ⟨k % 5, .ofMicros 1, if k % 5 = 2 then 2 else 3, 0⟩

/-- One of the deletions comes too late, and one creation finds its identifier taken. -/
theorem crowd_balances :
    let w := (Traffic.start none single crowd).run crowdTicks
    (∀ e ∈ crowdTicks, w.isDone e.call = true) ∧
      w.metrics.count ⟨.created, []⟩ = 2 ∧ w.metrics.count ⟨.deleted, []⟩ = 1 ∧
      w.table.size = 2 := by
  intro w
  have hdone : ∀ e ∈ crowdTicks, w.isDone e.call = true := by decide +kernel
  have hcreated : w.metrics.count ⟨.created, []⟩ = 2 := by decide +kernel
  have hdeleted : w.metrics.count ⟨.deleted, []⟩ = 1 := by decide +kernel
  have hsingle : single.size = 1 := by decide +kernel
  have hsize : (w.table.size : Int) = _ := store_balances none crowd single crowdTicks hdone
  rw [hcreated, hdeleted, hsingle] at hsize
  exact ⟨hdone, hcreated, hdeleted, Int.ofNat_inj.1 hsize⟩

/-- In every such run over a table that is keyed, the updates that were counted are those that
raised the version of an item, and those that were answered although nothing was to be changed:
their calls never asked for a commit. -/
theorem updates_counted (validator : Option Validator) (calls : ι → Submission) {t : Table}
    (hkeyed : t.IsKeyed) (ticks : List (Tick ι)) :
    let w := (Traffic.start validator t calls).run ticks
    (∀ e ∈ ticks, w.isDone e.call = true) →
      w.metrics.count ⟨.updated, []⟩ = (Traffic.start validator t calls).modifications ticks +
        ((ticks.map Tick.call).toFinset.filter fun i => (calls i).method = .updateItem ∧
          w.answered i = true ∧ (i, .commit) ∉ w.asked).card := by
  intro w hticks
  have hkeyed (_ : True) : t.IsKeyed := hkeyed
  obtain ⟨books, h⟩ := Traffic.exists_booked_run validator calls hkeyed ticks
  have hdone : ∀ i ∈ (ticks.map Tick.call).toFinset, w.isDone i = true := by simpa using hticks
  exact h.count_updated hdone trivial

/-- Calls that give the item other names, of which the second is the one it has. -/
def renamings (i : Nat) : Submission :=
  let name := if i = 0 then "b" else if i = 1 then " a " else "c"
  ⟨.updateItem, .empty, ({ id := (Identifier.ofRandom 1).text, name := name } : ItemMessage)⟩

/-- Steps of three calls in turns. -/
def renamingTicks : List (Tick Nat) :=
  (List.range 60).map fun k => ⟨k % 3, .ofMicros 1, 2, 0⟩

/-- Two updates are counted of which one has changed something; the third one came too late. -/
theorem renamings_counted :
    let w := (Traffic.start none single renamings).run renamingTicks
    (∀ e ∈ renamingTicks, w.isDone e.call = true) ∧
      (Traffic.start none single renamings).modifications renamingTicks = 1 ∧
      w.metrics.count ⟨.updated, []⟩ = 2 := by
  intro w
  have hdone : ∀ e ∈ renamingTicks, w.isDone e.call = true := by decide +kernel
  have hkeyed : single.IsKeyed := Table.isKeyed_empty.commit
  have hmodified : (Traffic.start none single renamings).modifications renamingTicks = 1 := by
    decide +kernel
  have hcount := updates_counted none renamings hkeyed renamingTicks hdone
  rw [hmodified] at hcount
  exact ⟨hdone, hmodified, hcount.trans (by decide +kernel)⟩

/-- Steps of the call that gives the item the name it has. -/
def stillTicks : List (Tick Nat) := List.replicate 20 ⟨1, .ofMicros 1, 2, 0⟩

/-- The counter of updates is not the number of modifications: a call that gives an item the name
that it has is counted, and modifies nothing. -/
theorem idle_renaming_counted :
    let w := (Traffic.start none single renamings).run stillTicks
    single.IsKeyed ∧ (∀ e ∈ stillTicks, w.isDone e.call = true) ∧
      w.metrics.count ⟨.updated, []⟩ = 1 ∧
      (Traffic.start none single renamings).modifications stillTicks = 0 :=
  ⟨Table.isKeyed_empty.commit, by decide +kernel, by decide +kernel, by decide +kernel⟩

end Service
end ItemCatalog
