import ItemCatalog.Proofs.Service.Fate
import ItemCatalog.Proofs.Service.Linear
import Mathlib.Logic.Relation

/-!
# The lifetimes of stored items

What holds of every stored item while calls are in flight, and what happens to it between its
insertion and its deletion. Main statement: `stored_soundly`.
-/

namespace ItemCatalog

/-! ## Identifiers that are used up -/

namespace Storage.History
variable {κ : Type} [DecidableEq κ] {h : History κ} {k fresh : Identifier} {unit : κ} {r : Request}

/-- Whether an identifier was drawn and waits nowhere to be inserted. -/
def Spent (h : History κ) (k : Identifier) : Prop :=
  k ∈ h.drawn ∧ ∀ u name, .insert k name ∉ h.staged u

theorem Inv.spent_of_stored (hi : h.Inv) {x : Item} (hx : h.table.get? k = some x) :
    h.Spent k := by
  refine ⟨hi.stored_drawn k x hx, ?_⟩
  intro u name hm
  obtain ⟨_, hnone, _⟩ := hi.waiting u k name hm
  rw [hnone] at hx
  cases hx

/-- A used-up identifier stays so, since no identifier is drawn twice. -/
theorem Spent.perform (hs : h.Spent k) (now : Instant) (hp : h.Permits fresh unit r) :
    (h.perform now fresh unit r).2.Spent k := by
  obtain ⟨hdrawn, hwaits⟩ := hs
  constructor
  · change k ∈ (if r.draws then h.drawn ++ [fresh] else h.drawn)
    split
    · exact List.mem_append_left _ hdrawn
    · exact hdrawn
  · intro u name hm
    rw [staged_perform] at hm
    split at hm
    · rcases Backend.mem_staged_respond hm with hm | hm
      · exact hwaits unit name hm
      · cases r with
        | save given =>
          cases hm
          exact hp hdrawn
        | _ => cases hm
    · exact hwaits u name hm

/-- Nothing is stored any more under a used-up identifier that is free. -/
theorem Spent.get?_perform (hs : h.Spent k) (hnone : h.table.get? k = none) (now : Instant)
    (fresh : Identifier) (unit : κ) (r : Request) :
    (h.perform now fresh unit r).2.table.get? k = none := by
  cases r with
  | commit => exact Table.get?_commit_of_none now hnone fun name => hs.2 unit name
  | _ => exact hnone

end Storage.History

namespace Service
open Storage (Change Request Table History)

variable {ι : Type} [DecidableEq ι] {calls : ι → Invocation} {w w' : World ι} {e : Tick ι}
  {k : Identifier}

/-! ## One step -/

/-- A step leaves the history, or answers a request that is permitted. -/
theorem World.Inv.history_tick (hi : w.Inv calls) (hfresh : w.Fresh e) :
    (w.tick e).history = w.history ∨ ∃ r, w.history.Permits (.ofRandom e.random) e.call r ∧
      (w.tick e).history = (w.history.perform e.now (.ofRandom e.random) e.call r).2 := by
  unfold World.tick
  split
  · exact Or.inl rfl
  · next r resume hrest =>
    refine Or.inr ⟨r, (hi.advances hrest).permitted ?_, rfl⟩
    intro hdraws
    apply hfresh
    rw [World.draws, hrest]
    exact hdraws
  all_goals exact Or.inl rfl

/-- A step leaves the table, or makes of it what the call that takes it makes of it all by
itself. -/
theorem World.Inv.table_tick (hi : w.Inv calls) :
    (w.tick e).table = w.table ∨
      (w.tick e).table =
        ((calls e.call).course.result w.table e.now (.ofRandom (w.random e.call))).2 := by
  unfold World.tick
  split
  · exact Or.inl rfl
  · next r resume hrest =>
    cases (hi.advances hrest).progress with
    | more htable _ => exact Or.inl htable
    | lost _ _ htable => exact Or.inl htable
    | settled a _ _ _ hresult =>
      refine Or.inr ?_
      change _ = ((calls e.call).course.result w.history.table e.now _).2
      rw [hresult]
      rfl
  all_goals exact Or.inl rfl

theorem World.Inv.isKeyed (hi : w.Inv calls) : w.table.IsKeyed :=
  (History.inv_of_reachable hi.reachable).keyed

/-- What a step makes of what is stored under an identifier. -/
theorem World.Inv.fate (hi : w.Inv calls) (e : Tick ι) (k : Identifier) :
    Fate (calls e.call).course e.now (.ofRandom (w.random e.call)) k (w.table.get? k)
      ((w.tick e).table.get? k) := by
  rcases hi.table_tick with htable | htable
  · rw [htable]
    exact .kept _
  · rw [htable]
    exact Course.fate _ hi.isKeyed _ _ _

/-! ## Every stored item -/

/-- Whether every stored item is sound. -/
def IsSound (t : Table) : Prop := ∀ k x, t.get? k = some x → x.IsSound k

theorem isSound_of_reachable (hr : Reachable calls w) : IsSound w.table := by
  induction hr with
  | start =>
    intro k x hx
    cases hx
  | tick e hr _ ih =>
    intro k
    exact ((inv_of_reachable hr).fate e k).isSound (fun _ => Invocation.isStored_of_gives) (ih k)

/-! ## From one world to a later one -/

/-- Whether a run leads from one world to another. -/
def World.Leads : World ι → World ι → Prop :=
  Relation.ReflTransGen fun w w' => ∃ e, w.Fresh e ∧ w' = w.tick e

theorem Reachable.leads (hr : Reachable calls w) (hl : w.Leads w') : Reachable calls w' := by
  induction hl with
  | refl => exact hr
  | tail _ hstep ih =>
    obtain ⟨e, hfresh, rfl⟩ := hstep
    exact ih.tick e hfresh

/-- A used-up identifier stays so, and if nothing is stored under it, nothing ever will be. -/
theorem Reachable.spent_leads (hr : Reachable calls w) (hl : w.Leads w')
    (hs : w.history.Spent k) :
    w'.history.Spent k ∧ (w.table.get? k = none → w'.table.get? k = none) := by
  induction hl with
  | refl => exact ⟨hs, id⟩
  | @tail v _ hv hstep ih =>
    obtain ⟨e, hfresh, rfl⟩ := hstep
    obtain ⟨hspent, hnone⟩ := ih
    rcases (inv_of_reachable (hr.leads hv)).history_tick hfresh with heq | ⟨r, hp, heq⟩
    · rw [World.table, World.table, heq]
      exact ⟨hspent, hnone⟩
    · rw [World.table, World.table, heq]
      exact ⟨hspent.perform e.now hp,
        fun hk => hspent.get?_perform (hnone hk) e.now _ e.call r⟩

/-- While an item is stored, it keeps its creation time and its version does not fall. -/
theorem Reachable.grows (hr : Reachable calls w) (hl : w.Leads w') {x y : Item}
    (hx : w.table.get? k = some x) (hy : w'.table.get? k = some y) :
    y.createdAt = x.createdAt ∧ x.version ≤ y.version := by
  have hspent := (History.inv_of_reachable (inv_of_reachable hr).reachable).spent_of_stored hx
  induction hl generalizing y with
  | refl =>
    cases hx.symm.trans hy
    exact ⟨rfl, Int.le_refl _⟩
  | @tail v _ hv hstep ih =>
    have hlast := hstep
    obtain ⟨e, _, rfl⟩ := hstep
    have hrv := hr.leads hv
    cases hz : v.table.get? k with
    | none =>
      -- The item would have been deleted and inserted anew.
      have hgone := (hrv.spent_leads (.single hlast) (hr.spent_leads hv hspent).1).2 hz
      rw [hgone] at hy
      cases hy
    | some z =>
      obtain ⟨hcreated, hversion⟩ := ih hz
      have hfate := (inv_of_reachable hrv).fate e k
      rw [hz, hy] at hfate
      obtain ⟨hcreated', hversion'⟩ := hfate.grows
      exact ⟨hcreated'.trans hcreated, Int.le_trans hversion hversion'⟩

/-! ## Committed renamings -/

/-- A call that commits has staged one change. -/
theorem Stands.staged_of_commit {h : History ι} {u : ι} {random : BitVec 128} {c : Course Reply}
    {resume : Request.commit.Answer → Serving Reply}
    (hs : Stands h u random c (.ask (.storage .commit) resume)) : ∃ d, h.staged u = [d] := by
  cases hs with
  | ahead hp =>
    cases c with
    | refused a => exact absurd hp Serving.Returns.not_ask_storage
    | creation name reply =>
      cases (Serving.Follows.storage_inv (s := .start) (l := fun _ => savePlan name reply) hp).1
    | listing window reply =>
      cases (Serving.Follows.storage_inv (s := .start) (l := fun _ => pagePlan window reply) hp).1
    | lookup id broken missing errand =>
      cases (Serving.Follows.storage_inv (s := .start)
        (l := fun _ => findPlan id broken missing errand) hp).1
  | @saving name reply _ hp _ =>
    cases (Serving.Follows.storage_inv (s := .save name)
      (l := fun id => commitPlan (reply id)) hp).1
  | inserting _ hstaged => exact ⟨_, hstaged⟩
  | @paging window reply _ hp =>
    cases (Serving.Follows.storage_inv (s := .page window)
      (l := fun found => .done (reply found)) hp).1
  | @seeking id broken missing errand _ hp _ =>
    cases (Serving.Follows.storage_inv (s := .find id)
      (l := fun found => lookupPlan broken missing errand found) hp).1
  | @editing _ _ _ _ item kind reply _ _ _ _ hp _ =>
    have hrequest := (Serving.Follows.storage_inv (s := kind.request item)
      (l := fun _ => commitPlan reply) hp).1
    cases kind <;> cases hrequest
  | committing _ _ _ _ hstaged => exact ⟨_, hstaged⟩
  | ended hp => exact absurd hp Serving.Returns.not_ask_storage

/-- A commit that gave an item another name found the item stored and left it at the next
version. -/
def Raises (c : Storage.CommitRecord ι) : Prop :=
  c.outcome.isOk = true → ∀ x, .update x ∈ c.staged →
    ∃ y z, c.before.get? x.id = some y ∧ c.after.get? x.id = some z ∧ z.version = y.version + 1

theorem raises_record {h : History ι} {u : ι} {d : Change} (hstaged : h.staged u = [d])
    (now : Instant) : Raises (h.record now u) := by
  intro hok x hx
  simp only [History.record, hstaged, List.mem_singleton] at hok hx ⊢
  subst hx
  have ha := Table.accepts_of_isOk hok _ List.mem_cons_self
  obtain ⟨y, hy, hversion⟩ := (Table.accepts_of_item? rfl).1 ha
  refine ⟨y, x.updated now, hy, ?_, ?_⟩
  · rw [Table.commit_update hy hversion, Assoc.get?_insert, if_pos rfl]
  · rw [hversion]
    rfl

theorem raises_of_reachable (hr : Reachable calls w) : ∀ c ∈ w.history.commits, Raises c := by
  induction hr with
  | start => nofun
  | @tick w e hr _ ih =>
    unfold World.tick
    split
    · exact ih
    · next r resume hrest =>
      change ∀ c ∈ (w.history.perform e.now (.ofRandom e.random) e.call r).2.commits, Raises c
      by_cases hcommit : r = .commit
      · subst hcommit
        intro c hc
        change c ∈ w.history.commits ++ [w.history.record e.now e.call] at hc
        rcases List.mem_append.1 hc with hc | hc
        · exact ih c hc
        · rw [List.mem_singleton.1 hc]
          have hs := (inv_of_reachable hr).stands e.call
          rw [hrest] at hs
          obtain ⟨d, hd⟩ := hs.staged_of_commit
          exact raises_record hd e.now
      · change ∀ c ∈ (if r = .commit then _ else w.history.commits), Raises c
        rw [if_neg hcommit]
        exact ih
    all_goals exact ih

/-! ## The lifetime of an item -/

/-- In every run of calls over an empty table, whatever the clock shows: every stored item is
stored under its own identifier, its name is without blanks around it and breaks no rule, its
version is one or more and one just while it has no modification time, which is never before its
creation. While an item is stored, its creation time stays and its version does not fall; every
committed renaming raises it by one; and what was deleted is never stored again. -/
theorem stored_soundly (hr : Reachable calls w) :
    (∀ k x, w.table.get? k = some x → x.IsSound k) ∧
    (∀ w', w.Leads w' → ∀ k x y, w.table.get? k = some x → w'.table.get? k = some y →
      y.createdAt = x.createdAt ∧ x.version ≤ y.version) ∧
    (∀ c ∈ w.history.commits, Raises c) ∧
    ∀ w' w'', w.Leads w' → w'.Leads w'' → ∀ k x, w.table.get? k = some x →
      w'.table.get? k = none → w''.table.get? k = none := by
  refine ⟨isSound_of_reachable hr, ?_, raises_of_reachable hr, ?_⟩
  · intro w' hl k x y hx hy
    exact hr.grows hl hx hy
  · intro w' w'' hl hl' k x hx hnone
    have hspent := (History.inv_of_reachable (inv_of_reachable hr).reachable).spent_of_stored hx
    exact ((hr.leads hl).spent_leads hl' (hr.spent_leads hl hspent).1).2 hnone

/-! ### From creation to deletion -/

theorem World.leads_foldl {ticks : List (Tick ι)} (hfresh : w.allFresh ticks = true) :
    w.Leads (ticks.foldl World.tick w) := by
  induction ticks generalizing w with
  | nil => exact .refl
  | cons e rest ih =>
    simp only [World.allFresh, Bool.and_eq_true, decide_eq_true_eq] at hfresh
    exact .head ⟨e, hfresh.1, rfl⟩ (ih hfresh.2)

/-- A call that creates an item, one that gives it another name, and one that deletes it. -/
def generations (k : Nat) : Invocation :=
  let call : Call := .start "" .empty .nil
  let id := (Identifier.ofRandom 1).text
  match k with
  | 0 => ⟨.createItem, call, ({ name := " a " } : ItemMessage)⟩
  | 1 => ⟨.updateItem, call, ({ id := id, name := "b" } : ItemMessage)⟩
  | _ => ⟨.deleteItem, call, ({ id := id } : ItemKey)⟩

/-- The first two calls, between which the clock steps back. -/
def youthTicks : List (Tick Nat) :=
  List.replicate 9 ⟨0, .ofMicros 5, 1, 0⟩ ++ List.replicate 12 ⟨1, .ofMicros 0, 1, 0⟩

/-- The world after them. -/
def youth : World Nat := youthTicks.foldl World.tick (.start generations)

/-- The third call. -/
def age : List (Tick Nat) := List.replicate 12 ⟨2, .ofMicros 0, 1, 0⟩

/-- The clock has stepped back before the item gets its other name, so it is modified at the time at
which it was created. Once it is deleted, no run stores it again. -/
theorem generations_stored_soundly :
    youth.table.get? (.ofRandom 1) =
        some ⟨.ofRandom 1, "b", .ofMicros 5, some (.ofMicros 5), 2⟩ ∧
      (age.foldl World.tick youth).table.get? (.ofRandom 1) = none ∧
      ∀ w, (age.foldl World.tick youth).Leads w → w.table.get? (.ofRandom 1) = none := by
  have hr : Reachable generations youth := Reachable.start.foldl (by decide +kernel)
  have hl : youth.Leads (age.foldl World.tick youth) := World.leads_foldl (by decide +kernel)
  have hyouth : youth.table.get? (.ofRandom 1) =
      some ⟨.ofRandom 1, "b", .ofMicros 5, some (.ofMicros 5), 2⟩ := by
    decide +kernel
  have hage : (age.foldl World.tick youth).table.get? (.ofRandom 1) = none := by
    decide +kernel
  exact ⟨hyouth, hage, fun w hw => (stored_soundly hr).2.2.2 _ w hl hw _ _ hyouth hage⟩

end Service
end ItemCatalog
