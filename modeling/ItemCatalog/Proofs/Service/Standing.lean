import ItemCatalog.Proofs.Service.World

/-!
# Where a call in flight stands

A call in flight has come some way along its course: what it has staged and read, and what it has
still to ask, go together. Main statement: `Stands.advances`, by which every answer to a storage
request leaves a call in such a place, and a call that asks its last question over a table comes to
just what its whole course comes to over that table.
-/

namespace ItemCatalog.Service
open Storage (Change Request Table History)

variable {ι : Type} [DecidableEq ι] {h h' : History ι} {k : ι} {random bits : BitVec 128}
  {now : Instant}

/-! ## The ends of courses -/

/-- The end of a course that commits what it has staged. -/
def commitPlan (reply : Except Storage.Error (List Item) → Reply) : Serving Reply := do
  let outcome ← Serving.storage .commit
  return reply outcome

/-- The end of a course that stages an insertion. -/
def savePlan (name : String) (reply : Identifier → Except Storage.Error (List Item) → Reply) :
    Serving Reply := do
  let id ← Serving.storage (.save name)
  commitPlan (reply id)

/-- The end of a course that stages a change of an item. -/
def editPlan (kind : Edit) (item : Item) (reply : Except Storage.Error (List Item) → Reply) :
    Serving Reply := do
  let _ ← Serving.storage (kind.request item)
  commitPlan reply

/-- The end of a course that reads a page. -/
def pagePlan (window : Window) (reply : Except Storage.Error (Page Item) → Reply) :
    Serving Reply := do
  let found ← Serving.storage (.page window)
  return reply found

/-- The end of a course that looks for an item. -/
def findPlan (id : Identifier) (broken : Storage.Error → Reply) (missing : Reply)
    (errand : Item → Errand Reply) : Serving Reply := do
  let found ← Serving.storage (.find id)
  lookupPlan broken missing errand found

/-! ## Standings -/

/-- What a call in flight has still to ask along its course, by what its unit of work has staged
and read: `random` are the bits that its identifier was drawn from. -/
inductive Stands (h : History ι) (k : ι) (random : BitVec 128) : Course Reply → Serving Reply → Prop
  /-- Nothing has been asked yet. -/
  | ahead {c p} : p.Follows c.plan → Stands h k random c p
  | saving {name reply p} : p.Follows (savePlan name reply) → h.staged k = [] →
      Stands h k random (.creation name reply) p
  | inserting {name reply p} : p.Follows (commitPlan (reply (.ofRandom random))) →
      h.staged k = [.insert (.ofRandom random) name] → Stands h k random (.creation name reply) p
  | paging {window reply p} : p.Follows (pagePlan window reply) →
      Stands h k random (.listing window reply) p
  | seeking {id broken missing errand p} : p.Follows (findPlan id broken missing errand) →
      h.staged k = [] → Stands h k random (.lookup id broken missing errand) p
  /-- An item has been read and is to be changed. -/
  | editing {id broken missing errand item kind reply p} :
      errand item = .edit kind reply → item ∈ h.readBy k → item.id = id →
      p.Follows (editPlan kind item reply) → h.staged k = [] →
      Stands h k random (.lookup id broken missing errand) p
  /-- A change of the item that was read is staged. -/
  | committing {id broken missing errand item kind reply p} :
      errand item = .edit kind reply → item ∈ h.readBy k → item.id = id →
      p.Follows (commitPlan reply) → h.staged k = [kind.change item] →
      Stands h k random (.lookup id broken missing errand) p
  /-- Nothing more is to be asked of storage. -/
  | ended {c p a} : p.Returns a → Stands h k random c p

variable {c : Course Reply} {p : Serving Reply}

/-- A standing depends on what the call itself has staged and read. -/
theorem Stands.congr (hs : Stands h k random c p) (hstaged : h'.staged k = h.staged k)
    (hread : ∀ y ∈ h.readBy k, y ∈ h'.readBy k) : Stands h' k random c p := by
  cases hs with
  | ahead hp => exact .ahead hp
  | saving hp he => exact .saving hp (hstaged.trans he)
  | inserting hp he => exact .inserting hp (hstaged.trans he)
  | paging hp => exact .paging hp
  | seeking hp he => exact .seeking hp (hstaged.trans he)
  | editing herrand hmem hid hp he =>
    exact .editing herrand (hread _ hmem) hid hp (hstaged.trans he)
  | committing herrand hmem hid hp he =>
    exact .committing herrand (hread _ hmem) hid hp (hstaged.trans he)
  | ended hp => exact .ended hp

/-- An answer that is not of storage leaves a call where it stands. -/
theorem Stands.resume {e : Effect} {resume : e.Answer → Serving Reply}
    (hs : Stands h k random c (.ask e resume)) (he : ∀ r, e ≠ .storage r) (x : e.Answer) :
    Stands h k random c (resume x) := by
  cases hs with
  | ahead hp => exact .ahead (hp.resume he x)
  | saving hp hstaged => exact .saving (hp.resume he x) hstaged
  | inserting hp hstaged => exact .inserting (hp.resume he x) hstaged
  | paging hp => exact .paging (hp.resume he x)
  | seeking hp hstaged => exact .seeking (hp.resume he x) hstaged
  | editing herrand hmem hid hp hstaged =>
    exact .editing herrand hmem hid (hp.resume he x) hstaged
  | committing herrand hmem hid hp hstaged =>
    exact .committing herrand hmem hid (hp.resume he x) hstaged
  | ended hp => exact .ended (hp.resume he x)

/-- A call in flight follows a program that asks nothing but storage. -/
theorem Stands.follows (hs : Stands h k random c p) : ∃ q, p.Follows q := by
  cases hs with
  | ahead hp => exact ⟨_, hp⟩
  | saving hp _ => exact ⟨_, hp⟩
  | inserting hp _ => exact ⟨_, hp⟩
  | paging hp => exact ⟨_, hp⟩
  | seeking hp _ => exact ⟨_, hp⟩
  | editing _ _ _ hp _ => exact ⟨_, hp⟩
  | committing _ _ _ hp _ => exact ⟨_, hp⟩
  | ended hp => exact ⟨_, hp⟩

/-! ## Progress -/

/-- What an answer to a storage request comes to for the call that gets it: the call has more to
ask and the table is as it was; or its commit was lost and the table is as it was; or the call has
asked its last question, and comes to what its whole course comes to over the table. -/
inductive Progress (t t' : Table) (now : Instant) (random : BitVec 128) (c : Course Reply)
    (p : Serving Reply) (touched lost : Bool) : Prop
  | more : t' = t → (∀ a, ¬p.Returns a) → Progress t t' now random c p touched lost
  | lost : touched = true → lost = true → t' = t → Progress t t' now random c p touched lost
  | settled (a : Reply) : touched = true → lost = false → p.Returns a →
      c.result t now (.ofRandom random) = (a, t') → Progress t t' now random c p touched lost

/-- The answer to a storage request takes a call from one standing to another. -/
structure Advances (h : History ι) (k : ι) (now : Instant) (random bits : BitVec 128)
    (c : Course Reply) (r : Request) (resume : r.Answer → Serving Reply) : Prop where
  permitted : (r.draws = true → .ofRandom bits ∉ h.drawn) → h.Permits (.ofRandom bits) k r
  stands : Stands (h.perform now (.ofRandom bits) k r).2 k (if r.draws then bits else random) c
    (resume (h.perform now (.ofRandom bits) k r).1)
  progress : Progress h.table (h.perform now (.ofRandom bits) k r).2.table now random c
    (resume (h.perform now (.ofRandom bits) k r).1) (touches r)
    (lost r (h.perform now (.ofRandom bits) k r).1)

/-! ## Staging -/

/-- A request that stages something leaves more to be asked. -/
theorem progress_of_staging {r : Request} {resume : r.Answer → Serving Reply}
    (htable : (h.perform now (.ofRandom bits) k r).2.table = h.table) {r' : Request}
    {l : r'.Answer → Serving Reply}
    (hp : (resume (h.perform now (.ofRandom bits) k r).1).Follows (.ask (.storage r') l)) :
    Progress h.table (h.perform now (.ofRandom bits) k r).2.table now random c
      (resume (h.perform now (.ofRandom bits) k r).1) (touches r)
      (lost r (h.perform now (.ofRandom bits) k r).1) :=
  .more htable fun _ => hp.not_returns

theorem mem_readBy_perform {u : ι} {fresh : Identifier} {r : Request} {y : Item}
    (hy : y ∈ h.readBy u) : y ∈ (h.perform now fresh k r).2.readBy u := by
  rw [History.mem_readBy] at hy ⊢
  exact List.mem_append_left _ hy

theorem staged_start : (h.perform now (.ofRandom bits) k .start).2.staged k = [] := by
  rw [History.staged_perform, if_pos rfl]
  rfl

theorem permits_edit {fresh : Identifier} {kind : Edit} {item : Item} (hmem : item ∈ h.readBy k) :
    h.Permits fresh k (kind.request item) := by
  cases kind with
  | rename name => exact ⟨item, hmem, rfl⟩
  | remove => exact ⟨item, hmem, rfl⟩

theorem table_edit {fresh : Identifier} (kind : Edit) (item : Item) :
    (h.perform now fresh k (kind.request item)).2.table = h.table := by
  cases kind <;> rfl

theorem staged_edit {fresh : Identifier} (kind : Edit) (item : Item) :
    (h.perform now fresh k (kind.request item)).2.staged k = h.staged k ++ [kind.change item] := by
  rw [History.staged_perform, if_pos rfl]
  cases kind <;> rfl

theorem Stands.advances_of_ahead {r : Request} {resume : r.Answer → Serving Reply}
    (hp : Serving.Follows (.ask (.storage r) resume) c.plan) :
    Advances h k now random bits c r resume := by
  cases c with
  | refused a => exact absurd hp Serving.Returns.not_ask_storage
  | creation name reply =>
    obtain ⟨rfl, hk⟩ := Serving.Follows.storage_inv (s := .start)
      (l := fun _ => savePlan name reply) hp
    exact ⟨fun _ => trivial, .saving (hk _) staged_start, progress_of_staging rfl (hk _)⟩
  | listing window reply =>
    obtain ⟨rfl, hk⟩ := Serving.Follows.storage_inv (s := .start)
      (l := fun _ => pagePlan window reply) hp
    exact ⟨fun _ => trivial, .paging (hk _), progress_of_staging rfl (hk _)⟩
  | lookup id broken missing errand =>
    obtain ⟨rfl, hk⟩ := Serving.Follows.storage_inv (s := .start)
      (l := fun _ => findPlan id broken missing errand) hp
    exact ⟨fun _ => trivial, .seeking (hk _) staged_start, progress_of_staging rfl (hk _)⟩

theorem Stands.advances_of_saving {r : Request} {resume : r.Answer → Serving Reply} {name : String}
    {reply : Identifier → Except Storage.Error (List Item) → Reply}
    (hp : Serving.Follows (.ask (.storage r) resume) (savePlan name reply))
    (hstaged : h.staged k = []) :
    Advances h k now random bits (.creation name reply) r resume := by
  obtain ⟨rfl, hk⟩ := Serving.Follows.storage_inv (s := .save name)
    (l := fun id => commitPlan (reply id)) hp
  refine ⟨fun hfresh => hfresh rfl, .inserting (hk _) ?_, progress_of_staging rfl (hk _)⟩
  rw [History.staged_perform, if_pos rfl, hstaged]
  rfl

theorem Stands.advances_of_editing {r : Request} {resume : r.Answer → Serving Reply}
    {id : Identifier} {broken : Storage.Error → Reply} {missing : Reply}
    {errand : Item → Errand Reply} {item : Item} {kind : Edit}
    {reply : Except Storage.Error (List Item) → Reply} (herrand : errand item = .edit kind reply)
    (hmem : item ∈ h.readBy k) (hid : item.id = id)
    (hp : Serving.Follows (.ask (.storage r) resume) (editPlan kind item reply))
    (hstaged : h.staged k = []) :
    Advances h k now random bits (.lookup id broken missing errand) r resume := by
  obtain ⟨rfl, hk⟩ := Serving.Follows.storage_inv (s := kind.request item)
    (l := fun _ => commitPlan reply) hp
  refine ⟨fun _ => permits_edit hmem, .committing herrand (mem_readBy_perform hmem) hid (hk _) ?_,
    progress_of_staging (table_edit kind item) (hk _)⟩
  rw [staged_edit, hstaged]
  rfl

/-! ## Reading -/

theorem Stands.advances_of_paging {r : Request} {resume : r.Answer → Serving Reply}
    {window : Window} {reply : Except Storage.Error (Page Item) → Reply}
    (hp : Serving.Follows (.ask (.storage r) resume) (pagePlan window reply)) :
    Advances h k now random bits (.listing window reply) r resume := by
  obtain ⟨rfl, hk⟩ := Serving.Follows.storage_inv (s := .page window)
    (l := fun found => .done (reply found)) hp
  exact ⟨fun _ => trivial, .ended (hk _), .settled _ rfl rfl (hk _) rfl⟩

/-- Looking for an item ends a call, or leaves it with the item to be changed. -/
theorem Stands.advances_of_seeking (hi : h.Inv) {r : Request} {resume : r.Answer → Serving Reply}
    {id : Identifier} {broken : Storage.Error → Reply} {missing : Reply}
    {errand : Item → Errand Reply}
    (hp : Serving.Follows (.ask (.storage r) resume) (findPlan id broken missing errand))
    (hstaged : h.staged k = []) :
    Advances h k now random bits (.lookup id broken missing errand) r resume := by
  obtain ⟨rfl, hk⟩ := Serving.Follows.storage_inv (s := .find id)
    (l := fun found => lookupPlan broken missing errand found) hp
  have hrest : (resume (h.perform now (.ofRandom bits) k (.find id)).1).Follows
      (lookupPlan broken missing errand (.ok (h.table.get? id))) := hk _
  have hstaged' : (h.perform now (.ofRandom bits) k (.find id)).2.staged k = [] := by
    rw [History.staged_perform, if_pos rfl]
    exact hstaged
  cases hg : h.table.get? id with
  | none =>
    rw [hg] at hrest
    refine ⟨fun _ => trivial, .ended hrest, .settled missing rfl rfl hrest ?_⟩
    rw [Course.result, hg]
    rfl
  | some item =>
    rw [hg] at hrest
    change Serving.Follows _ ((errand item).plan item) at hrest
    cases herrand : errand item with
    | answer a =>
      rw [herrand] at hrest
      refine ⟨fun _ => trivial, .ended hrest, .settled a rfl rfl hrest ?_⟩
      simp only [Course.result, hg, herrand]
      rfl
    | edit kind reply =>
      rw [herrand] at hrest
      have hmem : item ∈ (h.perform now (.ofRandom bits) k (.find id)).2.readBy k := by
        rw [History.mem_readBy]
        refine List.mem_append_right _ (List.mem_map.2 ⟨item, ?_, rfl⟩)
        change item ∈ Request.handedOut (.find id) (.ok (h.table.get? id))
        rw [hg]
        exact List.mem_cons_self
      refine ⟨fun _ => trivial, .editing herrand hmem (hi.keyed id item hg) hrest hstaged',
        .more rfl fun _ => ?_⟩
      exact Serving.Follows.not_returns (r := kind.request item)
        (l := fun _ => commitPlan reply) hrest

/-! ## Committing -/

/-- A commit ends a call. If it succeeds, it comes to what the whole course comes to, provided that
this is what the commit comes to over the table. -/
theorem advances_of_commit {r : Request} {resume : r.Answer → Serving Reply}
    {reply : Except Storage.Error (List Item) → Reply}
    (hp : Serving.Follows (.ask (.storage r) resume) (commitPlan reply))
    (hresult : (h.table.commit now (h.staged k)).1.isOk = true →
      c.result h.table now (.ofRandom random) =
        (reply (h.table.commit now (h.staged k)).1, (h.table.commit now (h.staged k)).2)) :
    Advances h k now random bits c r resume := by
  obtain ⟨rfl, hk⟩ := Serving.Follows.storage_inv (s := .commit)
    (l := fun outcome => .done (reply outcome)) hp
  have hrest := hk (h.perform now (.ofRandom bits) k .commit).1
  refine ⟨fun _ => trivial, .ended hrest, ?_⟩
  have hanswer : (h.perform now (.ofRandom bits) k .commit).1 =
      (h.table.commit now (h.staged k)).1 := rfl
  have htable : (h.perform now (.ofRandom bits) k .commit).2.table =
      (h.table.commit now (h.staged k)).2 := rfl
  cases ho : (h.table.commit now (h.staged k)).1 with
  | error e =>
    obtain ⟨hsame, d, _, _, rfl⟩ := Table.commit_eq_of_error ho
    refine .lost rfl ?_ (htable.trans hsame)
    rw [hanswer, ho]
    rfl
  | ok written =>
    refine .settled _ rfl ?_ hrest ?_
    · rw [hanswer, ho]
      rfl
    · rw [hresult (by rw [ho]; rfl)]
      rfl

/-- A commit of a change finds the item just as the call has read it, or is lost. -/
theorem Stands.advances_of_committing (hi : h.Inv) {r : Request}
    {resume : r.Answer → Serving Reply} {id : Identifier} {broken : Storage.Error → Reply}
    {missing : Reply} {errand : Item → Errand Reply} {item : Item} {kind : Edit}
    {reply : Except Storage.Error (List Item) → Reply} (herrand : errand item = .edit kind reply)
    (hmem : item ∈ h.readBy k) (hid : item.id = id)
    (hp : Serving.Follows (.ask (.storage r) resume) (commitPlan reply))
    (hstaged : h.staged k = [kind.change item]) :
    Advances h k now random bits (.lookup id broken missing errand) r resume := by
  refine advances_of_commit hp ?_
  rw [hstaged]
  intro hok
  have ha : h.table.accepts (kind.change item) = true :=
    Table.accepts_of_isOk hok _ List.mem_cons_self
  have hget : h.table.get? id = some item := by
    rw [← hid]
    cases kind with
    | rename name =>
      exact hi.get?_of_accepts (x := { item with name := name }) rfl ha hmem rfl
    | remove => exact hi.get?_of_accepts (x := item) rfl ha hmem rfl
  simp only [Course.result, hget, herrand, Errand.result]

/-! ## Every answer -/

/-- Every answer to a storage request of a call takes it from one standing to another. -/
theorem Stands.advances (hi : h.Inv) {r : Request} {resume : r.Answer → Serving Reply}
    (hs : Stands h k random c (.ask (.storage r) resume)) (now : Instant) (bits : BitVec 128) :
    Advances h k now random bits c r resume := by
  cases hs with
  | ahead hp => exact advances_of_ahead hp
  | saving hp hstaged => exact advances_of_saving hp hstaged
  | inserting hp hstaged =>
    refine advances_of_commit hp fun _ => ?_
    rw [hstaged]
    rfl
  | paging hp => exact advances_of_paging hp
  | seeking hp hstaged => exact advances_of_seeking hi hp hstaged
  | editing herrand hmem hid hp hstaged => exact advances_of_editing herrand hmem hid hp hstaged
  | committing herrand hmem hid hp hstaged =>
    exact advances_of_committing hi herrand hmem hid hp hstaged
  | ended hp => exact absurd hp Serving.Returns.not_ask_storage

end ItemCatalog.Service
