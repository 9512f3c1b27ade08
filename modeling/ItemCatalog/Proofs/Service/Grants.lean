import ItemCatalog.Proofs.Service.Demands
import ItemCatalog.Proofs.Service.Traffic
import ItemCatalog.Sql.Statement

/-!
# No change without a grant

What the calls that pass the gate can do to the table, and that the others do nothing. Main
statement: `no_change_without_grant`.
-/

namespace ItemCatalog

/-! ## What an operation makes of an item -/

/-- What an operation makes of what is stored under an identifier. -/
inductive Operation.Makes : Operation → Option Item → Option Item → Prop
  | create (y : Item) : Makes .create none (some y)
  | update (x y : Item) : Makes .update (some x) (some y)
  | delete (x : Item) : Makes .delete (some x) none

/-- A method that is not one of reading is the only one of its operation. -/
theorem Method.eq_of_operation {method other : Method} (h : method.operation = other.operation)
    (hwrites : other.operation ≠ .read) : method = other := by
  cases method <;> cases other <;> first | rfl | exact absurd rfl hwrites | cases h

/-! ## Readers -/

/-- Whether a user holds none of the roles and permissions by which something may be changed. -/
structure User.IsReader (user : User) : Prop where
  admin : user.roles.contains "admin" = false
  write : user.roles.contains "write" = false
  create : user.permissions.contains "create" = false
  update : user.permissions.contains "update" = false
  delete : user.permissions.contains "delete" = false

theorem User.IsReader.not_allows {user : User} (h : user.IsReader) {op : Operation}
    (hop : op ≠ .read) : user.allows op = false := by
  cases op with
  | read => exact absurd rfl hop
  | create => simp [User.allows, Operation.roles, Operation.name, h.admin, h.write, h.create]
  | update => simp [User.allows, Operation.roles, Operation.name, h.admin, h.write, h.update]
  | delete => simp [User.allows, Operation.roles, Operation.name, h.admin, h.delete]

/-! ## What a commit changes -/

namespace Storage

/-- A request stages a change of its own operation. -/
theorem Request.operation?_of_change? {fresh : Identifier} {r : Request} {d : Change}
    (h : r.change? fresh = some d) : r.operation? = some d.operation := by
  cases r <;> cases h <;> rfl

namespace Table
variable {t : Table} {now : Instant} {staged : List Change} {k : Identifier}

/-- An accepted change makes of its item what its operation makes of one. -/
theorem makes_of_accepts {d : Change} (ha : t.accepts d = true) :
    d.operation.Makes (t.get? d.id) (written? now d) := by
  cases d with
  | insert id name =>
    change Operation.Makes .create (t.get? id) _
    rw [accepts_insert.1 ha]
    exact .create _
  | update item =>
    obtain ⟨y, hy, _⟩ := (accepts_of_item? rfl).1 ha
    change Operation.Makes .update (t.get? item.id) _
    rw [hy]
    exact .update y _
  | delete item =>
    obtain ⟨y, hy, _⟩ := (accepts_of_item? rfl).1 ha
    change Operation.Makes .delete (t.get? item.id) _
    rw [hy]
    exact .delete y

/-- What a commit changes is changed by something that was staged. -/
theorem exists_makes_of_commit (hne : (t.commit now staged).2.get? k ≠ t.get? k) :
    ∃ d ∈ staged, d.operation.Makes (t.get? k) ((t.commit now staged).2.get? k) := by
  rcases get?_commit t now staged k with hget | ⟨d, hd, ha, rfl, hget⟩
  · exact absurd hget hne
  · refine ⟨d, hd, ?_⟩
    rw [hget]
    exact makes_of_accepts ha

end Table
end Storage

namespace Service
open Storage (Change Request Table)

/-! ## Runs -/

/-- Whether the token of a call grants the operation of its method. -/
def Submission.IsGranted (validator : Validator) (s : Submission) : Prop :=
  validator.Grants s.metadata s.method.operation

theorem Submission.asks_program (validator : Validator) (s : Submission) :
    (s.program (some validator)).Asks fun r =>
      s.IsGranted validator ∧ r.StagesFor s.method.operation :=
  (asks_serve validator s.method s.metadata s.query).bind fun _ => .done _

variable {ι : Type} [DecidableEq ι] {validator : Validator} {calls : ι → Submission}
  {w : Traffic ι} {e : Tick ι} {k : Identifier}

/-- What holds in every run of calls through a gate: each call has only permitted requests to
make, and what it has staged and asked it was permitted. -/
structure Traffic.Guarded (validator : Validator) (calls : ι → Submission) (w : Traffic ι) :
    Prop where
  asks : ∀ i, (w.rest i).Asks fun r =>
    (calls i).IsGranted validator ∧ r.StagesFor (calls i).method.operation
  staged : ∀ i, ∀ d ∈ w.work.staged i,
    (calls i).IsGranted validator ∧ d.operation = (calls i).method.operation
  asked : ∀ i r, (i, r) ∈ w.asked → (calls i).IsGranted validator

theorem Traffic.guarded_start (validator : Validator) (t : Table) (calls : ι → Submission) :
    (Traffic.start (some validator) t calls).Guarded validator calls where
  asks i := (calls i).asks_program validator
  staged _ _ hd := nomatch hd
  asked _ _ hr := nomatch hr

/-- What a call that goes on may still ask, if any of its questions has been answered. -/
theorem Traffic.Guarded.asks_update (hg : w.Guarded validator calls) {f : Effect}
    {resume : f.Answer → Serving Delivery} (hrest : w.rest e.call = .ask f resume)
    (x : f.Answer) (i : ι) :
    (Function.update w.rest e.call (resume x) i).Asks fun r =>
      (calls i).IsGranted validator ∧ r.StagesFor (calls i).method.operation := by
  by_cases hi : i = e.call
  · subst hi
    have hasks := hg.asks e.call
    rw [hrest] at hasks
    rw [Function.update_self]
    exact hasks.resume x
  · rw [Function.update_of_ne hi]
    exact hg.asks i

theorem Traffic.Guarded.serve (hg : w.Guarded validator calls) {r : Request}
    {resume : r.Answer → Serving Delivery} (hrest : w.rest e.call = .ask (.storage r) resume) :
    (w.serve e r resume).Guarded validator calls := by
  have hpermitted : (calls e.call).IsGranted validator ∧
      r.StagesFor (calls e.call).method.operation := by
    have hasks := hg.asks e.call
    rw [hrest] at hasks
    exact hasks.storage
  constructor
  · exact hg.asks_update hrest _
  · intro i d hd
    change d ∈ Storage.Workspace.staged (w.work.serve Table.backend e.now _ e.call r).2 i at hd
    rw [Storage.Workspace.staged_serve] at hd
    split at hd
    · next hi =>
      subst hi
      rcases Storage.Backend.mem_staged_respond hd with hd | hd
      · exact hg.staged e.call d hd
      · exact ⟨hpermitted.1, hpermitted.2 d.operation (Request.operation?_of_change? hd)⟩
    · exact hg.staged i d hd
  · intro i r' hr'
    rcases List.mem_append.1 hr' with hr' | hr'
    · exact hg.asked i r' hr'
    · cases List.mem_singleton.1 hr'
      exact hpermitted.1

theorem Traffic.Guarded.tick (hg : w.Guarded validator calls) (e : Tick ι) :
    (w.tick e).Guarded validator calls := by
  rcases w.tick_cases e with heq | ⟨hwork, hasked, f, resume, x, hrest, hrest'⟩ |
    ⟨r, resume, hrest, heq⟩
  · rw [heq]
    exact hg
  · constructor
    · rw [hrest']
      exact hg.asks_update hrest x
    · rw [hwork]
      exact hg.staged
    · rw [hasked]
      exact hg.asked
  · rw [heq]
    exact hg.serve hrest

theorem Traffic.Guarded.run (hg : w.Guarded validator calls) (ticks : List (Tick ι)) :
    (w.run ticks).Guarded validator calls := by
  induction ticks generalizing w with
  | nil => exact hg
  | cons e rest ih => exact ih (hg.tick e)

/-! ## What a step changes -/

/-- A step that changes what is stored under an identifier makes of it what the operation of its
method makes of an item, and the token of its call grants that. -/
theorem Traffic.Guarded.makes (hg : w.Guarded validator calls)
    (hne : (w.tick e).table.get? k ≠ w.table.get? k) :
    (calls e.call).IsGranted validator ∧
      (calls e.call).method.operation.Makes (w.table.get? k) ((w.tick e).table.get? k) := by
  rcases w.table_tick e with htable | htable
  · rw [htable] at hne
    exact absurd rfl hne
  · rw [htable] at hne ⊢
    obtain ⟨d, hd, hmakes⟩ := Table.exists_makes_of_commit hne
    obtain ⟨hgranted, hop⟩ := hg.staged e.call d hd
    rw [← hop]
    exact ⟨hgranted, hmakes⟩

/-- A step that makes of an item what an operation makes of one is a step of the method of that
operation, and the token of its call grants it. -/
theorem Traffic.Guarded.method_eq (hg : w.Guarded validator calls) (method : Method)
    (hwrites : method.operation ≠ .read)
    (hne : (w.tick e).table.get? k ≠ w.table.get? k)
    (hmakes : method.operation.Makes (w.table.get? k) ((w.tick e).table.get? k)) :
    (calls e.call).method = method ∧
      validator.Grants (calls e.call).metadata method.operation := by
  obtain ⟨hgranted, hmakes'⟩ := hg.makes hne
  have hop : (calls e.call).method.operation = method.operation := by
    generalize w.table.get? k = x at hmakes hmakes'
    generalize (w.tick e).table.get? k = y at hmakes hmakes'
    generalize (calls e.call).method.operation = op at hmakes'
    generalize method.operation = op' at hmakes
    cases hmakes <;> cases hmakes' <;> rfl
  rw [← hop]
  exact ⟨Method.eq_of_operation hop hwrites, hgranted⟩

/-! ## Calls of readers -/

/-- Whether the token of a call is accepted for readers only. -/
def Submission.IsOfReader (validator : Validator) (s : Submission) : Prop :=
  ∀ token user, s.metadata.bearer? = some token → validator.judge token = .accepted user →
    user.IsReader

/-- A call of a reader has nothing staged. -/
theorem Traffic.Guarded.staged_eq_nil (hg : w.Guarded validator calls) {i : ι}
    (hread : (calls i).IsOfReader validator) : w.work.staged i = [] := by
  rw [List.eq_nil_iff_forall_not_mem]
  intro d hd
  obtain ⟨⟨token, user, htoken, hjudge, hallows⟩, hop⟩ := hg.staged i d hd
  have hwrites : (calls i).method.operation ≠ .read := by
    rw [← hop]
    cases d <;> nofun
  rw [(hread token user htoken hjudge).not_allows hwrites] at hallows
  cases hallows

theorem Traffic.Guarded.table_run (hg : w.Guarded validator calls) {ticks : List (Tick ι)}
    (hread : ∀ e ∈ ticks, (calls e.call).IsOfReader validator) : (w.run ticks).table = w.table := by
  induction ticks generalizing w with
  | nil => rfl
  | cons e rest ih =>
    have hrest := ih (hg.tick e) fun e' he' => hread e' (List.mem_cons_of_mem e he')
    rw [Traffic.run_cons, hrest]
    rcases w.table_tick e with htable | htable
    · exact htable
    · rw [htable, hg.staged_eq_nil (hread e List.mem_cons_self)]
      rfl

/-! ## Every run -/

/-- In every run of calls through the standard pipeline over any table: a step that adds an item is
one of `CreateItem`, a step that modifies one is one of `UpdateItem`, a step that removes one is one
of `DeleteItem`, and the token of the call was accepted for a user who may do that. A call that is
not granted its operation asks storage for nothing. If only calls whose tokens are accepted for
readers take steps, the table stays as it was. -/
theorem no_change_without_grant (validator : Validator) (calls : ι → Submission) (t : Table)
    (ticks : List (Tick ι)) :
    let w := (Traffic.start (some validator) t calls).run ticks
    (∀ e k, w.table.get? k = none → (w.tick e).table.get? k ≠ none →
      (calls e.call).method = .createItem ∧
        validator.Grants (calls e.call).metadata .create) ∧
    (∀ e k x y, w.table.get? k = some x → (w.tick e).table.get? k = some y → y ≠ x →
      (calls e.call).method = .updateItem ∧
        validator.Grants (calls e.call).metadata .update) ∧
    (∀ e k, w.table.get? k ≠ none → (w.tick e).table.get? k = none →
      (calls e.call).method = .deleteItem ∧
        validator.Grants (calls e.call).metadata .delete) ∧
    (∀ i, ¬validator.Grants (calls i).metadata (calls i).method.operation →
      ∀ r, (i, r) ∉ w.asked) ∧
    ((∀ e ∈ ticks, ∀ token user, (calls e.call).metadata.bearer? = some token →
      validator.judge token = .accepted user → user.IsReader) → w.table = t) := by
  intro w
  have hstart := Traffic.guarded_start validator t calls
  have hg : w.Guarded validator calls := hstart.run ticks
  refine ⟨?added, ?modified, ?removed, ?silent, hstart.table_run⟩
  case added =>
    intro e k hnone hsome
    have hchanged : (w.tick e).table.get? k ≠ w.table.get? k := by
      rw [hnone]
      exact hsome
    refine hg.method_eq .createItem nofun hchanged ?_
    obtain ⟨y, hy⟩ := Option.ne_none_iff_exists'.1 hsome
    rw [hnone, hy]
    exact .create y
  case modified =>
    intro e k x y hx hy hne
    have hchanged : (w.tick e).table.get? k ≠ w.table.get? k := by
      rw [hx, hy]
      exact fun heq => hne (Option.some.inj heq)
    refine hg.method_eq .updateItem nofun hchanged ?_
    rw [hx, hy]
    exact .update x y
  case removed =>
    intro e k hsome hnone
    have hchanged : (w.tick e).table.get? k ≠ w.table.get? k := by
      rw [hnone]
      exact hsome.symm
    refine hg.method_eq .deleteItem nofun hchanged ?_
    obtain ⟨x, hx⟩ := Option.ne_none_iff_exists'.1 hsome
    rw [hnone, hx]
    exact .delete x
  case silent =>
    intro i hdenied r hr
    exact hdenied (hg.asked i r hr)

/-- Accepts two tokens: one of a user who may write, and one of a user who may only read. -/
def doorman : Validator where
  judge token :=
    if token = "w" then .accepted { id := "w", roles := .ofList ["write"] }
    else if token = "r" then .accepted { id := "r", roles := .ofList ["read"] }
    else .rejected

/-- A deletion without a token, one by a reader, and a creation by a writer. -/
def visitors (i : Nat) : Submission :=
  let key : ItemKey := { id := (Identifier.ofRandom 1).text }
  match i with
  | 0 => ⟨.deleteItem, .empty, key⟩
  | 1 => ⟨.deleteItem, ⟨[("authorization", Text.bytes "r")]⟩, key⟩
  | _ =>
    ⟨.createItem, ⟨[("authorization", Text.bytes "Bearer w")]⟩, ({ name := "b" } : ItemMessage)⟩

/-- The visitors in front of a table that holds one item. -/
def visit : Traffic Nat :=
  .start (some doorman)
    (Table.empty.insert (.ofRandom 1) (.created (.ofRandom 1) "a" (.ofMicros 0))) visitors

/-- The steps of the two who may not delete anything. -/
def idleTicks : List (Tick Nat) :=
  List.replicate 30 ⟨0, .ofMicros 1, 2, 0⟩ ++ List.replicate 30 ⟨1, .ofMicros 1, 2, 0⟩

/-- A step of the one who may create an item. -/
def writingTick : Tick Nat := ⟨2, .ofMicros 1, 2, 0⟩

/-- The two who may not delete the item leave the table as it is; the third, whose next step is the
commit, has the grant for it. -/
theorem visitors_need_grants :
    (visit.run idleTicks).table = visit.table ∧
      ((visit.run (List.replicate 9 writingTick)).tick writingTick).table.get? (.ofRandom 2) ≠
        none ∧
      doorman.Grants (visitors 2).metadata .create := by
  have hadded : ((visit.run (List.replicate 9 writingTick)).tick writingTick).table.get?
      (.ofRandom 2) ≠ none := by
    decide +kernel
  have hanonymous : (visitors 0).metadata.bearer? = none := by decide +kernel
  have hreader : (visitors 1).metadata.bearer? = some "r" := by decide +kernel
  refine ⟨(no_change_without_grant doorman visitors _ idleTicks).2.2.2.2 ?_, hadded, ?_⟩
  · intro e he token user htoken hjudge
    rcases List.mem_append.1 he with he | he
    · rw [List.eq_of_mem_replicate he, hanonymous] at htoken
      cases htoken
    · rw [List.eq_of_mem_replicate he, hreader] at htoken
      cases htoken
      cases hjudge
      exact ⟨by decide, by decide, by decide, by decide, by decide⟩
  · exact ((no_change_without_grant doorman visitors _ _).1 _ _ (by decide +kernel) hadded).2

end Service
end ItemCatalog
