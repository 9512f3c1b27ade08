import ItemCatalog.Proofs.Message.Check
import ItemCatalog.Proofs.Page
import ItemCatalog.Proofs.Service.Replay
import ItemCatalog.Sql.Statement

/-!
# The catalogue that callers see

What the service keeps, as callers see it: entries by identifier, without versions and without
changes that wait for a commit. Each method is one function of the catalogue. Main statement:
`replay_refines`, by which calls served one after another over an empty table answer just as the
catalogue does.

## Main definitions

* `Entry`, `Catalogue`: what is kept under an identifier, and all of it.
* `Catalogue.serve`: what a call answers and what becomes of the catalogue.
* `catalogue`: the catalogue of a table.
-/

namespace ItemCatalog

/-! ## Maps with other values -/

namespace Assoc
variable {κ ν ν' : Type}

theorem eq_of_entries {m m' : Assoc κ ν} (h : m.entries = m'.entries) : m = m' := by
  cases m
  cases m'
  cases h
  rfl

/-- The map that holds what `f` makes of each value. -/
def map (f : ν → ν') (m : Assoc κ ν) : Assoc κ ν' where
  entries := m.entries.map fun e => (e.1, f e.2)
  nodup := by
    rw [List.map_map]
    exact m.nodup

@[simp] theorem size_map (f : ν → ν') (m : Assoc κ ν) : (m.map f).size = m.size := by
  simp [size, map]

variable [DecidableEq κ]

@[simp] theorem get?_map (f : ν → ν') (m : Assoc κ ν) (k : κ) :
    (m.map f).get? k = (m.get? k).map f := by
  obtain ⟨entries, nodup⟩ := m
  change find? k (entries.map fun e => (e.1, f e.2)) = (find? k entries).map f
  clear nodup
  induction entries with
  | nil => rfl
  | cons e rest ih =>
    obtain ⟨j, v⟩ := e
    rw [List.map_cons, find?, find?, ih]
    by_cases h : k = j
    · rw [if_pos h, if_pos h]
      rfl
    · rw [if_neg h, if_neg h]

/-- A change of a value commutes with what is made of the values. -/
theorem map_alter {f : ν → ν'} {g : Option ν → ν} {g' : Option ν' → ν'}
    (h : ∀ v, f (g v) = g' (v.map f)) (m : Assoc κ ν) (k : κ) :
    (m.alter k g).map f = (m.map f).alter k g' := by
  apply eq_of_entries
  obtain ⟨entries, nodup⟩ := m
  change (alterEntries k g entries).map (fun e => (e.1, f e.2)) =
    alterEntries k g' (entries.map fun e => (e.1, f e.2))
  clear nodup
  induction entries with
  | nil => exact congrArg (fun v => [(k, v)]) (h none)
  | cons e rest ih =>
    obtain ⟨j, u⟩ := e
    rw [List.map_cons, alterEntries, alterEntries]
    by_cases hkey : k = j
    · rw [if_pos hkey, if_pos hkey]
      exact congrArg (fun v => (j, v) :: rest.map fun e => (e.1, f e.2)) (h (some u))
    · rw [if_neg hkey, if_neg hkey, List.map_cons, ih]

theorem map_insert (f : ν → ν') (m : Assoc κ ν) (k : κ) (v : ν) :
    (m.insert k v).map f = (m.map f).insert k (f v) := by
  refine map_alter ?_ m k
  intro _
  rfl

theorem map_erase (f : ν → ν') (m : Assoc κ ν) (k : κ) :
    (m.erase k).map f = (m.map f).erase k := by
  apply eq_of_entries
  change (m.entries.filter _).map _ = (m.entries.map _).filter _
  rw [List.filter_map]
  rfl

end Assoc

namespace Service
open Storage (Change Table)

/-! ## Entries -/

/-- What callers see of an item, beside its identifier. -/
structure Entry where
  name : String
  createdAt : Instant
  updatedAt : Option Instant
deriving DecidableEq

/-- What callers see of a stored item. -/
def Entry.ofItem (item : Item) : Entry := ⟨item.name, item.createdAt, item.updatedAt⟩

/-- An entry inside a message. -/
def Entry.message (id : Identifier) (e : Entry) : ItemMessage where
  id := id.text
  name := e.name
  createdAt := some (.ofInstant e.createdAt)
  updatedAt := e.updatedAt.map .ofInstant

/-- An entry with a name given at a time, which counts as its creation if that was later. -/
def Entry.renamed (e : Entry) (name : String) (now : Instant) : Entry :=
  { e with name := name, updatedAt := some (now.latest e.createdAt) }

/-! ## The catalogue -/

/-- Entries by identifier. -/
abbrev Catalogue := Assoc Identifier Entry

namespace Catalogue

/-- All entries by the time of their creation, then by identifier. -/
def listed (m : Catalogue) : List (Identifier × Entry) :=
  m.entries.mergeSort fun a b =>
    if a.2.createdAt = b.2.createdAt then a.1.le b.1 else a.2.createdAt.le b.2.createdAt

/-- Inserts an entry with the trimmed name under a fresh identifier. -/
def create (m : Catalogue) (now : Instant) (fresh : Identifier) (request : ItemMessage) :
    Except Failure ItemReply × Catalogue :=
  match request.checkCreate with
  | .error failure => (.error failure, m)
  | .ok () =>
    let e : Entry := ⟨Text.trim request.name, now, none⟩
    (.ok ⟨some (e.message fresh)⟩, m.insert fresh e)

/-- The requested page of all entries, which are shown in pages of the requested size, or of a
hundred if that is less, and their number. -/
def getPage (m : Catalogue) (query : PageQuery) : Except Failure PageReply :=
  match query.check with
  | .error failure => .error failure
  | .ok () =>
    let size := min query.pageSize.toInt.toNat 100
    let before := (query.startPage.toInt.toNat - 1) * size
    let shown := ((m.listed.drop before).take size).map fun e => e.2.message e.1
    .ok ⟨shown, Int64.ofNat (min m.size PageReply.maxTotal),
      Int32.ofNat (min (pageCount m.size size) PageReply.maxPages)⟩

/-- The entry under an identifier. -/
def getOne (m : Catalogue) (key : ItemKey) : Except Failure ItemReply :=
  match Identifier.require key.id Field.id with
  | .error failure => .error failure
  | .ok id =>
    match m.get? id with
    | none => .error (.missing Item.entityType id.text)
    | some e => .ok ⟨some (e.message id)⟩

/-- Gives an entry the trimmed name, if it has another. -/
def update (m : Catalogue) (now : Instant) (request : ItemMessage) :
    Except Failure ItemReply × Catalogue :=
  match updateTarget request with
  | .error failure => (.error failure, m)
  | .ok id =>
    match m.get? id with
    | none => (.error (.missing Item.entityType id.text), m)
    | some e =>
      if e.name = Text.trim request.name then (.ok ⟨some (e.message id)⟩, m)
      else
        let e' := e.renamed (Text.trim request.name) now
        (.ok ⟨some (e'.message id)⟩, m.insert id e')

/-- Removes an entry. -/
def delete (m : Catalogue) (key : ItemKey) : Except Failure DeleteReply × Catalogue :=
  match Identifier.require key.id Field.id with
  | .error failure => (.error failure, m)
  | .ok id =>
    match m.get? id with
    | none => (.error (.missing Item.entityType id.text), m)
    | some _ => (.ok ⟨true⟩, m.erase id)

/-- What a method answers, and what becomes of the catalogue. -/
def answer (m : Catalogue) (now : Instant) (fresh : Identifier) :
    (method : Method) → method.Query → Except Failure method.Answer × Catalogue
  | .createItem, request => m.create now fresh request
  | .getItems, query => (m.getPage query, m)
  | .getItem, key => (m.getOne key, m)
  | .updateItem, request => m.update now request
  | .deleteItem, key => m.delete key

/-- What a call answers, and what becomes of the catalogue. -/
def serve (m : Catalogue) (turn : Turn) : Reply × Catalogue :=
  let served := m.answer turn.now turn.fresh turn.invocation.method turn.invocation.query
  (⟨turn.invocation.method, served.1⟩, served.2)

/-- What calls answer one after another, and what becomes of the catalogue. -/
def replay : List Turn → Catalogue → List Reply × Catalogue
  | [], m => ([], m)
  | turn :: rest, m =>
    ((m.serve turn).1 :: (replay rest (m.serve turn).2).1, (replay rest (m.serve turn).2).2)

end Catalogue

/-! ## The catalogue of a table -/

/-- What callers see of a table. -/
def catalogue (t : Table) : Catalogue := t.map Entry.ofItem

section Table
variable {t : Table} {now : Instant} {id : Identifier}

@[simp] theorem get?_catalogue : (catalogue t).get? id = (t.get? id).map Entry.ofItem :=
  Assoc.get?_map Entry.ofItem t id

theorem listed_catalogue (hk : t.IsKeyed) :
    (catalogue t).listed = t.listed.map fun y => (y.id, Entry.ofItem y) := by
  have hentries : (catalogue t).entries = t.values.map fun y => (y.id, Entry.ofItem y) := by
    change t.entries.map _ = (t.entries.map _).map _
    rw [List.map_map]
    apply List.map_congr_left
    intro e he
    have hget : t.get? e.1 = some e.2 := (Assoc.get?_eq_some_iff t).2 he
    rw [Function.comp_apply, hk e.1 e.2 hget]
  rw [Catalogue.listed, hentries, Table.listed]
  symm
  apply List.map_mergeSort
  intro a _ b _
  rfl

/-! ## Failed checks -/

/-- Whether a failure is about what a request says. -/
def IsInvalid (failure : Failure) : Prop := ∃ message errors, failure = .invalid message errors

theorem isInvalid_of_result {errors : FieldErrors} {failure : Failure}
    (h : errors.result = .error failure) : IsInvalid failure := by
  rw [FieldErrors.result] at h
  split at h
  · cases h
  · cases h
    exact ⟨_, _, rfl⟩

theorem isInvalid_of_require {text field : String} {failure : Failure}
    (h : Identifier.require text field = .error failure) : IsInvalid failure := by
  simp only [Identifier.require] at h
  split at h
  · cases h
    exact ⟨_, _, rfl⟩
  · split at h
    · cases h
      exact ⟨_, _, rfl⟩
    · split at h
      · cases h
        exact ⟨_, _, rfl⟩
      · cases h

theorem isInvalid_of_updateTarget {request : ItemMessage} {failure : Failure}
    (h : updateTarget request = .error failure) : IsInvalid failure := by
  rw [updateTarget] at h
  split at h
  · next hcheck =>
    cases h
    exact isInvalid_of_result hcheck
  · exact isInvalid_of_require h

/-! ## One call -/

/-- An answer over a table is the catalogue's: the same answer, leaving the same entries; a failure
is not of storage and leaves the table; and nothing is touched but what is stored under `target`. -/
structure Agrees {α : Type} (target : Option Identifier) (t : Table) (a : Except Failure α × Table)
    (b : Except Failure α × Catalogue) : Prop where
  answer : a.1 = b.1
  entries : catalogue a.2 = b.2
  failed : ∀ failure, a.1 = .error failure → a.2 = t
  frame : ∀ k, target ≠ some k → a.2.get? k = t.get? k
  known : ∀ operation message source, a.1 ≠ .error (.storage operation message source)

section Agrees
variable {α : Type} {target : Option Identifier}

/-- A call that is turned away for what its request says. -/
theorem agrees_invalid {failure : Failure} (h : IsInvalid failure) :
    Agrees target t (.error failure, t) ((.error failure : Except Failure α), catalogue t) where
  answer := rfl
  entries := rfl
  failed _ _ := rfl
  frame _ _ := rfl
  known := by
    intro operation message source heq
    obtain ⟨m, e, rfl⟩ := h
    cases heq

/-- A call about an item that is not there. -/
theorem agrees_missing {entityType id : String} :
    Agrees target t (.error (.missing entityType id), t)
      ((.error (.missing entityType id) : Except Failure α), catalogue t) where
  answer := rfl
  entries := rfl
  failed _ _ := rfl
  frame _ _ := rfl
  known := nofun

/-- A call that answers and leaves the table. -/
theorem agrees_answer {a b : α} (h : a = b) :
    Agrees target t (.ok a, t) (.ok b, catalogue t) where
  answer := congrArg _ h
  entries := rfl
  failed := nofun
  frame _ _ := rfl
  known := nofun

/-- A call that answers and stores an item. -/
theorem agrees_insert {a b : α} {y : Item} {m : Catalogue} (hid : target = some id) (h : a = b)
    (hm : (catalogue t).insert id (.ofItem y) = m) :
    Agrees target t (.ok a, t.insert id y) (.ok b, m) where
  answer := congrArg _ h
  entries := (Assoc.map_insert Entry.ofItem t id y).trans hm
  failed := nofun
  frame := by
    intro k hk
    rw [Assoc.get?_insert, if_neg]
    rintro rfl
    exact hk hid
  known := nofun

/-- A call that answers and erases an item. -/
theorem agrees_erase {a b : α} (hid : target = some id) (h : a = b) :
    Agrees target t (.ok a, t.erase id) (.ok b, (catalogue t).erase id) where
  answer := congrArg _ h
  entries := Assoc.map_erase Entry.ofItem t id
  failed := nofun
  frame := by
    intro k hk
    rw [Assoc.get?_erase, if_neg]
    rintro rfl
    exact hk hid
  known := nofun

end Agrees

/-! ### Methods -/

theorem writtenItem_singleton {y : Item} (h : y.id = id) : writtenItem id [y] = some y := by
  rw [writtenItem, List.find?_cons_of_pos (by simpa using h)]

theorem agrees_create {fresh : Identifier} (request : ItemMessage)
    (hfree : (createCourse request).creates = true → t.get? fresh = none) :
    Agrees (some fresh) t ((createCourse request).result t now fresh)
      ((catalogue t).create now fresh request) := by
  rw [createCourse] at hfree ⊢
  rw [Catalogue.create]
  cases h : request.checkCreate with
  | error failure => exact agrees_invalid (isInvalid_of_result h)
  | ok _ =>
    rw [h] at hfree
    have hwritten := writtenItem_singleton
      (show (Item.created fresh (Text.trim request.name) now).id = fresh from rfl)
    rw [Course.result, Table.commit_insert (hfree rfl)]
    simp only [createdReply, hwritten]
    exact agrees_insert rfl rfl rfl

theorem agrees_getPage (hk : t.IsKeyed) {fresh : Identifier} (query : PageQuery) :
    Agrees none t ((pageCourse query).result t now fresh)
      ((catalogue t).getPage query, catalogue t) := by
  rw [pageCourse, Catalogue.getPage]
  cases h : query.check with
  | error failure => exact agrees_invalid (isInvalid_of_result h)
  | ok _ =>
    refine agrees_answer ?_
    obtain ⟨hstart, hsize, _⟩ := PageQuery.check_eq_ok_iff.1 h
    have hnumber := @Window.startPage_clamp query.startPage query.pageSize hstart
    have hshown := @Window.pageSize_clamp query.startPage query.pageSize hsize
    have hwindow : query.window.startPage.toNat = query.startPage.toInt.toNat ∧
        query.window.pageSize.toNat = min query.pageSize.toInt.toNat 100 := by
      rw [PageQuery.window]
      omega
    rw [PageReply.ofPage, listed_catalogue hk, catalogue, Assoc.size_map]
    simp only [Window.slice, Window.toNat_offset, hwindow, Table.page, ← List.map_drop,
      ← List.map_take, List.map_map]
    rfl

theorem agrees_getOne (hk : t.IsKeyed) {fresh : Identifier} (key : ItemKey) :
    Agrees none t ((readCourse key).result t now fresh)
      ((catalogue t).getOne key, catalogue t) := by
  rw [readCourse, Catalogue.getOne]
  cases h : Identifier.require key.id Field.id with
  | error failure => exact agrees_invalid (isInvalid_of_require h)
  | ok id =>
    simp only [Course.result, get?_catalogue]
    cases hg : t.get? id with
    | none => exact agrees_missing
    | some item =>
      refine agrees_answer ?_
      rw [← hk id item hg]
      rfl

/-- The identifier in a request, if it passes the checks. -/
def passed (checked : Except Failure Identifier) : Option Identifier :=
  match checked with
  | .ok id => some id
  | .error _ => none

theorem agrees_update (hk : t.IsKeyed) {fresh : Identifier} (request : ItemMessage) :
    Agrees (passed (updateTarget request)) t ((updateCourse request).result t now fresh)
      ((catalogue t).update now request) := by
  rw [updateCourse, Catalogue.update]
  cases h : updateTarget request with
  | error failure => exact agrees_invalid (isInvalid_of_updateTarget h)
  | ok id =>
    simp only [Course.result, get?_catalogue]
    cases hg : t.get? id with
    | none => exact agrees_missing
    | some item =>
      have hid : item.id = id := hk id item hg
      simp only [Option.map_some, renameErrand]
      change Agrees _ t _ (if item.name = _ then _ else _)
      by_cases hname : item.name = Text.trim request.name
      · rw [if_pos hname, if_pos hname]
        refine agrees_answer ?_
        rw [← hid]
        rfl
      · subst hid
        have hcommit : t.commit now [.update { item with name := Text.trim request.name }] = _ :=
          Table.commit_update (y := item) hg rfl
        have hwritten := writtenItem_singleton (show (Item.updated
          { item with name := Text.trim request.name } now).id = item.id from rfl)
        rw [if_neg hname, if_neg hname, Errand.result, Edit.change, hcommit]
        simp only [updatedReply, hwritten]
        exact agrees_insert rfl rfl rfl

theorem agrees_delete (hk : t.IsKeyed) {fresh : Identifier} (key : ItemKey) :
    Agrees (passed (Identifier.require key.id Field.id)) t
      ((deleteCourse key).result t now fresh) ((catalogue t).delete key) := by
  rw [deleteCourse, Catalogue.delete]
  cases h : Identifier.require key.id Field.id with
  | error failure => exact agrees_invalid (isInvalid_of_require h)
  | ok id =>
    simp only [Course.result, get?_catalogue]
    cases hg : t.get? id with
    | none => exact agrees_missing
    | some item =>
      have hid : item.id = id := hk id item hg
      subst hid
      simp only [Option.map_some, Errand.result, Edit.change, Table.commit_delete hg]
      exact agrees_erase rfl rfl

/-- The identifier under which a method may write. -/
def target (fresh : Identifier) : (method : Method) → method.Query → Option Identifier
  | .createItem, _ => some fresh
  | .getItems, _ => none
  | .getItem, _ => none
  | .updateItem, request => passed (updateTarget request)
  | .deleteItem, key => passed (Identifier.require key.id Field.id)

theorem agrees_method (hk : t.IsKeyed) (now : Instant) {fresh : Identifier} (method : Method)
    (query : method.Query)
    (hfree : (methodCourse method query).creates = true → t.get? fresh = none) :
    Agrees (target fresh method query) t ((methodCourse method query).result t now fresh)
      ((catalogue t).answer now fresh method query) := by
  cases method with
  | createItem => exact agrees_create query hfree
  | getItems => exact agrees_getPage hk query
  | getItem => exact agrees_getOne hk query
  | updateItem => exact agrees_update hk query
  | deleteItem => exact agrees_delete hk query

/-! ## Calls one after another -/

/-- A call over a table agrees with the same call over its catalogue. -/
structure Turn.Refines (turn : Turn) (t : Table) : Prop where
  reply : (turn.serve t).1 = ((catalogue t).serve turn).1
  entries : catalogue (turn.after t) = ((catalogue t).serve turn).2
  failed : ∀ failure, (turn.serve t).1.outcome = .error failure → turn.after t = t
  frame : ∀ k, target turn.fresh turn.invocation.method turn.invocation.query ≠ some k →
    (turn.after t).get? k = t.get? k
  known : ∀ operation message source,
    (turn.serve t).1.outcome ≠ .error (.storage operation message source)

theorem Turn.refines {turn : Turn} (hk : t.IsKeyed)
    (hfree : turn.invocation.course.creates = true → t.get? turn.fresh = none) :
    turn.Refines t := by
  rw [Invocation.course, Course.creates_map] at hfree
  have h := agrees_method hk turn.now turn.invocation.method turn.invocation.query hfree
  obtain ⟨hserve, hafter, _⟩ := turn.serve_eq t
  have hresult : turn.result t = (⟨turn.invocation.method, _⟩, _) :=
    Course.result_map _ _ t turn.now turn.fresh
  rw [hresult] at hserve hafter
  constructor
  · rw [hserve, h.answer]
    rfl
  · rw [hafter, h.entries]
    rfl
  · rw [hserve, hafter]
    exact h.failed
  · rw [hafter]
    exact h.frame
  · rw [hserve]
    exact h.known

end Table

theorem Turn.drawn_eq (turn : Turn) (t : Table) :
    turn.drawn t = if turn.invocation.course.creates then [turn.fresh] else [] := by
  rw [Turn.drawn, (turn.serve_eq t).2.2]

/-- An identifier that is free stays free when a call is served, unless the call draws it. -/
theorem Turn.get?_after_of_none {turn : Turn} {t : Table} {k : Identifier} (h : t.get? k = none)
    (hk : k ∉ turn.drawn t) : (turn.after t).get? k = none := by
  rw [(turn.serve_eq t).2.1]
  apply Course.get?_result_of_none _ h
  rintro hcreates rfl
  rw [Turn.drawn_eq, if_pos hcreates] at hk
  exact hk List.mem_cons_self

theorem Turn.isKeyed_after {turn : Turn} {t : Table} (h : t.IsKeyed) :
    (turn.after t).IsKeyed := by
  rw [(turn.serve_eq t).2.1]
  exact Course.isKeyed_result _ h

/-- The calls of a run each agree with the catalogue, if no identifier is drawn that is stored or
was drawn before. -/
theorem refines_of_split {turns : List Turn} {t : Table} (hk : t.IsKeyed)
    (hfree : ∀ k ∈ generated turns t, t.get? k = none) (hnodup : (generated turns t).Nodup)
    {pre : List Turn} {turn : Turn} {post : List Turn} (h : turns = pre ++ turn :: post) :
    turn.Refines (replay pre t).2 := by
  induction pre generalizing turns t with
  | nil =>
    subst h
    refine Turn.refines hk ?_
    intro hcreates
    apply hfree
    rw [List.nil_append, generated, Turn.drawn_eq, if_pos hcreates]
    exact List.mem_cons_self
  | cons first pre ih =>
    subst h
    rw [List.cons_append, generated] at hfree hnodup
    obtain ⟨_, hnodup', hdisjoint⟩ := List.nodup_append.1 hnodup
    refine ih (Turn.isKeyed_after hk) ?_ hnodup' rfl
    intro k hmem
    refine Turn.get?_after_of_none (hfree k (List.mem_append_right _ hmem)) ?_
    intro hdrawn
    exact hdisjoint k hdrawn k hmem rfl

/-- Calls that each agree with the catalogue agree with it one after another. -/
theorem replay_catalogue {turns : List Turn} {t : Table}
    (h : ∀ pre turn post, turns = pre ++ turn :: post → turn.Refines (replay pre t).2) :
    (replay turns t).1 = (Catalogue.replay turns (catalogue t)).1 ∧
      catalogue (replay turns t).2 = (Catalogue.replay turns (catalogue t)).2 := by
  induction turns generalizing t with
  | nil => exact ⟨rfl, rfl⟩
  | cons turn rest ih =>
    have hturn : turn.Refines t := h [] turn rest rfl
    have hrest := ih fun pre turn' post hsplit =>
      h (turn :: pre) turn' post (by rw [hsplit, List.cons_append])
    rw [hturn.entries] at hrest
    rw [replay, Catalogue.replay, ← hturn.reply]
    exact ⟨congrArg _ hrest.1, hrest.2⟩

/-- Calls that are served one after another over an empty table, and that never draw an identifier
twice, answer just as the catalogue does and leave what it keeps. Each of them, if it fails, leaves
the table as it was; it touches nothing but what it addresses; and it never fails by storage. -/
theorem replay_refines (turns : List Turn) (h : (generated turns .empty).Nodup) :
    (replay turns .empty).1 = (Catalogue.replay turns .empty).1 ∧
    catalogue (replay turns .empty).2 = (Catalogue.replay turns .empty).2 ∧
    ∀ pre turn post, turns = pre ++ turn :: post →
      (∀ failure, (turn.serve (replay pre .empty).2).1.outcome = .error failure →
        turn.after (replay pre .empty).2 = (replay pre .empty).2) ∧
      (∀ k, target turn.fresh turn.invocation.method turn.invocation.query ≠ some k →
        (turn.after (replay pre .empty).2).get? k = (replay pre .empty).2.get? k) ∧
      ∀ operation message source,
        (turn.serve (replay pre .empty).2).1.outcome ≠
          .error (.storage operation message source) := by
  have hrefines : ∀ pre turn post, turns = pre ++ turn :: post →
      turn.Refines (replay pre .empty).2 := by
    intro pre turn post hsplit
    exact refines_of_split Table.isKeyed_empty (fun k _ => rfl) h hsplit
  obtain ⟨hreplies, hentries⟩ := replay_catalogue hrefines
  refine ⟨hreplies, hentries, ?_⟩
  intro pre turn post hsplit
  have hturn := hrefines pre turn post hsplit
  exact ⟨hturn.failed, hturn.frame, hturn.known⟩

/-- An item is created, renamed, listed and deleted, while the clock goes back and forth. -/
def lifetime : List Turn :=
  let call : Call := .start "" .empty .nil
  let id := (Identifier.ofRandom 1).text
  [⟨⟨.createItem, call, ({ name := "a" } : ItemMessage)⟩, .ofMicros 10, 1⟩,
    ⟨⟨.updateItem, call, ({ id := id, name := " b " } : ItemMessage)⟩, .ofMicros 5, 1⟩,
    ⟨⟨.getItems, call, (⟨1, 10⟩ : PageQuery)⟩, .ofMicros 7, 1⟩,
    ⟨⟨.deleteItem, call, (⟨id⟩ : ItemKey)⟩, .ofMicros 6, 1⟩]

/-- All four calls succeed, and answer as the catalogue does. -/
theorem lifetime_refines :
    ((replay lifetime .empty).1.all fun reply => reply.outcome.isOk) = true ∧
      (replay lifetime .empty).1 = (Catalogue.replay lifetime .empty).1 :=
  ⟨by decide +kernel, (replay_refines lifetime (by decide +kernel)).1⟩

end Service
end ItemCatalog
