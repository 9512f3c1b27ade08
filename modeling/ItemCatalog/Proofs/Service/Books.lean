import ItemCatalog.Proofs.Service.Grants
import ItemCatalog.Proofs.Stage.Load

/-!
# What is known of each call

Books are kept of every call of the service over a table: what it has recorded, what it has staged,
whether it has asked for a commit, and which changes it has committed. Main statement: when a call
has come to its result, the books show that it counted as one of the status that its caller
receives, and that it was answered just if it changed something, unless it had nothing to change
(`keepsTo_submission`).

## Main definitions

* `Submission.passage`: a call of the service, as one that is metered side by side with others.
* `Books`, `Books.protocol`: what is known of a call, and what it may ask then.
* `Books.Settled`: how what a call has committed goes with what it answers.
-/

namespace ItemCatalog
open Serving

namespace Service
open Storage (Change Request Table)
open Metrics (Tally)

/-! ## Courses -/

section Timing
variable {σ R : Type} {P : Protocol σ} {Post : σ → R → Prop} {s : σ}

theorem Errand.keepsTo_timed (ht : P.Times) (op : Operation) {item : Item} {errand : Errand R}
    (h : KeepsTo P Post s (errand.plan item)) : KeepsTo P Post s (errand.timed op item) := by
  cases errand with
  | answer a => exact h
  | edit kind reply =>
    refine .ask h.asks fun _ hx => ?_
    have h := h.resume hx
    exact keepsTo_timed_bind ht h.asks fun x hx => h.resume hx

/-- A course keeps to a protocol when it is timed, if it does so otherwise. -/
theorem Course.keepsTo_timed (ht : P.Times) (op : Operation) {c : Course R}
    (h : KeepsTo P Post s c.plan) : KeepsTo P Post s (c.timed op) := by
  cases c with
  | refused a => exact h
  | creation name reply =>
    refine .ask h.asks fun _ hx => ?_
    have h := h.resume hx
    refine .ask h.asks fun id hid => ?_
    have h := h.resume hid
    exact keepsTo_timed_bind ht h.asks fun x hx => h.resume hx
  | listing window reply =>
    refine .ask h.asks fun _ hx => ?_
    have h := h.resume hx
    exact keepsTo_timed_bind ht h.asks fun x hx => h.resume hx
  | lookup id broken missing errand =>
    refine .ask h.asks fun _ hx => ?_
    have h := h.resume hx
    refine keepsTo_timed_bind ht h.asks fun found hfound => ?_
    have h := h.resume hfound
    match found with
    | .error e => exact h
    | .ok none => exact h
    | .ok (some item) => exact Errand.keepsTo_timed ht op h

end Timing

/-- A method keeps to a protocol if its course does. -/
theorem keepsTo_handle {σ : Type} {P : Protocol σ} {s : σ} (ht : P.Times) {method : Method}
    {query : method.Query} {Post : σ → Except Failure method.Answer → Prop}
    (h : KeepsTo P Post s (methodCourse method query).plan) (call : Call) :
    KeepsTo P Post s (method.handle call query) :=
  (Course.keepsTo_timed ht method.operation h).annotated ht (annotates_handle method call query)

/-! ## Passages -/

theorem times_timing : Protocol.timing.Times where
  elapsed _ := nofun
  database _ op d := ⟨fun event h => by cases h; exact ⟨op, d, rfl⟩, rfl⟩
  remark _ e he := by
    rintro event rfl
    cases he

/-- A course that is not timed records nothing. -/
theorem Course.keepsTo_timing {R : Type} (c : Course R) :
    KeepsTo .timing (fun _ _ => True) () c.plan := by
  cases c with
  | refused a => exact .done trivial
  | creation name reply =>
    exact .ask nofun fun _ _ => .ask nofun fun _ _ => .ask nofun fun _ _ => .done trivial
  | listing window reply => exact .ask nofun fun _ _ => .ask nofun fun _ _ => .done trivial
  | lookup id broken missing errand =>
    refine .ask nofun fun _ _ => .ask nofun fun found _ => ?_
    match found with
    | .error e => exact .done trivial
    | .ok none => exact .done trivial
    | .ok (some item) =>
      change KeepsTo _ _ _ ((errand item).plan item)
      cases errand item with
      | answer a => exact .done trivial
      | edit kind reply => exact .ask nofun fun _ _ => .ask nofun fun _ _ => .done trivial

/-- A call of the service may be metered side by side with any others. -/
def Submission.passage (s : Submission) (id : Identifier) : Passage where
  Answer := s.method.Answer
  path := s.method.path
  metadata := s.metadata
  correlationId := id
  handler := handler s.method s.query
  timed seen := by
    have hmethod := keepsTo_handle times_timing (methodCourse s.method s.query).keepsTo_timing seen
    exact KeepsTo.bind (hmethod.mono fun _ _ _ => .done trivial)

/-! ## Books -/

/-- What is known of a call: what it has recorded and staged, which changes it has committed, and
whether it has asked for a commit at all. -/
structure Books where
  tally : Tally := {}
  staged : List Change := []
  performed : List Change := []
  asked : Bool := false

namespace Books

/-- The books of a call once one of its requests has been answered. -/
def serve (b : Books) : (r : Request) → r.Answer → Books
  | .start, _ => { b with staged := [] }
  | .save name, id => { b with staged := b.staged ++ [.insert id name] }
  | .update item, _ => { b with staged := b.staged ++ [.update item] }
  | .delete item, _ => { b with staged := b.staged ++ [.delete item] }
  | .commit, .ok _ => { b with staged := [], performed := b.performed ++ b.staged, asked := true }
  | .commit, .error _ => { b with staged := [], asked := true }
  | .find _, _ => b
  | .page _, _ => b
  | .count, _ => b

/-- Whether a table may answer a request of a call in a certain way. An item is found under its own
identifier if the table is keyed, and a commit tells what it has written. -/
def Answers (keyed : Prop) (b : Books) : (r : Request) → r.Answer → Prop
  | .find id, .ok (some item) => keyed → item.id = id
  | .commit, .ok written => ∃ now, written = b.staged.filterMap (Table.written? now)
  | _, _ => True

/-- A call asks for a commit when it has staged one change. -/
def protocol (keyed : Prop) : Protocol Books where
  asks b e := e = .storage .commit → ∃ d, b.staged = [d]
  answers := Answers keyed
  serve := serve
  record b event := { b with tally := b.tally.record event }

/-- How the changes that a call has committed go with whether it is answered: they are of its
operation, and there is one just if the call is answered and has asked for a commit, as every
creation and deletion that is answered has done. -/
structure Settled (keyed : Prop) (op : Operation) (answered : Bool) (b : Books) : Prop where
  operation : ∀ d ∈ b.performed, d.operation = op
  length : (op = .update → keyed) →
    b.performed.length = if answered && b.asked then 1 else 0
  asked : op = .create ∨ op = .delete → answered = true → b.asked = true

variable {keyed : Prop}

/-- Nothing but the tally of a call depends on what it records. -/
theorem close_protocol (b : Books) (events : List Metrics.Event) :
    (protocol keyed).close b events = { b with tally := Tally.protocol.close b.tally events } := by
  have hfoldl : ∀ b : Books, events.foldl (protocol keyed).record b =
      { b with tally := events.foldl Tally.record b.tally } := by
    induction events with
    | nil => exact fun _ => rfl
    | cons e rest ih => exact fun b => ih { b with tally := b.tally.record e }
  rw [Protocol.close, hfoldl]
  rfl

theorem inside_protocol : (protocol keyed).Inside fun b => b.tally.Within where
  asks _ hstorage := fun he => absurd he (hstorage .commit)
  record hb hflight := Tally.inside_protocol.record hb hflight

theorem times_protocol : (protocol keyed).Times where
  elapsed _ := nofun
  database b op d := by
    refine ⟨nofun, ?_⟩
    change { b with tally := { b.tally with counted := b.tally.counted ++ [] } } = b
    rw [List.append_nil]
  remark s e he := by
    rintro rfl
    cases he

/-- A call that is turned down before it asks for a commit has changed nothing. -/
theorem settled_refused (op : Operation) (t : Tally) :
    Settled keyed op false { tally := t } :=
  ⟨nofun, fun _ => rfl, nofun⟩

/-- Nothing is changed by a call that is answered without a commit, if it is no creation and no
deletion. -/
theorem settled_answered {op : Operation} (hop : op = .read ∨ op = .update) (t : Tally) :
    Settled keyed op true { tally := t } := by
  refine ⟨nofun, fun _ => rfl, ?_⟩
  rintro (rfl | rfl) <;> simp at hop

/-- A commit that fails changes nothing, and so does a call that is not answered for that reason. -/
theorem settled_failed (op : Operation) (t : Tally) :
    Settled keyed op false { tally := t, asked := true } :=
  ⟨nofun, fun _ => rfl, nofun⟩

/-- A call that has committed a change of its operation is answered, except perhaps an update over a
table that is not keyed. -/
theorem settled_committed {op : Operation} {answered : Bool} {d : Change} (hd : d.operation = op)
    (h : (op = .update → keyed) → answered = true) (t : Tally) :
    Settled keyed op answered { tally := t, performed := [d], asked := true } where
  operation := by simpa using hd
  length hkeyed := by rw [h hkeyed]; rfl
  asked _ _ := rfl

end Books

/-! ## Methods -/

/-- What is known of a call of an operation when its method is through. -/
def Concluded {α : Type} (keyed : Prop) (op : Operation) (t : Tally) (b : Books)
    (result : Except Failure α) : Prop :=
  b.tally = t ∧ b.Settled keyed op result.isOk

variable {keyed : Prop} {t : Tally}

/-- The item that a single change has written is found under its identifier. -/
theorem writtenItem_written? {now : Instant} {d : Change} {y : Item}
    (hy : Table.written? now d = some y) {id : Identifier} (hid : d.id = id) :
    writtenItem id ([d].filterMap (Table.written? now)) = some y := by
  have hyid : y.id = id := (Table.id_of_written? hy).trans hid
  simp [writtenItem, hy, hyid]

theorem isOk_createdReply {id : Identifier} {written : List Item} {y : Item}
    (h : writtenItem id written = some y) : (createdReply id (.ok written)).isOk = true := by
  simp only [createdReply, h]
  rfl

theorem isOk_updatedReply {id : Identifier} {written : List Item} {y : Item}
    (h : writtenItem id written = some y) : (updatedReply id (.ok written)).isOk = true := by
  simp only [updatedReply, h]
  rfl

section Plans
variable {α : Type} {op : Operation} {reply : Except Storage.Error (List Item) → Except Failure α}

/-- A call that is refused has changed nothing. -/
theorem keepsTo_refused (failure : Failure) :
    KeepsTo (Books.protocol keyed) (Concluded keyed op t) { tally := t }
      (Course.refused (.error failure : Except Failure α)).plan :=
  .done ⟨rfl, Books.settled_refused op t⟩

/-- Nothing is changed by a page query, whatever it is answered. -/
theorem keepsTo_listing {window : Window}
    {reply : Except Storage.Error (Page Item) → Except Failure α} :
    KeepsTo (Books.protocol keyed) (Concluded keyed .read t) { tally := t }
      (Course.listing window reply).plan := by
  refine .ask nofun fun _ _ => .ask nofun fun found _ => .done ⟨rfl, ?_⟩
  cases reply found with
  | error failure => exact Books.settled_refused .read t
  | ok answer => exact Books.settled_answered (.inl rfl) t

/-- Nothing is changed before an item is found, and over a keyed table it has the identifier that it
was found under. -/
theorem keepsTo_lookup {id : Identifier} {broken : Storage.Error → Failure} {missing : Failure}
    {errand : Item → Errand (Except Failure α)}
    (h : ∀ item, (keyed → item.id = id) → KeepsTo (Books.protocol keyed) (Concluded keyed op t)
      { tally := t } ((errand item).plan item)) :
    KeepsTo (Books.protocol keyed) (Concluded keyed op t) { tally := t }
      (Course.lookup id (fun e => .error (broken e)) (.error missing) errand).plan := by
  refine .ask nofun fun _ _ => .ask nofun fun found hfound => ?_
  match found with
  | .error e => exact .done ⟨rfl, Books.settled_refused op t⟩
  | .ok none => exact .done ⟨rfl, Books.settled_refused op t⟩
  | .ok (some item) => exact h item hfound

/-- A change of the operation is committed if the call is answered for what it has written, and
refused for any error. -/
theorem keepsTo_commit {d : Change} (hd : d.operation = op)
    (hfailed : ∀ e, (reply (.error e)).isOk = false)
    (hwritten : ∀ now, (op = .update → keyed) →
      (reply (.ok ([d].filterMap (Table.written? now)))).isOk = true) :
    KeepsTo (Books.protocol keyed) (Concluded keyed op t) { tally := t, staged := [d] }
      (Serving.storage .commit >>= fun outcome => return reply outcome) := by
  refine .ask (fun _ => ⟨d, rfl⟩) fun outcome houtcome => .done ?_
  cases outcome with
  | error e =>
    refine ⟨rfl, ?_⟩
    rw [hfailed e]
    exact Books.settled_failed op t
  | ok written =>
    obtain ⟨now, rfl⟩ := houtcome
    exact ⟨rfl, Books.settled_committed hd (hwritten now) t⟩

theorem keepsTo_creation {name : String}
    {reply : Identifier → Except Storage.Error (List Item) → Except Failure α}
    (hfailed : ∀ id e, (reply id (.error e)).isOk = false)
    (hwritten : ∀ id now,
      (reply id (.ok ([.insert id name].filterMap (Table.written? now)))).isOk = true) :
    KeepsTo (Books.protocol keyed) (Concluded keyed .create t) { tally := t }
      (Course.creation name reply).plan :=
  .ask nofun fun _ _ => .ask nofun fun id _ =>
    keepsTo_commit rfl (hfailed id) fun now _ => hwritten id now

theorem keepsTo_edit {kind : Edit} {item : Item} (hd : (kind.change item).operation = op)
    (hfailed : ∀ e, (reply (.error e)).isOk = false)
    (hwritten : ∀ now, (op = .update → keyed) →
      (reply (.ok ([kind.change item].filterMap (Table.written? now)))).isOk = true) :
    KeepsTo (Books.protocol keyed) (Concluded keyed op t) { tally := t }
      ((Errand.edit kind reply).plan item) := by
  have hcommit := keepsTo_commit (t := t) hd hfailed hwritten
  cases kind with
  | rename name => exact .ask nofun fun _ _ => hcommit
  | remove => exact .ask nofun fun _ _ => hcommit

end Plans

theorem keepsTo_createCourse (request : ItemMessage) :
    KeepsTo (Books.protocol keyed) (Concluded keyed .create t) { tally := t }
      (createCourse request).plan := by
  rw [createCourse]
  cases request.checkCreate with
  | error failure => exact keepsTo_refused failure
  | ok _ =>
    refine keepsTo_creation (fun _ _ => rfl) fun id now => ?_
    have hwritten : Table.written? now (.insert id (Text.trim request.name)) =
        some (.created id (Text.trim request.name) now) := rfl
    exact isOk_createdReply (writtenItem_written? hwritten rfl)

theorem keepsTo_pageCourse (query : PageQuery) :
    KeepsTo (Books.protocol keyed) (Concluded keyed .read t) { tally := t }
      (pageCourse query).plan := by
  rw [pageCourse]
  cases query.check with
  | error failure => exact keepsTo_refused failure
  | ok _ => exact keepsTo_listing

theorem keepsTo_readCourse (key : ItemKey) :
    KeepsTo (Books.protocol keyed) (Concluded keyed .read t) { tally := t }
      (readCourse key).plan := by
  rw [readCourse]
  cases Identifier.require key.id Field.id with
  | error failure => exact keepsTo_refused failure
  | ok id => exact keepsTo_lookup fun _ _ => .done ⟨rfl, Books.settled_answered (.inl rfl) t⟩

/-- An update is answered without a commit if the item has the new name already. -/
theorem keepsTo_updateCourse (request : ItemMessage) :
    KeepsTo (Books.protocol keyed) (Concluded keyed .update t) { tally := t }
      (updateCourse request).plan := by
  rw [updateCourse]
  cases updateTarget request with
  | error failure => exact keepsTo_refused failure
  | ok id =>
    refine keepsTo_lookup fun item hid => ?_
    rw [renameErrand]
    split
    · exact .done ⟨rfl, Books.settled_answered (.inr rfl) t⟩
    · refine keepsTo_edit rfl (fun e => by cases e <;> rfl) fun now hkeyed => ?_
      let changed : Item := { item with name := Text.trim request.name }
      have hwritten : Table.written? now (.update changed) = some (changed.updated now) := rfl
      exact isOk_updatedReply (writtenItem_written? hwritten (hid (hkeyed rfl)))

theorem keepsTo_deleteCourse (key : ItemKey) :
    KeepsTo (Books.protocol keyed) (Concluded keyed .delete t) { tally := t }
      (deleteCourse key).plan := by
  rw [deleteCourse]
  cases Identifier.require key.id Field.id with
  | error failure => exact keepsTo_refused failure
  | ok id => exact keepsTo_lookup fun _ _ => keepsTo_edit rfl (fun _ => rfl) fun _ _ => rfl

theorem keepsTo_methodCourse (method : Method) (query : method.Query) :
    KeepsTo (Books.protocol keyed) (Concluded keyed method.operation t) { tally := t }
      (methodCourse method query).plan := by
  cases method with
  | createItem => exact keepsTo_createCourse query
  | getItems => exact keepsTo_pageCourse query
  | getItem => exact keepsTo_readCourse query
  | updateItem => exact keepsTo_updateCourse query
  | deleteItem => exact keepsTo_deleteCourse query

/-! ## Calls -/

/-- Whether the caller of a delivered call has received an answer. -/
def Delivery.answered (d : Delivery) : Bool := d.result.answered

/-- What is known of a call when it is delivered: it has entered, it counts as a change of its
operation just if it is answered, and what it has committed goes with that. -/
structure Books.Delivered (keyed : Prop) (op : Operation) (b : Books) (d : Delivery) : Prop where
  entered : b.tally.entered = 1
  counts : ∀ o s, Metrics.Series.changes? o = some s →
    b.tally.counted.count s = if op = o ∧ d.answered = true then 1 else 0
  settled : b.Settled keyed op d.answered

/-- What is known of a call behind all stages but metering: it has entered and counted in no series
yet, and what it has committed goes with its result. -/
structure Books.Ready {α : Type} (keyed : Prop) (op : Operation) (b : Books) (r : Result α) :
    Prop where
  within : b.tally.Within
  counted : b.tally.counted = []
  label : r.label?.isSome = true
  settled : b.Settled keyed op r.answered

/-- A handler keeps the books of its method. -/
theorem keepsTo_handler (method : Method) (query : method.Query) (seen : Call) (ht : t.Within)
    (hcounted : t.counted = []) :
    KeepsTo (Books.protocol keyed)
      (fun b outcome => b.tally.Within ∧ b.Ready keyed method.operation outcome.settled)
      { tally := t } (handler method query seen) := by
  have hmethod : KeepsTo (Books.protocol keyed) (Concluded keyed method.operation t) { tally := t }
      (methodCourse method query).plan := keepsTo_methodCourse method query
  refine KeepsTo.bind ((keepsTo_handle Books.times_protocol hmethod seen).mono ?_)
  rintro b result ⟨rfl, hsettled⟩
  refine .done ⟨ht, ht, hcounted, ?_, ?_⟩
  · cases result <;> rfl
  · cases result <;> exact hsettled

/-- Metering adds to the books of a call how it ended. -/
theorem Books.Ready.delivered {s : Submission} {b : Books} {r : Result s.method.Answer}
    (h : b.Ready keyed s.method.operation r) (id : Identifier) (d : Nat) :
    ((Books.protocol keyed).close b
      (Stage.endEvents (.start s.method.path s.metadata id) d r.outcome)).Delivered keyed
        s.method.operation ⟨s.method, r⟩ := by
  obtain ⟨l, hl⟩ := Option.isSome_iff_exists.1 h.label
  have hcounts := Metrics.countsAs_endEvents hl (.start s.method.path s.metadata id) d
  rw [Call.operation_start, s.method.ofMethod_path] at hcounts
  rw [Books.close_protocol,
    Tally.close_protocol h.within fun e he => Stage.flight?_of_mem_endEvents he, h.counted]
  refine ⟨rfl, fun o series hseries => ?_, h.settled.operation, h.settled.length, h.settled.asked⟩
  refine (hcounts.changes o series hseries).trans ?_
  exact if_congr (and_congr_right fun _ => Result.label_eq_success_iff hl) rfl rfl

/-- A call keeps its books until it is delivered. -/
theorem keepsTo_submission (keyed : Prop) (validator : Option Validator) (s : Submission) :
    KeepsTo (Books.protocol keyed) (Books.Delivered keyed s.method.operation) {}
      (s.program validator) := by
  have hserve : KeepsTo (Books.protocol keyed)
      (fun b r => ∃ id, Pipeline.Closed (Books.protocol keyed)
        (Books.Ready keyed s.method.operation) (.start s.method.path s.metadata id) b r) {}
      (serve validator s.method s.metadata s.query) := by
    refine keepsTo_serve Books.inside_protocol (fun e he h => absurd h (he .commit)) ⟨rfl, rfl⟩
      ?_ ?_
    · exact fun id seen _ => keepsTo_handler s.method s.query seen ⟨rfl, rfl⟩ rfl
    · exact fun id _ v _ refusal _ => ⟨⟨rfl, rfl⟩, rfl, rfl, Books.settled_refused _ _⟩
  -- Whatever is known of a result behind the stages is known when metering has closed the books.
  refine KeepsTo.bind (hserve.mono ?_)
  rintro _ r ⟨id, b, d, hready, rfl⟩
  exact .done (hready.delivered id d)

/-! ## Balance -/

namespace Books

/-- How many changes of an operation a call has committed. -/
def changes (b : Books) (op : Operation) : Nat :=
  b.performed.countP fun d => d.operation = op

theorem Settled.changes {op : Operation} {answered : Bool} {b : Books}
    (h : b.Settled keyed op answered) (o : Operation) :
    b.changes o = if op = o then b.performed.length else 0 := by
  rw [Books.changes]
  split
  · next ho =>
    rw [List.countP_eq_length]
    intro d hd
    simpa using (h.operation d hd).trans ho
  · next ho =>
    rw [List.countP_eq_zero]
    intro d hd hdo
    exact ho ((h.operation d hd).symm.trans (by simpa using hdo))

/-- A delivered call counts as a creation or a deletion just as often as it has committed one. -/
theorem Delivered.count_eq {op o : Operation} {b : Books} {d : Delivery}
    (h : b.Delivered keyed op d) (ho : o = .create ∨ o = .delete) {s : Metrics.Series}
    (hs : Metrics.Series.changes? o = some s) : b.tally.counted.count s = b.changes o := by
  rw [h.counts o s hs, h.settled.changes o]
  -- A call of another operation counts nothing here and has committed nothing of the kind.
  by_cases hop : op = o
  · subst hop
    have hlength := h.settled.length (by rintro rfl; simp at ho)
    rw [if_pos rfl, hlength]
    cases hanswered : d.answered with
    | false => simp
    | true => simp [h.settled.asked ho hanswered]
  · simp [hop]

/-- A delivered call over a keyed table counts as an update as often as it has committed one, and
once if it is an update that was answered without a commit. -/
theorem Delivered.count_updated {op : Operation} {b : Books} {d : Delivery}
    (h : b.Delivered keyed op d) (hkeyed : keyed) :
    b.tally.counted.count ⟨.updated, []⟩ =
      b.changes .update +
        if op = .update ∧ d.answered = true ∧ b.asked = false then 1 else 0 := by
  rw [h.counts .update _ rfl, h.settled.changes .update, h.settled.length fun _ => hkeyed]
  cases d.answered <;> cases b.asked <;> by_cases hop : op = .update <;> simp [hop]

end Books
end Service
end ItemCatalog
