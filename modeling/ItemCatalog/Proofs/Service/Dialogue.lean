import ItemCatalog.Proofs.Service.Circumstances
import ItemCatalog.Proofs.Service.Demands

/-!
# What each method says to storage

The requests that each method makes, one after another, by what storage answers to them, and what
becomes of the call. Main statement: every call keeps to the script of its method
(`dialogue_of_method`).

## Main definitions

* `Script`, `Script.Holds`: what a method is to do with a request, and whether a call did it.
* `script`: the script of each method.
* `Course.dialogue`: what a course comes to in some circumstances, and its trail.
* `Circumstances.samples`: the samples that are recorded for some requests.
-/

namespace ItemCatalog

/-- The operation under which the duration of a request is recorded, if it is. -/
def Storage.Request.sampled? (op : Operation) : Storage.Request → Option Operation
  | .find _ => some .read
  | .page _ => some .read
  | .commit => some op
  | _ => none

namespace Service
open Storage (Request)

variable {R : Type} {c : Circumstances} {t : Trail} {op : Operation}

/-! ## Courses -/

/-- The trail of a call that has started its unit of work. -/
def Trail.begun : Trail := ({} : Trail).ask .start

/-- What an errand comes to and leaves behind a trail, its commit being one of an operation. -/
def Errand.dialogue (c : Circumstances) (op : Operation) (t : Trail) (item : Item) :
    Errand R → R × Trail
  | .answer a => (a, t)
  | .edit kind reply =>
    let staged := t.ask (kind.request item)
    (reply (c.answer staged.asked .commit), staged.time c.nanos op .commit)

/-- What a call comes to and leaves once an item has been looked for. -/
def lookupDialogue (c : Circumstances) (op : Operation) (t : Trail) (broken : Storage.Error → R)
    (missing : R) (errand : Item → Errand R) : Except Storage.Error (Option Item) → R × Trail
  | .error e => (broken e, t)
  | .ok none => (missing, t)
  | .ok (some item) => (errand item).dialogue c op t item

/-- What a course comes to and leaves, its commit being one of an operation. -/
def Course.dialogue (c : Circumstances) (op : Operation) : Course R → R × Trail
  | .refused a => (a, {})
  | .creation name reply =>
    let staged := Trail.begun.ask (.save name)
    (reply (c.answer Trail.begun.asked (.save name)) (c.answer staged.asked .commit),
      staged.time c.nanos op .commit)
  | .listing window reply =>
    (reply (c.answer Trail.begun.asked (.page window)),
      Trail.begun.time c.nanos .read (.page window))
  | .lookup id broken missing errand =>
    lookupDialogue c op (Trail.begun.time c.nanos .read (.find id)) broken missing errand
      (c.answer Trail.begun.asked (.find id))

/-- What a course that is timed comes to and leaves. -/
theorem Course.run_timed (course : Course R) : c.run (course.timed op) = course.dialogue c op := by
  cases course with
  | refused a => rfl
  | creation name reply => rfl
  | listing window reply => rfl
  | lookup id broken missing errand =>
    -- The course starts its unit of work and looks the item up.
    change c.run (lookupTimed op broken missing errand (c.answer Trail.begun.asked (.find id)))
      (Trail.begun.time c.nanos .read (.find id)) = _
    rw [Course.dialogue]
    cases c.answer Trail.begun.asked (.find id) with
    | error e => rfl
    | ok found =>
      cases found with
      | none => rfl
      | some item =>
        rw [lookupTimed, lookupDialogue]
        cases errand item with
        | answer a => rfl
        | edit kind reply => cases kind <;> rfl

/-- Every method comes to and leaves what its course does. -/
theorem run_handle (method : Method) (call : Call) (query : method.Query) :
    c.run (method.handle call query) = (methodCourse method query).dialogue c method.operation :=
  (c.run_of_annotates (annotates_handle method call query) {}).trans (Course.run_timed _)

/-! ## What is answered -/

/-- The item that a call is told to be stored under an identifier, if storage says so. -/
def Circumstances.found? (c : Circumstances) (id : Identifier) : Option Item :=
  (c.answer [.start] (.find id)).toOption.join

/-- The first item under an identifier that a commit says it wrote, if it succeeds. -/
def Circumstances.written? (c : Circumstances) (id : Identifier) (past : List Request) :
    Option Item :=
  (c.answer past .commit).toOption.bind fun written => written.find? fun item => item.id = id

theorem createdReply_eq_ok_iff {id : Identifier} {outcome : Except Storage.Error (List Item)}
    {reply : ItemReply} :
    createdReply id outcome = .ok reply ↔
      ∃ item, outcome.toOption.bind (writtenItem id) = some item ∧
        reply = ⟨some (.ofItem item)⟩ := by
  cases outcome with
  | error e => simp [createdReply, Except.toOption]
  | ok written =>
    rw [createdReply, Except.toOption, Option.bind_some]
    cases writtenItem id written with
    | none => simp
    | some item => simp [eq_comm]

theorem updatedReply_eq_ok_iff {id : Identifier} {outcome : Except Storage.Error (List Item)}
    {reply : ItemReply} :
    updatedReply id outcome = .ok reply ↔
      ∃ item, outcome.toOption.bind (writtenItem id) = some item ∧
        reply = ⟨some (.ofItem item)⟩ := by
  cases outcome with
  | error e => cases e <;> simp [updatedReply, Except.toOption]
  | ok written =>
    rw [updatedReply, Except.toOption, Option.bind_some]
    cases writtenItem id written with
    | none => simp
    | some item => simp [eq_comm]

theorem listedReply_eq_ok_iff {window : Window} {outcome : Except Storage.Error (Page Item)}
    {reply : PageReply} :
    listedReply window outcome = .ok reply ↔
      ∃ page, outcome = .ok page ∧ reply = .ofPage page window := by
  cases outcome with
  | error e => simp [listedReply]
  | ok page => simp [listedReply, eq_comm]

theorem deletedReply_eq_ok_iff {outcome : Except Storage.Error (List Item)}
    {reply : DeleteReply} :
    deletedReply outcome = .ok reply ↔ (∃ written, outcome = .ok written) ∧ reply = ⟨true⟩ := by
  cases outcome with
  | error e => simp [deletedReply]
  | ok written => simp [deletedReply, eq_comm]

/-! ## Looking an item up -/

section Lookup
variable {α : Type} {item : Item} {errand : Errand R}

/-- What an errand asks of storage. -/
def Errand.asks (item : Item) : Errand R → List Request
  | .answer _ => []
  | .edit kind _ => [kind.request item, .commit]

theorem Errand.asked_dialogue :
    (errand.dialogue c op t item).2.asked = t.asked ++ errand.asks item := by
  cases errand with
  | answer a => exact (List.append_nil _).symm
  | edit kind reply => exact List.append_assoc _ _ _

/-- A call that looks an item up goes on if it finds one. -/
theorem asked_lookup (id : Identifier) (broken : Storage.Error → R) (missing : R)
    (errand : Item → Errand R) :
    ((Course.lookup id broken missing errand).dialogue c op).2.asked =
      [.start, .find id] ++ (c.found? id).elim [] fun item => (errand item).asks item := by
  rw [Course.dialogue, Circumstances.found?]
  change _ = _ ++ ((c.answer Trail.begun.asked (.find id)).toOption.join).elim _ _
  cases c.answer Trail.begun.asked (.find id) with
  | error e => rfl
  | ok found =>
    cases found with
    | none => rfl
    | some item => exact Errand.asked_dialogue

/-- The trail of a call that has looked an item up. -/
def Circumstances.looked (c : Circumstances) (id : Identifier) : Trail :=
  Trail.begun.time c.nanos .read (.find id)

/-- A call that must find an item answers well only if it does. -/
theorem lookup_eq_ok_iff {id : Identifier} {broken : Storage.Error → Failure} {missing : Failure}
    {errand : Item → Errand (Except Failure α)} {reply : α} :
    ((Course.lookup id (fun e => .error (broken e)) (.error missing) errand).dialogue c op).1 =
        .ok reply ↔
      ∃ item, c.found? id = some item ∧
        ((errand item).dialogue c op (c.looked id) item).1 = .ok reply := by
  rw [Course.dialogue, Circumstances.found?, Circumstances.looked]
  change _ ↔ ∃ item, (c.answer Trail.begun.asked (.find id)).toOption.join = _ ∧ _
  cases c.answer Trail.begun.asked (.find id) with
  | error e => simp [lookupDialogue, Except.toOption]
  | ok found =>
    cases found with
    | none => simp [lookupDialogue, Except.toOption]
    | some item => simp [lookupDialogue, Except.toOption]

end Lookup

/-! ## Commits and samples -/

/-- The samples that are recorded for some requests. -/
def Circumstances.samples (c : Circumstances) (op : Operation) (asked : List Request) :
    List Metrics.Event :=
  (asked.filterMap (Request.sampled? op)).mapIdx fun i sampled => .database sampled (c.nanos i)

/-- A course commits once at most. -/
theorem Course.count_commit_le (course : Course R) :
    (course.dialogue c op).2.asked.count .commit ≤ 1 := by
  cases course with
  | refused a => exact Nat.zero_le 1
  | creation name reply => exact Nat.le_refl 1
  | listing window reply => exact Nat.zero_le 1
  | lookup id broken missing errand =>
    rw [asked_lookup]
    cases c.found? id with
    | none => exact Nat.zero_le 1
    | some item =>
      dsimp only [Option.elim]
      cases errand item with
      | answer a => exact Nat.zero_le 1
      | edit kind reply => cases kind <;> exact Nat.le_refl 1

/-- A course leaves a sample for each request that takes time. -/
theorem Course.recorded_dialogue (course : Course R) :
    (course.dialogue c op).2.recorded = c.samples op (course.dialogue c op).2.asked := by
  cases course with
  | refused a => rfl
  | creation name reply => rfl
  | listing window reply => rfl
  | lookup id broken missing errand =>
    rw [Course.dialogue]
    cases c.answer Trail.begun.asked (.find id) with
    | error e => rfl
    | ok found =>
      cases found with
      | none => rfl
      | some item =>
        rw [lookupDialogue]
        cases errand item with
        | answer a => rfl
        | edit kind reply => cases kind <;> rfl

/-! ## Identifiers -/

/-- A required identifier is the one that stands between blanks. -/
theorem parse?_trim_of_require {text field : String} {id : Identifier}
    (h : Identifier.require text field = .ok id) :
    Identifier.parse? (Text.trim text) = some id := by
  simp only [Identifier.require] at h
  split at h
  · cases h
  · split at h
    · cases h
    · next hparse =>
      split at h
      · cases h
      · cases h
        exact hparse

theorem require_of_updateTarget {request : ItemMessage} {id : Identifier}
    (h : updateTarget request = .ok id) : Identifier.require request.id Field.id = .ok id := by
  rw [updateTarget] at h
  split at h
  · cases h
  · exact h

/-! ## Scripts -/

/-- What a method is to do with a request: what its checks yield, whether that is what the request
names, what is then asked of storage, and what is the answer. -/
structure Script (β α : Type) where
  checked : Except Failure β
  names : β → Prop := fun _ => True
  asks : β → List Request
  answers : β → α → Prop

/-- Whether a call that ended like this has kept to a script. One that is turned away by its checks
leaves nothing at all. -/
structure Script.Holds {α β : Type} (s : Script β α) (ended : Except Failure α × Trail) : Prop where
  refused : ∀ failure, s.checked = .error failure → ended = (.error failure, {})
  named : ∀ target, s.checked = .ok target → s.names target
  asked : ∀ target, s.checked = .ok target → ended.2.asked = s.asks target
  answered : ∀ target, s.checked = .ok target →
    ∀ reply, ended.1 = .ok reply ↔ s.answers target reply

section Holds
variable {α β : Type} {s : Script β α} {ended : Except Failure α × Trail}

theorem Script.holds_of_error {failure : Failure} (h : s.checked = .error failure) :
    s.Holds (.error failure, {}) where
  refused := by simp [h]
  named := by simp [h]
  asked := by simp [h]
  answered := by simp [h]

theorem Script.holds_of_ok {target : β} (h : s.checked = .ok target) (hnamed : s.names target)
    (hasked : ended.2.asked = s.asks target)
    (hanswered : ∀ reply, ended.1 = .ok reply ↔ s.answers target reply) : s.Holds ended where
  refused := by simp [h]
  named := by simpa [h]
  asked := by simpa [h]
  answered := by simpa [h]

/-- A script in which an item is looked for is kept if it says of an item that is found what is done
with it. -/
theorem Script.holds_lookup {s : Script Identifier α} {id : Identifier}
    {broken : Storage.Error → Failure} {missing : Failure}
    {errand : Item → Errand (Except Failure α)} (h : s.checked = .ok id) (hnamed : s.names id)
    (hasks : s.asks id =
      [.start, .find id] ++ (c.found? id).elim [] fun item => (errand item).asks item)
    (hanswers : ∀ reply, s.answers id reply ↔ ∃ item, c.found? id = some item ∧
      ((errand item).dialogue c op (c.looked id) item).1 = .ok reply) :
    s.Holds
      ((Course.lookup id (fun e => .error (broken e)) (.error missing) errand).dialogue c op) := by
  refine Script.holds_of_ok h hnamed ?_ fun reply => ?_
  · rw [asked_lookup, hasks]
  · rw [lookup_eq_ok_iff, hanswers]

end Holds

/-- A creation saves the trimmed name and answers with the item that its commit wrote. -/
def createScript (c : Circumstances) (request : ItemMessage) : Script Unit ItemReply :=
  let name := Text.trim request.name
  { checked := request.checkCreate
    asks _ := [.start, .save name, .commit]
    answers _ reply := ∃ item,
      c.written? (c.answer [.start] (.save name)) [.start, .save name] = some item ∧
        reply = ⟨some (.ofItem item)⟩ }

/-- A page query asks for the nearest window that storage may be asked for. -/
def pageScript (c : Circumstances) (query : PageQuery) : Script Unit PageReply :=
  let window := Window.clamp query.startPage query.pageSize
  { checked := query.check
    asks _ := [.start, .page window]
    answers _ reply := ∃ page,
      c.answer [.start] (.page window) = .ok page ∧ reply = .ofPage page window }

/-- A call that reads an item answers with the one that is found. -/
def readScript (c : Circumstances) (key : ItemKey) : Script Identifier ItemReply where
  checked := Identifier.require key.id Field.id
  names id := Identifier.parse? (Text.trim key.id) = some id
  asks id := [.start, .find id]
  answers id reply := ∃ item, c.found? id = some item ∧ reply = ⟨some (.ofItem item)⟩

/-- An update writes an item that is found under another name and answers with what its commit
wrote. An item that has the name already is the answer itself. -/
def updateScript (c : Circumstances) (request : ItemMessage) : Script Identifier ItemReply :=
  let name := Text.trim request.name
  { checked := updateTarget request
    names id := Identifier.parse? (Text.trim request.id) = some id
    asks id := [.start, .find id] ++ (c.found? id).elim [] fun item =>
      if item.name = name then [] else [.update { item with name := name }, .commit]
    answers id reply := ∃ item, c.found? id = some item ∧ ∃ stored,
      (if item.name = name then some item
        else c.written? id [.start, .find id, .update { item with name := name }]) = some stored ∧
      reply = ⟨some (.ofItem stored)⟩ }

/-- A deletion removes an item that is found. -/
def deleteScript (c : Circumstances) (key : ItemKey) : Script Identifier DeleteReply where
  checked := Identifier.require key.id Field.id
  names id := Identifier.parse? (Text.trim key.id) = some id
  asks id := [.start, .find id] ++ (c.found? id).elim [] fun item => [.delete item, .commit]
  answers id reply := ∃ item, c.found? id = some item ∧
    (∃ written, c.answer [.start, .find id, .delete item] .commit = .ok written) ∧
    reply = ⟨true⟩

theorem checked_readScript (key : ItemKey) :
    (readScript c key).checked = Identifier.require key.id Field.id := by
  rw [readScript]

theorem checked_updateScript (request : ItemMessage) :
    (updateScript c request).checked = updateTarget request := by
  rw [updateScript]

theorem checked_deleteScript (key : ItemKey) :
    (deleteScript c key).checked = Identifier.require key.id Field.id := by
  rw [deleteScript]

theorem holds_createCourse (request : ItemMessage) :
    (createScript c request).Holds ((createCourse request).dialogue c .create) := by
  rw [createCourse]
  cases hcheck : request.checkCreate with
  | error failure => exact Script.holds_of_error hcheck
  | ok _ => exact Script.holds_of_ok hcheck trivial rfl fun reply => createdReply_eq_ok_iff

theorem holds_pageCourse (query : PageQuery) :
    (pageScript c query).Holds ((pageCourse query).dialogue c .read) := by
  rw [pageCourse]
  cases hcheck : query.check with
  | error failure => exact Script.holds_of_error hcheck
  | ok _ => exact Script.holds_of_ok hcheck trivial rfl fun reply => listedReply_eq_ok_iff

theorem holds_readCourse (key : ItemKey) :
    (readScript c key).Holds ((readCourse key).dialogue c .read) := by
  rw [readCourse]
  cases hcheck : Identifier.require key.id Field.id with
  | error failure => exact Script.holds_of_error ((checked_readScript key).trans hcheck)
  | ok id =>
    have hchecked := (checked_readScript key (c := c)).trans hcheck
    refine Script.holds_lookup hchecked (parse?_trim_of_require hcheck) ?_ fun reply => ?_
    · cases c.found? id <;> rfl
    · simp only [readScript, Errand.dialogue, Except.ok.injEq, eq_comm]

theorem holds_updateCourse (request : ItemMessage) :
    (updateScript c request).Holds ((updateCourse request).dialogue c .update) := by
  rw [updateCourse]
  cases hcheck : updateTarget request with
  | error failure => exact Script.holds_of_error ((checked_updateScript request).trans hcheck)
  | ok id =>
    have hchecked := (checked_updateScript request (c := c)).trans hcheck
    have hnamed := parse?_trim_of_require (require_of_updateTarget hcheck)
    refine Script.holds_lookup hchecked hnamed ?_ fun reply => ?_
    -- Both what is asked and what is answered depend on whether the name is to be another one.
    · refine congrArg (_ ++ (c.found? id).elim [] ·) (funext fun item => ?_)
      rw [renameErrand]
      split <;> rfl
    · refine exists_congr fun item => and_congr_right fun _ => ?_
      rw [renameErrand]
      split
      · simp [Errand.dialogue, eq_comm]
      · exact updatedReply_eq_ok_iff.symm

theorem holds_deleteCourse (key : ItemKey) :
    (deleteScript c key).Holds ((deleteCourse key).dialogue c .delete) := by
  rw [deleteCourse]
  cases hcheck : Identifier.require key.id Field.id with
  | error failure => exact Script.holds_of_error ((checked_deleteScript key).trans hcheck)
  | ok id =>
    have hchecked := (checked_deleteScript key (c := c)).trans hcheck
    refine Script.holds_lookup hchecked (parse?_trim_of_require hcheck) rfl fun reply => ?_
    exact exists_congr fun item => and_congr_right fun _ => deletedReply_eq_ok_iff.symm

/-! ## The dialogue of a call -/

/-- What the checks of a method yield: the identifier of the item that it is about, if that is to be
there. -/
def Target : Method → Type
  | .createItem => Unit
  | .getItems => Unit
  | .getItem => Identifier
  | .updateItem => Identifier
  | .deleteItem => Identifier

/-- The script of a method. -/
def script (c : Circumstances) :
    (method : Method) → method.Query → Script (Target method) method.Answer
  | .createItem, request => createScript c request
  | .getItems, query => pageScript c query
  | .getItem, key => readScript c key
  | .updateItem, request => updateScript c request
  | .deleteItem, key => deleteScript c key

/-- However storage answers, a call keeps to the script of its method: it asks for nothing if its
checks turn it away, and else for exactly what the script says, and succeeds if and only if storage
gave it the answer. It commits once at most, and each lookup, page and commit leaves one sample. -/
theorem dialogue_of_method (c : Circumstances) (method : Method) (call : Call)
    (query : method.Query) :
    (script c method query).Holds (c.run (method.handle call query)) ∧
      (c.run (method.handle call query)).2.asked.count .commit ≤ 1 ∧
      (c.run (method.handle call query)).2.recorded =
        c.samples method.operation (c.run (method.handle call query)).2.asked := by
  rw [run_handle]
  refine ⟨?_, Course.count_commit_le _, Course.recorded_dialogue _⟩
  cases method with
  | createItem => exact holds_createCourse query
  | getItems => exact holds_pageCourse query
  | getItem => exact holds_readCourse query
  | updateItem => exact holds_updateCourse query
  | deleteItem => exact holds_deleteCourse query

/-- A storage that has a lamp and whose commits say that they wrote some other item, and then a lamp
twice. -/
def stammering (other lamp first second : Item) : Circumstances where
  answer
    | _, .start => ()
    | _, .save _ => lamp.id
    | _, .find _ => .ok (some lamp)
    | _, .page _ => .ok ⟨[lamp], 1⟩
    | _, .update _ => ()
    | _, .delete _ => ()
    | _, .commit => .ok [other, first, second]
    | _, .count => .ok 1

/-- Of an update only the name of the item that was found is other, and the first item with its
identifier is the answer. -/
theorem stammering_dialogue :
    let lamp : Item := ⟨⟨7⟩, "Lamp", ⟨1, 0⟩, none, 3⟩
    let first : Item := ⟨⟨7⟩, "Beacon", ⟨1, 0⟩, some ⟨2, 0⟩, 9⟩
    let c := stammering ⟨⟨8⟩, "Chair", ⟨1, 0⟩, none, 1⟩ lamp first lamp
    let request : ItemMessage :=
      { id := " 00000000-0000-0000-0000-000000000007", name := " Torch " }
    let call := Call.start Method.updateItem.path .empty .nil
    updateTarget request = .ok lamp.id ∧
      (c.run (update call request)).2.asked =
        [.start, .find lamp.id, .update { lamp with name := "Torch" }, .commit] ∧
      (c.run (update call request)).1 = .ok ⟨some (.ofItem first)⟩ := by
  intro lamp first c request call
  have hok : updateTarget request = .ok lamp.id := by
    have hfound : (updateTarget request).toOption = some lamp.id := by decide +kernel
    cases htarget : updateTarget request with
    | error failure => rw [htarget] at hfound; cases hfound
    | ok id => rw [htarget] at hfound; cases hfound; rfl
  have hscript : (updateScript c request).Holds (c.run (update call request)) :=
    (dialogue_of_method c .updateItem call request).1
  have hchecked := (checked_updateScript request (c := c)).trans hok
  have hname : Text.trim request.name = "Torch" := by decide +kernel
  refine ⟨hok, ?_, ?_⟩
  · refine (hscript.asked lamp.id hchecked).trans ?_
    simp only [updateScript, hname]
    rfl
  · rw [hscript.answered lamp.id hchecked]
    refine ⟨lamp, rfl, first, ?_, rfl⟩
    simp only [hname]
    rfl

end Service
end ItemCatalog
