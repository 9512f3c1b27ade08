import ItemCatalog.Proofs.Service.Annotated
import ItemCatalog.Service.Gateway
import ItemCatalog.Storage.Table

/-!
# Courses of calls

What a call asks of storage takes one of four courses: nothing at all; the insertion of an item;
the reading of a page; or the reading of an item, perhaps followed by one change of it. Main
statements: every method is a course with remarks in between (`annotates_handle`) and so follows it
(`follows_course`), and what a course comes to over a table, all by itself, is one function of the
table (`Course.run_plan`).

## Main definitions

* `Course`, `Course.plan`: a course, and the program that it is.
* `Course.timed`: the program in which reads and commits are timed.
* `Course.result`: what it answers over a table, and what it makes of the table.
* `Invocation`, `Reply`: a call of any method and what it comes to.
-/

namespace ItemCatalog

/-- The operation of a method. -/
def Method.operation : Method → Operation
  | .createItem => .create
  | .getItems => .read
  | .getItem => .read
  | .updateItem => .update
  | .deleteItem => .delete

namespace Service
open Storage (Change Request Table)

variable {R R' : Type}

/-! ## Courses -/

/-- A change of an item that was read. -/
inductive Edit
  | rename (name : String)
  | remove

/-- The change that is staged for an item. -/
def Edit.change (item : Item) : Edit → Change
  | .rename name => .update { item with name := name }
  | .remove => .delete item

/-- The request that stages it. -/
def Edit.request (item : Item) : Edit → Request
  | .rename name => .update { item with name := name }
  | .remove => .delete item

/-- What a call does with the item that it has read: answer, or change it and answer by the outcome
of the commit. -/
inductive Errand (R : Type)
  | answer (a : R)
  | edit (kind : Edit) (reply : Except Storage.Error (List Item) → R)

/-- What a call asks of storage, and what it answers. -/
inductive Course (R : Type)
  | refused (a : R)
  | creation (name : String) (reply : Identifier → Except Storage.Error (List Item) → R)
  | listing (window : Window) (reply : Except Storage.Error (Page Item) → R)
  | lookup (id : Identifier) (broken : Storage.Error → R) (missing : R) (errand : Item → Errand R)

/-- The rest of a course once an item has been read. -/
def Errand.plan (item : Item) : Errand R → Serving R
  | .answer a => return a
  | .edit kind reply => do
    let _ ← Serving.storage (kind.request item)
    let outcome ← Serving.storage .commit
    return reply outcome

/-- The rest of a course once an item has been looked for. -/
def lookupPlan (broken : Storage.Error → R) (missing : R) (errand : Item → Errand R) :
    Except Storage.Error (Option Item) → Serving R
  | .error e => return broken e
  | .ok none => return missing
  | .ok (some item) => (errand item).plan item

/-- A course as a program that asks nothing but storage. -/
def Course.plan : Course R → Serving R
  | .refused a => return a
  | .creation name reply => do
    Serving.storage .start
    let id ← Serving.storage (.save name)
    let outcome ← Serving.storage .commit
    return reply id outcome
  | .listing window reply => do
    Serving.storage .start
    let found ← Serving.storage (.page window)
    return reply found
  | .lookup id broken missing errand => do
    Serving.storage .start
    let found ← Serving.storage (.find id)
    lookupPlan broken missing errand found

/-- Whether a course inserts an item. -/
def Course.creates : Course R → Bool
  | .creation .. => true
  | _ => false

/-! ## Over a table -/

/-- What is answered for the item that a table holds, and what becomes of the table. -/
def Errand.result (t : Table) (now : Instant) (item : Item) : Errand R → R × Table
  | .answer a => (a, t)
  | .edit kind reply =>
    (reply (t.commit now [kind.change item]).1, (t.commit now [kind.change item]).2)

/-- What a course answers over a table and makes of it, if nothing comes between its steps: `fresh`
is the identifier that an inserted item gets. -/
def Course.result (t : Table) (now : Instant) (fresh : Identifier) : Course R → R × Table
  | .refused a => (a, t)
  | .creation name reply =>
    (reply fresh (t.commit now [.insert fresh name]).1, (t.commit now [.insert fresh name]).2)
  | .listing window reply => (reply (.ok (t.page window)), t)
  | .lookup id _ missing errand =>
    match t.get? id with
    | none => (missing, t)
    | some item => (errand item).result t now item

/-- Surroundings at the beginning of a call. -/
def opening (t : Table) (now : Instant) (random : BitVec 128) : Surroundings Table where
  store := t
  now := now
  entropy := ⟨[random], 0⟩

/-- A course in surroundings of its own comes to its result, and draws an identifier just when it
inserts an item. -/
theorem Course.run_plan (c : Course R) (t : Table) (now : Instant) (random : BitVec 128) :
    ((opening t now random).run Table.backend c.plan).1 =
        (c.result t now (.ofRandom random)).1 ∧
      ((opening t now random).run Table.backend c.plan).2.store =
        (c.result t now (.ofRandom random)).2 ∧
      ((opening t now random).run Table.backend c.plan).2.asked.any Request.draws = c.creates := by
  cases c with
  | refused a => exact ⟨rfl, rfl, rfl⟩
  | creation name reply => exact ⟨rfl, rfl, rfl⟩
  | listing window reply => exact ⟨rfl, rfl, rfl⟩
  | lookup id broken missing errand =>
    have hplan : (opening t now random).run Table.backend
        (Course.lookup id broken missing errand).plan =
          ({ opening t now random with asked := [.start, .find id] } : Surroundings Table).run
            Table.backend (lookupPlan broken missing errand (.ok (t.get? id))) := rfl
    rw [hplan, Course.result]
    cases t.get? id with
    | none => exact ⟨rfl, rfl, rfl⟩
    | some item =>
      rw [lookupPlan]
      dsimp only
      cases errand item with
      | answer a => exact ⟨rfl, rfl, rfl⟩
      | edit kind reply => cases kind <;> exact ⟨rfl, rfl, rfl⟩

/-! ## Calls and replies -/

/-- A call of a method. -/
structure Invocation where
  method : Method
  call : Call
  query : method.Query

/-- What a call comes to. -/
structure Reply where
  method : Method
  outcome : Except Failure method.Answer

/-- The program that serves a call. -/
def Invocation.program (i : Invocation) : Serving Reply := do
  let outcome ← i.method.handle i.call i.query
  return ⟨i.method, outcome⟩

/-- A course whose answers are wrapped up. -/
def Course.map (f : R → R') : Course R → Course R'
  | .refused a => .refused (f a)
  | .creation name reply => .creation name fun id outcome => f (reply id outcome)
  | .listing window reply => .listing window fun found => f (reply found)
  | .lookup id broken missing errand =>
    .lookup id (fun e => f (broken e)) (f missing) fun item =>
      match errand item with
      | .answer a => .answer (f a)
      | .edit kind reply => .edit kind fun outcome => f (reply outcome)

theorem Course.creates_map (f : R → R') (c : Course R) : (c.map f).creates = c.creates := by
  cases c <;> rfl

/-- Wrapped-up answers are the only difference. -/
theorem Course.result_map (f : R → R') (c : Course R) (t : Table) (now : Instant)
    (fresh : Identifier) :
    (c.map f).result t now fresh = (f (c.result t now fresh).1, (c.result t now fresh).2) := by
  cases c with
  | refused a => rfl
  | creation name reply => rfl
  | listing window reply => rfl
  | lookup id broken missing errand =>
    simp only [Course.map, Course.result]
    cases t.get? id with
    | none => rfl
    | some item =>
      dsimp only
      cases errand item with
      | answer a => rfl
      | edit kind reply => rfl

theorem Course.plan_map (f : R → R') (c : Course R) :
    (c.map f).plan = c.plan >>= fun a => return f a := by
  cases c with
  | refused a => rfl
  | creation name reply => rfl
  | listing window reply => rfl
  | lookup id broken missing errand =>
    refine congrArg (Serving.storage .start >>= fun _ => Serving.storage (.find id) >>= ·) ?_
    funext found
    match found with
    | .error e => rfl
    | .ok none => rfl
    | .ok (some item) =>
      change (match errand item with
        | .answer a => Errand.answer (f a)
        | .edit kind reply => .edit kind fun outcome => f (reply outcome)).plan item =
          (errand item).plan item >>= _
      cases errand item with
      | answer a => rfl
      | edit kind reply => rfl

/-! ## The courses of the methods -/

/-- What a creation answers by the outcome of its commit. -/
def createdReply (id : Identifier) :
    Except Storage.Error (List Item) → Except Failure ItemReply
  | .error e => .error (broken .create "Failed to save entity to database." e)
  | .ok written =>
    match writtenItem id written with
    | some item => .ok ⟨some (.ofItem item)⟩
    | none =>
      .error (.storage .create "An unexpected error occurred while creating the entity."
        (some "commit did not return the inserted item"))

/-- The course of a creation. -/
def createCourse (request : ItemMessage) : Course (Except Failure ItemReply) :=
  match request.checkCreate with
  | .error failure => .refused (.error failure)
  | .ok () => .creation (Text.trim request.name) createdReply

/-- What a page query answers by what was found. -/
def listedReply (window : Window) :
    Except Storage.Error (Page Item) → Except Failure PageReply
  | .error e => .error (broken .read "Failed to retrieve entities from database." e)
  | .ok found => .ok (.ofPage found window)

/-- The course of a page query. -/
def pageCourse (query : PageQuery) : Course (Except Failure PageReply) :=
  match query.check with
  | .error failure => .refused (.error failure)
  | .ok () => .listing query.window (listedReply query.window)

/-- The course of a call that reads an item. -/
def readCourse (key : ItemKey) : Course (Except Failure ItemReply) :=
  match Identifier.require key.id Field.id with
  | .error failure => .refused (.error failure)
  | .ok id =>
    .lookup id (fun e => .error (broken .read "Failed to retrieve entity from database." e))
      (.error (.missing Item.entityType id.text)) fun item => .answer (.ok ⟨some (.ofItem item)⟩)

/-- What an update answers by the outcome of its commit. -/
def updatedReply (id : Identifier) :
    Except Storage.Error (List Item) → Except Failure ItemReply
  | .error (.conflict id) => .error (broken .update conflictMessage (.conflict id))
  | .error e => .error (broken .update "Failed to update entity in database." e)
  | .ok written =>
    match writtenItem id written with
    | some item => .ok ⟨some (.ofItem item)⟩
    | none =>
      .error (.storage .update "An unexpected error occurred while updating the entity."
        (some "commit did not return the updated item"))

/-- What an update does with the item that it has read. -/
def renameErrand (id : Identifier) (name : String) (item : Item) :
    Errand (Except Failure ItemReply) :=
  if item.name = name then .answer (.ok ⟨some (.ofItem item)⟩)
  else .edit (.rename name) (updatedReply id)

/-- The course of an update. -/
def updateCourse (request : ItemMessage) : Course (Except Failure ItemReply) :=
  match updateTarget request with
  | .error failure => .refused (.error failure)
  | .ok id =>
    .lookup id
      (fun e => .error (broken .update "An unexpected error occurred while updating the entity." e))
      (.error (.missing Item.entityType id.text)) (renameErrand id (Text.trim request.name))

/-- What a deletion answers by the outcome of its commit. -/
def deletedReply : Except Storage.Error (List Item) → Except Failure DeleteReply
  | .error e => .error (broken .delete "Failed to delete entity from database." e)
  | .ok _ => .ok ⟨true⟩

/-- The course of a deletion. -/
def deleteCourse (key : ItemKey) : Course (Except Failure DeleteReply) :=
  match Identifier.require key.id Field.id with
  | .error failure => .refused (.error failure)
  | .ok id =>
    .lookup id
      (fun e => .error (broken .delete "An unexpected error occurred while deleting the entity." e))
      (.error (.missing Item.entityType id.text)) fun _ => .edit .remove deletedReply

/-- The course of a method. -/
def methodCourse : (method : Method) → method.Query → Course (Except Failure method.Answer)
  | .createItem, request => createCourse request
  | .getItems, query => pageCourse query
  | .getItem, key => readCourse key
  | .updateItem, request => updateCourse request
  | .deleteItem, key => deleteCourse key

/-- The course of a call. -/
def Invocation.course (i : Invocation) : Course Reply :=
  (methodCourse i.method i.query).map fun outcome => ⟨i.method, outcome⟩

/-! ## Courses that are timed -/

/-- The rest of a course whose reads and commits are timed, once an item has been read. -/
def Errand.timed (op : Operation) (item : Item) : Errand R → Serving R
  | .answer a => return a
  | .edit kind reply => do
    let _ ← Serving.storage (kind.request item)
    let outcome ← Serving.timed op .commit
    return reply outcome

/-- The rest of a course whose reads and commits are timed, once an item has been looked for. -/
def lookupTimed (op : Operation) (broken : Storage.Error → R) (missing : R)
    (errand : Item → Errand R) : Except Storage.Error (Option Item) → Serving R
  | .error e => return broken e
  | .ok none => return missing
  | .ok (some item) => (errand item).timed op item

/-- A course as a program that times its reads, and its commit as one of an operation. -/
def Course.timed (op : Operation) : Course R → Serving R
  | .refused a => return a
  | .creation name reply => do
    Serving.storage .start
    let id ← Serving.storage (.save name)
    let outcome ← Serving.timed op .commit
    return reply id outcome
  | .listing window reply => do
    Serving.storage .start
    let found ← Serving.timed .read (.page window)
    return reply found
  | .lookup id broken missing errand => do
    Serving.storage .start
    let found ← Serving.timed .read (.find id)
    lookupTimed op broken missing errand found

/-- A course asks the same of storage whether it is timed or not. -/
theorem Course.follows_timed (op : Operation) (c : Course R) : (c.timed op).Follows c.plan := by
  cases c with
  | refused a => exact .done a
  | creation name reply =>
    refine Serving.follows_storage fun _ => Serving.follows_storage fun id => ?_
    exact Serving.follows_timed fun outcome => .done _
  | listing window reply =>
    exact Serving.follows_storage fun _ => Serving.follows_timed fun found => .done _
  | lookup id broken missing errand =>
    refine Serving.follows_storage fun _ => Serving.follows_timed fun found => ?_
    match found with
    | .error e => exact .done _
    | .ok none => exact .done _
    | .ok (some item) =>
      rw [lookupTimed, lookupPlan]
      cases errand item with
      | answer a => exact .done a
      | edit kind reply =>
        exact Serving.follows_storage fun _ => Serving.follows_timed fun outcome => .done _

/-! ## Methods keep to their courses -/

section Steps
variable {α : Type}

theorem annotates_reject {method : Method} {fields : List Log.Field} {failure : Failure} :
    (reject method fields failure : Serving (Except Failure α)).Annotates (.done (.error failure)) :=
  Serving.annotates_event (.done _)

theorem annotates_breakOff {operation : Operation} {message : String} {level : Log.Level}
    {line : String} {fields : List Log.Field} {e : Storage.Error} :
    (breakOff operation message level line fields e : Serving (Except Failure α)).Annotates
      (.done (.error (broken operation message e))) :=
  Serving.annotates_event (.done _)

theorem annotates_notFound {line : String} {id : Identifier} :
    (notFound line id : Serving (Except Failure α)).Annotates
      (.done (.error (.missing Item.entityType id.text))) :=
  Serving.annotates_event (.done _)

end Steps

theorem annotates_create (call : Call) (request : ItemMessage) :
    (create call request).Annotates ((createCourse request).timed .create) := by
  refine Serving.annotates_log ?_
  rw [createCourse]
  cases request.checkCreate with
  | error failure => exact annotates_reject
  | ok _ =>
    refine Serving.annotates_event (Serving.annotates_bind _ fun _ => ?_)
    refine Serving.annotates_bind _ fun id => Serving.annotates_bind _ fun outcome => ?_
    cases outcome with
    | error e => exact annotates_breakOff
    | ok written =>
      simp only [created, createdReply]
      cases writtenItem id written with
      | none => exact .done _
      | some item => exact Serving.annotates_event (.done _)

theorem annotates_getPage (call : Call) (query : PageQuery) :
    (getPage call query).Annotates ((pageCourse query).timed .read) := by
  refine Serving.annotates_log ?_
  rw [pageCourse]
  cases query.check with
  | error failure => exact annotates_reject
  | ok _ =>
    refine Serving.annotates_event (Serving.annotates_bind _ fun _ => ?_)
    refine Serving.annotates_bind _ fun found => ?_
    cases found with
    | error e => exact annotates_breakOff
    | ok page => exact Serving.annotates_event (.done _)

theorem annotates_getOne (call : Call) (key : ItemKey) :
    (getOne call key).Annotates ((readCourse key).timed .read) := by
  refine Serving.annotates_log ?_
  rw [readCourse]
  cases Identifier.require key.id Field.id with
  | error failure => exact annotates_reject
  | ok id =>
    refine Serving.annotates_bind _ fun _ => Serving.annotates_bind _ fun found => ?_
    match found with
    | .error e => exact annotates_breakOff
    | .ok none => exact annotates_notFound
    | .ok (some item) => exact Serving.annotates_event (.done _)

theorem annotates_rename (id : Identifier) (item : Item) (name : String) :
    (rename id item name).Annotates ((renameErrand id name item).timed .update item) := by
  rw [rename, renameErrand]
  by_cases hname : item.name = name
  · rw [if_pos hname, if_pos hname]
    exact Serving.annotates_event (.done _)
  · rw [if_neg hname, if_neg hname]
    refine Serving.annotates_bind _ fun _ => Serving.annotates_bind _ fun outcome => ?_
    match outcome with
    | .error (.conflict id) => exact annotates_breakOff
    | .error (.database message) => exact annotates_breakOff
    | .error (.migration message) => exact annotates_breakOff
    | .error (.unavailable message) => exact annotates_breakOff
    | .ok written =>
      simp only [renamed, updatedReply]
      cases writtenItem id written with
      | none => exact .done _
      | some item => exact Serving.annotates_event (.done _)

theorem annotates_update (call : Call) (request : ItemMessage) :
    (update call request).Annotates ((updateCourse request).timed .update) := by
  refine Serving.annotates_log ?_
  rw [updateCourse]
  cases updateTarget request with
  | error failure => exact annotates_reject
  | ok id =>
    refine Serving.annotates_bind _ fun _ => Serving.annotates_bind _ fun found => ?_
    match found with
    | .error e => exact annotates_breakOff
    | .ok none => exact annotates_notFound
    | .ok (some item) => exact annotates_rename id item (Text.trim request.name)

theorem annotates_delete (call : Call) (key : ItemKey) :
    (delete call key).Annotates ((deleteCourse key).timed .delete) := by
  refine Serving.annotates_log ?_
  rw [deleteCourse]
  cases Identifier.require key.id Field.id with
  | error failure => exact annotates_reject
  | ok id =>
    refine Serving.annotates_bind _ fun _ => Serving.annotates_bind _ fun found => ?_
    match found with
    | .error e => exact annotates_breakOff
    | .ok none => exact annotates_notFound
    | .ok (some item) =>
      refine Serving.annotates_bind _ fun _ => Serving.annotates_bind _ fun outcome => ?_
      cases outcome with
      | error e => exact annotates_breakOff
      | ok written => exact Serving.annotates_event (.done _)

/-- Every method is its course with remarks in between. -/
theorem annotates_handle (method : Method) (call : Call) (query : method.Query) :
    (method.handle call query).Annotates ((methodCourse method query).timed method.operation) := by
  cases method with
  | createItem => exact annotates_create call query
  | getItems => exact annotates_getPage call query
  | getItem => exact annotates_getOne call query
  | updateItem => exact annotates_update call query
  | deleteItem => exact annotates_delete call query

/-- Every method follows its course. -/
theorem follows_handle (method : Method) (call : Call) (query : method.Query) :
    (method.handle call query).Follows (methodCourse method query).plan :=
  (annotates_handle method call query).follows (Course.follows_timed method.operation _)

/-- Every call follows its course. -/
theorem follows_course (i : Invocation) : i.program.Follows i.course.plan := by
  rw [Invocation.course, Course.plan_map]
  exact (follows_handle i.method i.call i.query).bind fun outcome => .done _

end Service
end ItemCatalog
