import ItemCatalog.Proofs.Message.Check
import ItemCatalog.Proofs.Name
import ItemCatalog.Proofs.Service.Replay

/-!
# What becomes of a stored item

What one call makes of what is stored under one identifier. Main statements: it keeps it, inserts
an item, gives it another name or removes it, and nothing else (`Course.fate`); and each of these
keeps what holds of every stored item (`Fate.isSound`).

## Main definitions

* `Fate`: what a call may make of what is stored under an identifier.
* `Item.IsSound`: what holds of every item that the service stores.
-/

namespace ItemCatalog

/-- Whether a name is as the service stores names: without blanks around it, and in keeping with
the rules. -/
def Name.IsStored (name : String) : Prop := Text.trim name = name ∧ Name.broken? name = none

theorem Name.isStored_trim {name : String} (h : Name.broken? name = none) :
    Name.IsStored (Text.trim name) :=
  ⟨Text.trim_trim name, Name.broken?_trim h⟩

/-- What holds of an item that the service stores under an identifier. -/
structure Item.IsSound (k : Identifier) (x : Item) : Prop where
  id : x.id = k
  name : Name.IsStored x.name
  version : 1 ≤ x.version
  unmodified : x.updatedAt = none ↔ x.version = 1
  modified : ∀ u, x.updatedAt = some u → x.createdAt.le u = true

namespace Service
open Storage (Change Table)

variable {R : Type} {c : Course R} {t : Table} {now : Instant} {fresh k : Identifier}

/-! ## Names -/

/-- Whether a course may give an item a name. -/
inductive Course.Gives (name : String) : Course R → Prop
  | creation {reply} : Gives name (.creation name reply)
  | rename {id broken missing errand item reply} : errand item = .edit (.rename name) reply →
      Gives name (.lookup id broken missing errand)

theorem Course.gives_map {R' : Type} {f : R → R'} {name : String} (h : (c.map f).Gives name) :
    c.Gives name := by
  cases c with
  | refused a => cases h
  | creation given reply =>
    cases h
    exact .creation
  | listing window reply => cases h
  | lookup id broken missing errand =>
    cases h with
    | @rename _ _ _ _ item _ heq =>
      cases herrand : errand item with
      | answer a =>
        simp only [herrand] at heq
        cases heq
      | edit kind reply =>
        simp only [herrand] at heq
        cases heq
        exact .rename herrand

theorem isStored_of_createCourse {request : ItemMessage} {name : String}
    (h : (createCourse request).Gives name) : Name.IsStored name := by
  rw [createCourse] at h
  cases hcheck : request.checkCreate with
  | error failure =>
    rw [hcheck] at h
    cases h
  | ok _ =>
    rw [hcheck] at h
    cases h
    exact Name.isStored_trim (ItemMessage.checkCreate_eq_ok_iff.1 hcheck).1

theorem broken?_eq_none_of_updateTarget {request : ItemMessage} {id : Identifier}
    (h : updateTarget request = .ok id) : Name.broken? request.name = none := by
  rw [updateTarget] at h
  cases hcheck : request.checkUpdate with
  | error failure =>
    rw [hcheck] at h
    cases h
  | ok _ => exact (ItemMessage.checkUpdate_eq_ok_iff.1 hcheck).2

theorem isStored_of_updateCourse {request : ItemMessage} {name : String}
    (h : (updateCourse request).Gives name) : Name.IsStored name := by
  rw [updateCourse] at h
  cases htarget : updateTarget request with
  | error failure =>
    rw [htarget] at h
    cases h
  | ok id =>
    rw [htarget] at h
    cases h with
    | rename heq =>
      rw [renameErrand] at heq
      split at heq
      · cases heq
      · cases heq
        exact Name.isStored_trim (broken?_eq_none_of_updateTarget htarget)

theorem not_gives_pageCourse (query : PageQuery) (name : String) :
    ¬(pageCourse query).Gives name := by
  rw [pageCourse]
  intro h
  split at h <;> cases h

theorem not_gives_readCourse (key : ItemKey) (name : String) :
    ¬(readCourse key).Gives name := by
  rw [readCourse]
  intro h
  split at h
  · cases h
  · cases h with
    | rename heq => cases heq

theorem not_gives_deleteCourse (key : ItemKey) (name : String) :
    ¬(deleteCourse key).Gives name := by
  rw [deleteCourse]
  intro h
  split at h
  · cases h
  · cases h with
    | rename heq => cases heq

theorem isStored_of_methodCourse {name : String} (method : Method) (query : method.Query)
    (h : (methodCourse method query).Gives name) : Name.IsStored name := by
  cases method with
  | createItem =>
    rw [methodCourse] at h
    exact isStored_of_createCourse h
  | getItems =>
    rw [methodCourse] at h
    exact (not_gives_pageCourse query name h).elim
  | getItem =>
    rw [methodCourse] at h
    exact (not_gives_readCourse query name h).elim
  | updateItem =>
    rw [methodCourse] at h
    exact isStored_of_updateCourse h
  | deleteItem =>
    rw [methodCourse] at h
    exact (not_gives_deleteCourse query name h).elim

/-- Every name that a call may give an item is as the service stores names. -/
theorem Invocation.isStored_of_gives {i : Invocation} {name : String} (h : i.course.Gives name) :
    Name.IsStored name :=
  isStored_of_methodCourse i.method i.query (Course.gives_map h)

/-! ## What a call makes of an item -/

/-- What a call may make of what is stored under an identifier: `fresh` is the identifier that an
inserted item gets. -/
inductive Fate (c : Course R) (now : Instant) (fresh k : Identifier) :
    Option Item → Option Item → Prop
  | kept (y : Option Item) : Fate c now fresh k y y
  | inserted {name : String} : c.Gives name → k = fresh →
      Fate c now fresh k none (some (.created k name now))
  | renamed {x : Item} {name : String} : c.Gives name →
      Fate c now fresh k (some x) (some ({ x with name := name }.updated now))
  | removed (x : Item) : Fate c now fresh k (some x) none

/-- What a course makes of a table is one of these for every identifier. -/
theorem Course.fate (c : Course R) (hk : t.IsKeyed) (now : Instant) (fresh k : Identifier) :
    Fate c now fresh k (t.get? k) ((c.result t now fresh).2.get? k) := by
  cases c with
  | refused a => exact .kept _
  | listing window reply => exact .kept _
  | creation name reply =>
    rcases Table.get?_commit t now [.insert fresh name] k with hget | ⟨d, hd, ha, hid, hget⟩
    · rw [Course.result, hget]
      exact .kept _
    · rw [Course.result, hget]
      rw [List.mem_singleton.1 hd] at ha hid ⊢
      change fresh = k at hid
      subst hid
      rw [Table.accepts_insert.1 ha]
      exact .inserted .creation rfl
  | lookup id broken missing errand =>
    cases hg : t.get? id with
    | none =>
      simp only [Course.result, hg]
      exact .kept _
    | some item =>
      cases he : errand item with
      | answer a =>
        simp only [Course.result, hg, he]
        exact .kept _
      | edit kind reply =>
        simp only [Course.result, hg, he, Errand.result]
        rcases Table.get?_commit t now [kind.change item] k with hget | ⟨d, hd, _, hid, hget⟩
        · rw [hget]
          exact .kept _
        · rw [hget]
          rw [List.mem_singleton.1 hd] at hid ⊢
          have hown := hk id item hg
          cases kind with
          | rename name =>
            change item.id = k at hid
            rw [← hid, hown, hg]
            exact .renamed (.rename he)
          | remove =>
            change item.id = k at hid
            rw [← hid, hown, hg]
            exact .removed item

/-- What a call makes of a sound item is sound. -/
theorem Fate.isSound {y z : Option Item} (h : Fate c now fresh k y z)
    (hnames : ∀ name, c.Gives name → Name.IsStored name)
    (hy : ∀ x, y = some x → x.IsSound k) : ∀ x, z = some x → x.IsSound k := by
  intro x hx
  cases h with
  | kept => exact hy x hx
  | inserted hname _ =>
    cases hx
    exact ⟨rfl, hnames _ hname, Int.le_refl 1, iff_of_true rfl rfl, nofun⟩
  | @renamed x' name hname =>
    cases hx
    have hs := hy x' rfl
    have hversion := hs.version
    refine ⟨hs.id, hnames _ hname, ?_, iff_of_false nofun ?_, ?_⟩
    · change 1 ≤ x'.version + 1
      omega
    · change x'.version + 1 ≠ 1
      omega
    · intro u hu
      cases hu
      exact Instant.le_latest_right now x'.createdAt
  | removed => cases hx

/-- While an item is stored it keeps its creation time, and its version does not fall. -/
theorem Fate.grows {x y : Item} (h : Fate c now fresh k (some x) (some y)) :
    y.createdAt = x.createdAt ∧ x.version ≤ y.version := by
  cases h with
  | kept => exact ⟨rfl, Int.le_refl _⟩
  | renamed _ =>
    refine ⟨rfl, ?_⟩
    change x.version ≤ x.version + 1
    omega

end Service
end ItemCatalog
