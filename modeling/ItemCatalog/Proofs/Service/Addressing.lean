import ItemCatalog.Proofs.Service.Course
import ItemCatalog.Proofs.Spelling

/-!
# Items by the spelling of their identifiers

Callers may spell an identifier in four ways and in any case, between blanks. Main statement:
`spelling_immaterial`, by which these are just the texts that are accepted, and no method treats two
spellings of one identifier differently.
-/

namespace ItemCatalog.Service
open Storage (Backend Table)

/-- Calls that follow one course are answered alike and leave the same store. -/
theorem run_congr {σ R : Type} {p q : Serving R} {c c' : Course R}
    (hp : p.Follows c.plan) (hq : q.Follows c'.plan) (h : c = c') (b : Backend σ)
    (w : Surroundings σ) :
    (w.run b p).1 = (w.run b q).1 ∧ (w.run b p).2.store = (w.run b q).2.store := by
  subst h
  obtain ⟨hreply, halike⟩ := Surroundings.run_of_follows hp b (Surroundings.Alike.refl w)
  obtain ⟨hreply', halike'⟩ := Surroundings.run_of_follows hq b (Surroundings.Alike.refl w)
  rw [hreply, hreply', halike.store, halike'.store]
  exact ⟨rfl, rfl⟩

theorem updateTarget_congr {m n : ItemMessage} {id : Identifier} (hname : m.name = n.name)
    (h : id.IsSpelledBy (Text.trim m.id)) (h' : id.IsSpelledBy (Text.trim n.id)) :
    updateTarget m = updateTarget n := by
  rw [updateTarget, updateTarget, ItemMessage.checkUpdate_congr hname h h',
    Identifier.require_congr h h']

/-! ## Courses -/

section Courses
variable {key key' : ItemKey} {m n : ItemMessage} {id : Identifier}

theorem readCourse_congr (h : id.IsSpelledBy (Text.trim key.id))
    (h' : id.IsSpelledBy (Text.trim key'.id)) : readCourse key = readCourse key' := by
  rw [readCourse, readCourse, Identifier.require_congr h h']

theorem updateCourse_congr (hname : m.name = n.name) (h : id.IsSpelledBy (Text.trim m.id))
    (h' : id.IsSpelledBy (Text.trim n.id)) : updateCourse m = updateCourse n := by
  rw [updateCourse, updateCourse, updateTarget_congr hname h h', hname]

theorem deleteCourse_congr (h : id.IsSpelledBy (Text.trim key.id))
    (h' : id.IsSpelledBy (Text.trim key'.id)) : deleteCourse key = deleteCourse key' := by
  rw [deleteCourse, deleteCourse, Identifier.require_congr h h']

/-! ## Methods -/

variable {σ : Type}

theorem run_getOne_congr (h : id.IsSpelledBy (Text.trim key.id))
    (h' : id.IsSpelledBy (Text.trim key'.id)) (b : Backend σ) (w : Surroundings σ) (call : Call) :
    (w.run b (getOne call key)).1 = (w.run b (getOne call key')).1 ∧
      (w.run b (getOne call key)).2.store = (w.run b (getOne call key')).2.store := by
  have hfollows : ∀ key, (getOne call key).Follows (readCourse key).plan :=
    follows_handle .getItem call
  exact run_congr (hfollows key) (hfollows key') (readCourse_congr h h') b w

theorem run_update_congr (hname : m.name = n.name) (h : id.IsSpelledBy (Text.trim m.id))
    (h' : id.IsSpelledBy (Text.trim n.id)) (b : Backend σ) (w : Surroundings σ) (call : Call) :
    (w.run b (update call m)).1 = (w.run b (update call n)).1 ∧
      (w.run b (update call m)).2.store = (w.run b (update call n)).2.store := by
  have hfollows : ∀ m, (update call m).Follows (updateCourse m).plan :=
    follows_handle .updateItem call
  exact run_congr (hfollows m) (hfollows n) (updateCourse_congr hname h h') b w

theorem run_delete_congr (h : id.IsSpelledBy (Text.trim key.id))
    (h' : id.IsSpelledBy (Text.trim key'.id)) (b : Backend σ) (w : Surroundings σ) (call : Call) :
    (w.run b (delete call key)).1 = (w.run b (delete call key')).1 ∧
      (w.run b (delete call key)).2.store = (w.run b (delete call key')).2.store := by
  have hfollows : ∀ key, (delete call key).Follows (deleteCourse key).plan :=
    follows_handle .deleteItem call
  exact run_congr (hfollows key) (hfollows key') (deleteCourse_congr h h') b w

end Courses

/-- A field yields an identifier just when it is one of the four forms of it, in any case and
between blanks, and the identifier is not nil; a printed identifier yields itself. An update passes
its checks with a proper name and such a field, or with a spelling of nil. So however an identifier
is spelled, reading, renaming and deleting the item of that identifier give the same answer or the
same failure and leave the same store. -/
theorem spelling_immaterial :
    (∀ (s field : String) (id : Identifier), Identifier.require s field = .ok id ↔
      (∃ spelling : Identifier.Spelling, Text.lower (Text.trim s) = spelling.form id) ∧
        id ≠ .nil) ∧
    (∀ (id : Identifier) (field : String), id ≠ .nil →
      Identifier.require id.text field = .ok id) ∧
    (∀ (m : ItemMessage) (field : String), m.checkUpdate = .ok () ↔ Name.broken? m.name = none ∧
      ((∃ id, Identifier.require m.id field = .ok id) ∨
        ∃ spelling : Identifier.Spelling, Text.lower (Text.trim m.id) = spelling.form .nil)) ∧
    ∀ (s s' : String) (id : Identifier),
      (∃ spelling : Identifier.Spelling, Text.lower (Text.trim s) = spelling.form id) →
      (∃ spelling : Identifier.Spelling, Text.lower (Text.trim s') = spelling.form id) →
      ∀ (σ : Type) (b : Backend σ) (w : Surroundings σ) (call : Call) (name : String),
        ((w.run b (getOne call ⟨s⟩)).1 = (w.run b (getOne call ⟨s'⟩)).1 ∧
          (w.run b (getOne call ⟨s⟩)).2.store = (w.run b (getOne call ⟨s'⟩)).2.store) ∧
        ((w.run b (update call { id := s, name })).1 =
            (w.run b (update call { id := s', name })).1 ∧
          (w.run b (update call { id := s, name })).2.store =
            (w.run b (update call { id := s', name })).2.store) ∧
        (w.run b (delete call ⟨s⟩)).1 = (w.run b (delete call ⟨s'⟩)).1 ∧
          (w.run b (delete call ⟨s⟩)).2.store = (w.run b (delete call ⟨s'⟩)).2.store := by
  refine ⟨fun _ _ _ => Identifier.require_eq_ok_iff,
    fun _ field hid => Identifier.require_text hid field,
    fun m field => m.checkUpdate_eq_ok_iff_require field, ?_⟩
  intro s s' id h h' σ b w call name
  exact ⟨run_getOne_congr h h' b w call,
    run_update_congr (m := { id := s, name }) (n := { id := s', name }) rfl h h' b w call,
    run_delete_congr h h' b w call⟩

/-- An identifier in braces and capitals, between blanks. -/
def bracedText : String := "\u2003{00000000-0000-4000-8000-00000000000A} "

/-- The same identifier as a uniform resource name. -/
def resourceText : String := "urn:UUID:00000000-0000-4000-8000-00000000000a"

/-- The only item of a table is deleted by either text. -/
theorem bracedText_deletes_like_resourceText :
    let w := opening (Table.empty.commit ⟨5, 0⟩ [.insert (.ofRandom 10) "a"]).2 ⟨9, 0⟩ 0
    let call := Call.start Method.deleteItem.path .empty .nil
    w.store.size = 1 ∧ Identifier.require bracedText "id" = .ok (.ofRandom 10) ∧
      (w.run Table.backend (delete call ⟨bracedText⟩)).1 =
        (w.run Table.backend (delete call ⟨resourceText⟩)).1 ∧
      (w.run Table.backend (delete call ⟨bracedText⟩)).2.store =
        (w.run Table.backend (delete call ⟨resourceText⟩)).2.store ∧
      (w.run Table.backend (delete call ⟨resourceText⟩)).2.store.size = 0 := by
  intro w call
  obtain ⟨hreads, -, -, halike⟩ := spelling_immaterial
  have hbraced : ∃ spelling : Identifier.Spelling,
      Text.lower (Text.trim bracedText) = spelling.form (.ofRandom 10) :=
    ⟨.braced, by decide +kernel⟩
  have hresource : ∃ spelling : Identifier.Spelling,
      Text.lower (Text.trim resourceText) = spelling.form (.ofRandom 10) :=
    ⟨.urn, by decide +kernel⟩
  obtain ⟨-, -, hanswer, hstore⟩ :=
    halike _ _ _ hbraced hresource Table Table.backend w call ""
  exact ⟨by decide +kernel, (hreads _ _ _).2 ⟨hbraced, Identifier.ofRandom_ne_nil 10⟩, hanswer,
    hstore, by decide +kernel⟩

end ItemCatalog.Service
