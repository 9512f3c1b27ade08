import ItemCatalog.Proofs.Service.Dialogue
import ItemCatalog.Proofs.Service.Fate
import ItemCatalog.Proofs.Spelling

/-!
# Names that come back

A name may be checked with blanks around it and is stored without them, so a caller who reads an
item and submits what was read does not submit what was accepted before. Main statement:
`accepted_names_return`, by which the rules of names are exact, and a name that was stored is
accepted again and found to be the same.
-/

namespace ItemCatalog.Service
open Storage (Request Table)

variable {c : Circumstances} {call : Call} {request : ItemMessage} {id : Identifier} {item : Item}
  {name : String}

/-! ## What is stored of a name -/

/-- A creation asks storage to keep the name that was checked, without the blanks around it. -/
theorem name_of_mem_asked_create (h : .save name ∈ (c.run (create call request)).2.asked) :
    name = Text.trim request.name ∧ Name.broken? request.name = none := by
  have hscript : (createScript c request).Holds (c.run (create call request)) :=
    (run_handle .createItem call request (c := c)) ▸ holds_createCourse request
  cases hcheck : request.checkCreate with
  | error failure =>
    rw [hscript.refused failure hcheck] at h
    cases h
  | ok target =>
    rw [hscript.asked target hcheck] at h
    exact ⟨by simpa [createScript] using h, (ItemMessage.checkCreate_eq_ok_iff.1 hcheck).1⟩

/-- An update goes by its script. -/
theorem holds_update (c : Circumstances) (call : Call) (request : ItemMessage) :
    (updateScript c request).Holds (c.run (update call request)) :=
  (run_handle .updateItem call request (c := c)) ▸ holds_updateCourse request

/-- An update asks storage to keep the name that was checked, without the blanks around it. -/
theorem name_of_mem_asked_update (h : .update item ∈ (c.run (update call request)).2.asked) :
    item.name = Text.trim request.name ∧ Name.broken? request.name = none := by
  have hscript := holds_update c call request
  cases htarget : updateTarget request with
  | error failure =>
    rw [hscript.refused failure ((checked_updateScript request).trans htarget)] at h
    cases h
  | ok id =>
    refine ⟨?_, broken?_eq_none_of_updateTarget htarget⟩
    rw [hscript.asked id ((checked_updateScript request).trans htarget), updateScript] at h
    cases hfound : c.found? id with
    | none => simp [hfound] at h
    | some found =>
      by_cases hsame : found.name = Text.trim request.name
      · simp [hfound, hsame] at h
      · have hitem : item = { found with name := Text.trim request.name } := by
          simpa [hfound, hsame] using h
        rw [hitem]

/-! ## What is found again -/

theorem updateTarget_eq_ok (hname : Name.broken? request.name = none)
    (hid : Identifier.require request.id Field.id = .ok id) : updateTarget request = .ok id := by
  have hcheck : request.checkUpdate = .ok () :=
    (request.checkUpdate_eq_ok_iff_require Field.id).2 ⟨hname, .inl ⟨id, hid⟩⟩
  rw [updateTarget, hcheck]
  exact hid

/-- An update to the name that an item has answers with the item and changes nothing. -/
theorem run_update_of_same (htarget : updateTarget request = .ok id)
    (hfound : c.found? id = some item) (hname : item.name = Text.trim request.name) :
    (c.run (update call request)).1 = .ok ⟨some (.ofItem item)⟩ ∧
      (c.run (update call request)).2.asked = [.start, .find id] := by
  have hscript := holds_update c call request
  have hchecked := (checked_updateScript request (c := c)).trans htarget
  constructor
  · rw [hscript.answered id hchecked]
    exact ⟨item, hfound, item, if_pos hname, rfl⟩
  · rw [hscript.asked id hchecked]
    simp [updateScript, hfound, hname]

theorem run_getOne_of_found {key : ItemKey} (hid : Identifier.require key.id Field.id = .ok id)
    (hfound : c.found? id = some item) :
    (c.run (getOne call key)).1 = .ok ⟨some (.ofItem item)⟩ := by
  have hscript : (readScript c key).Holds (c.run (getOne call key)) :=
    (run_handle .getItem call key (c := c)) ▸ holds_readCourse key
  rw [hscript.answered id ((checked_readScript key).trans hid)]
  exact ⟨item, hfound, rfl⟩

/-- A name is accepted just if it has a character that is no blank, at most a hundred characters,
and none but ASCII letters and digits, blanks, hyphens, underscores and dots; every other name is
turned away for the first rule that it breaks, in words of its own. An accepted name without the
blanks around it is not empty, is accepted, and has no more blanks to lose. This is the name that a
creation or an update asks storage to keep. So whatever storage does, if it finds an item under such
a name, and not under the nil identifier, which is never drawn, the item is read as it is; and an
update that submits the identifier and the name in that reply is accepted, answers with the same
item, and asks storage for nothing but to find it. -/
theorem accepted_names_return :
    (∀ s, Name.broken? s = none ↔ (∃ c ∈ s.toList, Text.isBlank c = false) ∧ s.length ≤ 100 ∧
      ∀ c ∈ s.toList, Name.MayHold c) ∧
    (∀ s rule, Name.broken? s = some rule ↔ rule.IsBrokenBy s ∧ ∃ before after,
      [.blank, .tooLong, .badCharacter] = before ++ rule :: after ∧
        ∀ earlier ∈ before, ¬earlier.IsBrokenBy s) ∧
    Function.Injective Name.Rule.message ∧
    (∀ s, Name.broken? s = none →
      Text.trim s ≠ "" ∧ Name.broken? (Text.trim s) = none ∧
        Text.trim (Text.trim s) = Text.trim s) ∧
    (∀ (c : Circumstances) (call : Call) (request : ItemMessage) (name : String),
      .save name ∈ (c.run (create call request)).2.asked →
        name = Text.trim request.name ∧ Name.broken? request.name = none) ∧
    (∀ (c : Circumstances) (call : Call) (request : ItemMessage) (item : Item),
      .update item ∈ (c.run (update call request)).2.asked →
        item.name = Text.trim request.name ∧ Name.broken? request.name = none) ∧
    ∀ s, Name.broken? s = none → ∀ (c : Circumstances) (item : Item),
      c.found? item.id = some item → item.id ≠ .nil → item.name = Text.trim s →
        ∀ call : Call, (c.run (getOne call ⟨item.id.text⟩)).1 = .ok ⟨some (.ofItem item)⟩ ∧
          (ItemMessage.ofItem item).name = Text.trim s ∧
          ∀ request : ItemMessage, request.id = (ItemMessage.ofItem item).id →
            request.name = (ItemMessage.ofItem item).name →
            (c.run (update call request)).1 = .ok ⟨some (.ofItem item)⟩ ∧
            (c.run (update call request)).2.asked = [.start, .find item.id] := by
  refine ⟨fun _ => Name.broken?_eq_none_iff_chars, fun _ _ => Name.broken?_eq_some_iff,
    Name.Rule.message_injective, ?closed, fun _ _ _ _ => name_of_mem_asked_create,
    fun _ _ _ _ => name_of_mem_asked_update, ?found⟩
  case closed =>
    intro s h
    refine ⟨fun hempty => ?_, Name.broken?_trim h, Text.trim_trim s⟩
    exact Name.broken?_eq_none_iff.1 h .blank (Text.trim_eq_empty_iff.1 hempty)
  case found =>
    intro s hs c item hfound hid hname call
    have hread : Identifier.require item.id.text Field.id = .ok item.id :=
      Identifier.require_text hid Field.id
    have hshown : (ItemMessage.ofItem item).name = Text.trim s := hname
    refine ⟨run_getOne_of_found hread hfound, hshown, fun request hrequest hsubmitted => ?_⟩
    have haccepted : Name.broken? request.name = none := by
      rw [hsubmitted, hshown]
      exact Name.broken?_trim hs
    have hsame : item.name = Text.trim request.name := by
      rw [hsubmitted, hshown, Text.trim_trim, hname]
    have hid' : Identifier.require request.id Field.id = .ok item.id := by
      rw [hrequest]
      exact hread
    exact run_update_of_same (updateTarget_eq_ok haccepted hid') hfound hsame

/-- A name between an em space and a tab. -/
def paddedName : String := "\u2003Lamp 1.\t"

/-- What a call meets over a table at a given time. -/
def meeting (now : Instant) (t : Table) : Circumstances :=
  .over Table.backend now (.ofRandom 1#128) t (fun _ => 1#128) fun _ => 0

/-- One item is created and another one renamed under the name between its blanks, and each is found
to have the name that is read and submitted. -/
theorem paddedName_returns :
    let call := Call.start "" .empty .nil
    let now : Instant := ⟨5, 0⟩
    let lamp := Item.created (.ofRandom 1) "Lamp 1." now
    let torch := Item.created (.ofRandom 1) "Torch" now
    let t := Table.empty.insert lamp.id lamp
    let t' := Table.empty.insert torch.id torch
    Name.broken? paddedName = none ∧
      .save lamp.name ∈ ((meeting now .empty).run (create call { name := paddedName })).2.asked ∧
      .update lamp ∈
        ((meeting now t').run (update call { id := torch.id.text, name := paddedName })).2.asked ∧
      lamp.name = Text.trim paddedName ∧
      ((meeting now t).run (update call { id := lamp.id.text, name := lamp.name })).1 =
        .ok ⟨some (.ofItem lamp)⟩ ∧
      ((meeting now t).run (update call { id := lamp.id.text, name := lamp.name })).2.asked =
        [.start, .find lamp.id] := by
  intro call now lamp torch t t'
  obtain ⟨-, -, -, -, hcreated, hrenamed, hfound⟩ := accepted_names_return
  have hsaved : .save lamp.name ∈
      ((meeting now .empty).run (create call { name := paddedName })).2.asked := by
    decide +kernel
  have hstaged : .update lamp ∈
      ((meeting now t').run (update call { id := torch.id.text, name := paddedName })).2.asked := by
    decide +kernel
  have haccepted := (hcreated _ _ _ _ hsaved).2
  have hname := (hrenamed _ _ _ _ hstaged).1
  have hthere : (meeting now t).found? lamp.id = some lamp := by decide +kernel
  obtain ⟨-, -, hsubmitted⟩ := hfound paddedName haccepted (meeting now t) lamp hthere
    (Identifier.ofRandom_ne_nil 1) hname call
  exact ⟨haccepted, hsaved, hstaged, hname,
    hsubmitted { id := lamp.id.text, name := lamp.name } rfl rfl⟩

end ItemCatalog.Service
