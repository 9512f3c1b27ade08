import ItemCatalog.Proofs.Json.Written
import ItemCatalog.Proofs.Message.Check
import ItemCatalog.Proofs.Metadata
import Mathlib.Data.List.Induction

/-!
# Errors by field on their way to the caller

Main statements: what is collected from any additions (`mem_entries_ofList`), that it is read back
from its JSON form (`parse?_json`), and when that form can travel beside a status
(`isStorable_json_ofList`). `collected_reach_caller` puts them together.

## Main definitions

* `Json.isClear`: a text that can be stored once it has been written.
* `FieldErrors.messagesFor`: the messages of one field among some additions.
* `FieldErrors.marks`: the marks between the texts of the JSON form.
-/

namespace ItemCatalog

/-! ## Written characters -/

namespace Json
open Metadata (isAllowed)
open Text (isPrintable)

/-- Whether a text is free of the one control character that is written as it is. -/
def isClear (s : String) : Bool := s.toList.all (· != '\x7F')

theorem isClear_iff {s : String} : isClear s = true ↔ '\x7F' ∉ s.toList := by
  simp only [isClear, List.all_eq_true, bne_iff_ne, List.forall_mem_ne']

theorem all_isPrintable_escape :
    ∀ n < 0x20, (['\\', 'u'] ++ Text.Hex.encode 4 n).all isPrintable = true := by
  decide

/-- A character is written as it is, or as an escape that can be read. Low control characters are
escaped; the last one of ASCII is not, and nor is anything beyond ASCII. -/
theorem quoteChar_cases (c : Char) :
    quoteChar c = [c] ∧ 0x20 ≤ c.toNat ∨
      (quoteChar c).all isPrintable = true ∧ c.toNat < 0x7F := by
  unfold quoteChar
  iterate 7
    split
    · next hc => subst hc; exact Or.inr ⟨rfl, by decide⟩
  split
  · next hcontrol => exact Or.inr ⟨all_isPrintable_escape _ hcontrol, by omega⟩
  · next hcontrol => exact Or.inl ⟨rfl, by omega⟩

/-- Of all characters only the last control character of ASCII is written so that it cannot be
stored. -/
theorem all_isAllowed_quoteChar (c : Char) : (quoteChar c).all isAllowed = (c != '\x7F') := by
  have hcode : ('\x7F').toNat = 0x7F := rfl
  rw [Bool.eq_iff_iff, bne_iff_ne, ← Char.toNat_inj.ne, hcode]
  rcases quoteChar_cases c with ⟨hself, hlow⟩ | ⟨hescaped, hlow⟩
  · simp [hself, Metadata.isAllowed_iff]
    omega
  · refine iff_of_true (List.all_eq_true.2 fun d hd => ?_) (by omega)
    exact Metadata.isAllowed_of_isPrintable (List.all_eq_true.1 hescaped d hd)

/-- A character is written so that it can be read if it belongs to ASCII, and is not the last
control character there. -/
theorem all_isPrintable_quoteChar (c : Char) :
    (quoteChar c).all isPrintable = decide (c.toNat < 0x7F) := by
  rw [Bool.eq_iff_iff, decide_eq_true_iff]
  rcases quoteChar_cases c with ⟨hself, hlow⟩ | ⟨hescaped, hlow⟩
  · simp [hself, Text.isPrintable_iff]
    omega
  · exact iff_of_true hescaped hlow

section
variable {p : Char → Bool}

theorem all_quote (hmark : p '"' = true) (s : String) :
    (quote s).all p = s.toList.all fun c => (quoteChar c).all p := by
  simp [quote, hmark, List.all_flatMap]

theorem all_intercalate {sep : List Char} (hsep : sep.all p = true) (parts : List (List Char)) :
    (sep.intercalate parts).all p = parts.all (·.all p) := by
  induction parts with
  | nil => rfl
  | cons part parts ih =>
    cases parts with
    | nil => simp
    | cons next parts =>
      rw [List.intercalate_cons_cons, List.all_append, List.all_append, ih, hsep, Bool.and_true,
        List.all_cons (l := next :: parts)]

theorem all_enclose {opening closing : Char} (hopening : p opening = true)
    (hclosing : p closing = true) (hcomma : p ',' = true) (parts : List (List Char)) :
    (enclose opening closing parts).all p = parts.all (·.all p) := by
  rw [enclose, List.all_append, List.all_cons, all_intercalate (by simp [hcomma])]
  simp [hopening, hclosing]

end

end Json

namespace FieldErrors
variable {adds : List (String × String)} {field : String} {messages : List String}

/-! ## Collected errors -/

/-- The messages that are added for a field, in order. -/
def messagesFor (adds : List (String × String)) (field : String) : List String :=
  (adds.filter (·.1 = field)).map (·.2)

theorem messagesFor_concat (a : String × String) :
    messagesFor (adds ++ [a]) field =
      messagesFor adds field ++ if a.1 = field then [a.2] else [] := by
  rw [messagesFor, List.filter_append, List.map_append, messagesFor]
  split <;> simp [*]

theorem mem_messagesFor {message : String} :
    message ∈ messagesFor adds field ↔ (field, message) ∈ adds := by
  simp [messagesFor]

theorem ofList_concat (adds : List (String × String)) (a : String × String) :
    ofList (adds ++ [a]) = (ofList adds).add a.1 a.2 := by
  rw [ofList, List.foldl_append]
  rfl

theorem get?_ofList (adds : List (String × String)) (field : String) :
    (ofList adds).get? field =
      if messagesFor adds field = [] then none else some (messagesFor adds field) := by
  induction adds using List.reverseRecOn with
  | nil => rfl
  | append_singleton adds a ih =>
    rw [ofList_concat, get?_add, messagesFor_concat]
    by_cases h : field = a.1
    · subst h
      rw [if_pos rfl, if_pos rfl, if_neg (by simp), ih]
      split <;> simp [*]
    · rw [if_neg h, if_neg (Ne.symm h), List.append_nil, ih]

/-- A field has an entry just when something is added for it, and then the entry is all of that. -/
theorem mem_entries_ofList :
    (field, messages) ∈ (ofList adds).entries ↔
      messages ≠ [] ∧ messages = messagesFor adds field := by
  rw [Ordered.mem_entries_iff, get?_ofList]
  split <;> grind

theorem isEmpty_ofList : (ofList adds).isEmpty = true ↔ adds = [] := by
  induction adds using List.reverseRecOn with
  | nil => exact iff_of_true rfl rfl
  | append_singleton adds a _ => simp [ofList_concat, isEmpty_add]

/-! ## The JSON form -/

/-- The JSON form of errors is read back as their entries. -/
theorem parse?_json (errors : FieldErrors) :
    (Json.parse? (Text.bytes errors.json)).bind (Json.membersOf? Json.texts?) =
      some errors.entries := by
  have htexts (messages : List String) : Json.IsWritten Json.texts? messages
      (Json.enclose '[' ']' (messages.map Json.quote)) :=
    Json.isWritten_list (fun _ => rfl) Json.isWritten_quote messages
  exact (Json.isWritten_members htexts errors.entries).parse?

/-- The marks of the JSON form. -/
def marks : List Char := ['{', '}', '[', ']', ':', ',', '"']

/-- What holds of the marks holds of the whole JSON form just if it holds of what each character of
its fields and messages is written as. -/
theorem all_json {p : Char → Bool} (hmarks : marks.all p = true) (errors : FieldErrors) :
    errors.json.toList.all p = errors.entries.all fun e =>
      (e.1 :: e.2).all fun s => s.toList.all fun c => (Json.quoteChar c).all p := by
  simp only [marks, List.all_cons, List.all_nil, Bool.and_true, Bool.and_eq_true] at hmarks
  obtain ⟨hopen, hclose, hfirst, hlast, hcolon, hcomma, hquote⟩ := hmarks
  rw [json, String.toList_ofList, Json.all_enclose hopen hclose hcomma, List.all_map]
  refine congrArg errors.entries.all (funext fun e => ?_)
  rw [Function.comp_apply, List.all_append, List.all_cons, hcolon, Bool.true_and,
    Json.all_quote hquote, Json.all_enclose hfirst hlast hcomma, List.all_map, List.all_cons]
  exact congrArg (_ && e.2.all ·) (funext (Json.all_quote hquote))

/-! ## In metadata -/

theorem isStorable_json (errors : FieldErrors) :
    (Text.bytes errors.json).all Metadata.isStorable =
      errors.entries.all fun e => Json.isClear e.1 && e.2.all Json.isClear := by
  rw [Metadata.all_isStorable, all_json rfl]
  simp only [Json.all_isAllowed_quoteChar, List.all_cons]
  rfl

/-- What is collected can be stored just when everything that was added can. -/
theorem isStorable_json_ofList :
    (Text.bytes (ofList adds).json).all Metadata.isStorable = true ↔
      ∀ a ∈ adds, '\x7F' ∉ a.1.toList ∧ '\x7F' ∉ a.2.toList := by
  simp only [isStorable_json, List.all_eq_true, Bool.and_eq_true, Json.isClear_iff]
  constructor
  · intro h a ha
    have hmessage : a.2 ∈ messagesFor adds a.1 := mem_messagesFor.2 ha
    obtain ⟨hfield, hmessages⟩ := h (a.1, messagesFor adds a.1)
      (mem_entries_ofList.2 ⟨List.ne_nil_of_mem hmessage, rfl⟩)
    exact ⟨hfield, hmessages a.2 hmessage⟩
  · rintro h ⟨field, messages⟩ he
    obtain ⟨hne, rfl⟩ := mem_entries_ofList.1 he
    obtain ⟨message, hmessage⟩ := List.exists_mem_of_ne_nil _ hne
    exact ⟨(h _ (mem_messagesFor.1 hmessage)).1,
      fun m hm => (h _ (mem_messagesFor.1 hm)).2⟩

/-- The status of errors carries their JSON form and nothing else under its name, if that can be
stored. -/
theorem values_status (errors : FieldErrors) :
    (Failure.invalidFields errors).status.metadata.values "validation-errors" =
      if (Text.bytes errors.json).all Metadata.isStorable then [Text.bytes errors.json]
      else [] := by
  change ((Metadata.empty.set "error-code" "VALIDATION_ERROR").set "validation-errors"
    errors.json).values "validation-errors" = _
  rw [Metadata.values_set_self, Metadata.values_set_of_ne _ (by decide)]
  rfl

/-- Whatever messages are added for whatever fields, and in whatever order: each field for which
something was added has one entry with its messages in the order in which they were added, and the
entries are in ascending order of their fields. They are a failure unless nothing was added. Their
JSON form is read back as exactly those entries, and it is what the status of the failure carries,
unless a field or a message contains the character U+007F: then the status carries no such entry. -/
theorem collected_reach_caller (adds : List (String × String)) :
    let errors := ofList adds
    errors.entries.Pairwise (fun a b => a.1 < b.1) ∧
    (∀ field messages, (field, messages) ∈ errors.entries ↔
      messages ≠ [] ∧ messages = (adds.filter (·.1 = field)).map (·.2)) ∧
    (errors.result = .ok () ↔ adds = []) ∧
    (adds ≠ [] → errors.result = .error (.invalidFields errors)) ∧
    (Json.parse? (Text.bytes errors.json)).bind (Json.membersOf? Json.texts?) =
      some errors.entries ∧
    (Failure.invalidFields errors).status.metadata.values "validation-errors" =
      if ∀ a ∈ adds, '\x7F' ∉ a.1.toList ∧ '\x7F' ∉ a.2.toList then [Text.bytes errors.json]
      else [] := by
  intro errors
  have hresult : errors.result = .ok () ↔ adds = [] := result_eq_ok_iff.trans isEmpty_ofList
  refine ⟨errors.ascending, fun field messages => mem_entries_ofList, hresult, fun hadds => ?_,
    parse?_json errors, ?_⟩
  · have hempty : ¬ errors.isEmpty = true := mt isEmpty_ofList.1 hadds
    rw [result, if_neg hempty]
  · rw [values_status, if_congr isStorable_json_ofList rfl rfl]

/-- A quote, a line feed and a character beyond ASCII, in messages for two fields. -/
def unlikelyAdds : List (String × String) :=
  [("Name", "say \"a\"\n"), ("Id", "\u00e9"), ("Name", "b")]

/-- They reach the caller. -/
theorem unlikelyAdds_reach_caller :
    (ofList unlikelyAdds).result = .error (.invalidFields (ofList unlikelyAdds)) ∧
    (Json.parse? (Text.bytes (ofList unlikelyAdds).json)).bind (Json.membersOf? Json.texts?) =
      some [("Id", ["\u00e9"]), ("Name", ["say \"a\"\n", "b"])] ∧
    (Failure.invalidFields (ofList unlikelyAdds)).status.metadata.values "validation-errors" =
      [Text.bytes (ofList unlikelyAdds).json] := by
  obtain ⟨-, -, -, hresult, hparse, hvalues⟩ := collected_reach_caller unlikelyAdds
  have hentries : (ofList unlikelyAdds).entries =
      [("Id", ["\u00e9"]), ("Name", ["say \"a\"\n", "b"])] := by decide +kernel
  rw [if_pos (by decide +kernel)] at hvalues
  exact ⟨hresult (List.cons_ne_nil _ _), hparse.trans (congrArg some hentries), hvalues⟩

end FieldErrors
end ItemCatalog
