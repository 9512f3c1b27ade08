import ItemCatalog.Failure
import ItemCatalog.Proofs.FieldErrors

/-!
# What metadata say of a fault

A fault is described to the caller by texts under names. A text with a control character is left
out; a text beyond ASCII is not, although no reader of texts can make anything of it. Main
statement: which texts become values of the metadata, which of them are read back, and when there is
a value that is not (`described_in_metadata`).

## Main definitions

* `Metadata.isIllegible`: a text is stored, but cannot be read.
* `Fault.described`: the texts that describe a fault, by name.
-/

namespace ItemCatalog

namespace Metadata
variable {s : String}

/-- Whether a text is stored although it cannot be read: without control characters, tabs apart, but
not within ASCII. -/
def isIllegible (s : String) : Bool :=
  s.toList.all isAllowed && s.toList.any fun c => 128 ≤ c.toNat

theorem isPrintable_iff_of_isAllowed {c : Char} (h : isAllowed c = true) :
    Text.isPrintable c = true ↔ c.toNat < 128 := by
  rw [isAllowed_iff] at h
  rw [Text.isPrintable_iff]
  omega

/-- What is stored and not illegible can be read. -/
theorem isIllegible_eq_false_iff :
    isIllegible s = false ↔
      (s.toList.all isAllowed = true → s.toList.all Text.isPrintable = true) := by
  by_cases h : s.toList.all isAllowed = true
  · have hallowed := List.all_eq_true.1 h
    simp only [isIllegible, h, Bool.true_and, List.any_eq_false, decide_eq_true_eq, Nat.not_le,
      forall_const, List.all_eq_true]
    exact forall₂_congr fun c hc => (isPrintable_iff_of_isAllowed (hallowed c hc)).symm
  · simp [isIllegible, h]

end Metadata

namespace FieldErrors

/-- The fields with errors and all their messages. -/
def texts (errors : FieldErrors) : List String := errors.entries.flatMap fun e => e.1 :: e.2

/-- What the JSON form consists of is decided by what the characters of the texts are written as. -/
theorem all_json_texts {p : Char → Bool} (hmarks : marks.all p = true) (errors : FieldErrors) :
    errors.json.toList.all p =
      errors.texts.all fun s => s.toList.all fun c => (Json.quoteChar c).all p := by
  rw [all_json hmarks, texts, List.all_flatMap]

/-- The JSON form can be stored just if the last control character of ASCII does not occur. -/
theorem all_isAllowed_json (errors : FieldErrors) :
    errors.json.toList.all Metadata.isAllowed = true ↔
      ∀ s ∈ errors.texts, '\x7F' ∉ s.toList := by
  rw [all_json_texts rfl]
  simp only [Json.all_isAllowed_quoteChar, List.all_eq_true, bne_iff_ne, List.forall_mem_ne']

/-- The JSON form can be read just if nothing beyond ASCII occurs in it either. -/
theorem all_isPrintable_json (errors : FieldErrors) :
    errors.json.toList.all Text.isPrintable = true ↔
      ∀ s ∈ errors.texts, ∀ c ∈ s.toList, c.toNat < 0x7F := by
  rw [all_json_texts rfl]
  simp only [Json.all_isPrintable_quoteChar, List.all_eq_true, decide_eq_true_eq]

end FieldErrors

namespace Fault
variable {fault : Fault}

/-- The texts that describe a fault to its caller, by name. One that is a status already is not
described. -/
def described : Fault → List (String × String)
  | .failure f => ("error-code", f.errorCode) :: f.details
  | .unclassified kind _ => [("error-code", "INTERNAL_ERROR"), ("exception-type", kind)]
  | .status _ => []

theorem nodup_described (fault : Fault) : (fault.described.map (·.1)).Nodup := by
  cases fault with
  | failure f => cases f <;> simp [described, Failure.details]
  | status s => exact List.nodup_nil
  | unclassified kind message => simp [described]

theorem metadata_toStatus (h : ∀ status, fault ≠ .status status) :
    fault.toStatus.metadata = fault.described.foldl (fun m e => m.set e.1 e.2) .empty := by
  cases fault with
  | failure f => rfl
  | status s => exact absurd rfl (h s)
  | unclassified kind message => rfl

theorem entries_toStatus (h : ∀ status, fault ≠ .status status) :
    fault.toStatus.metadata.entries =
      (fault.described.filter fun e => e.2.toList.all Metadata.isAllowed).map
        fun e => (e.1, Text.bytes e.2) := by
  rw [metadata_toStatus h, Metadata.entries_foldl_set fault.nodup_described]
  simp only [Metadata.all_isStorable]

theorem get?_toStatus (h : ∀ status, fault ≠ .status status) {e : String × String}
    (he : e ∈ fault.described) :
    fault.toStatus.metadata.get? e.1 =
      if e.2.toList.all Metadata.isAllowed then some (Text.bytes e.2) else none := by
  rw [metadata_toStatus h, Metadata.get?, Metadata.values_foldl_set fault.nodup_described he,
    Metadata.all_isStorable]
  split <;> rfl

theorem get?_toStatus_of_ne (h : ∀ status, fault ≠ .status status) {name : String}
    (hname : ∀ e ∈ fault.described, name ≠ e.1) : fault.toStatus.metadata.get? name = none := by
  rw [metadata_toStatus h, Metadata.get?_foldl_set_of_ne _ hname]
  rfl

theorem text?_toStatus (h : ∀ status, fault ≠ .status status) {e : String × String}
    (he : e ∈ fault.described) :
    fault.toStatus.metadata.text? e.1 =
      if e.2.toList.all Text.isPrintable then some e.2 else none := by
  rw [metadata_toStatus h, Metadata.text?_foldl_set fault.nodup_described he]

/-- All values consist of readable bytes just if no text is illegible. -/
theorem all_isReadable_toStatus_iff (h : ∀ status, fault ≠ .status status) :
    (∀ e ∈ fault.toStatus.metadata.entries, e.2.all Text.isReadable = true) ↔
      ∀ e ∈ fault.described, Metadata.isIllegible e.2 = false := by
  rw [entries_toStatus h, List.forall_mem_map]
  simp only [List.mem_filter, and_imp, Text.all_isReadable_bytes,
    Metadata.isIllegible_eq_false_iff]

/-- Every name that has a value is looked up as text with success just if no text is illegible. -/
theorem lookups_toStatus_iff (h : ∀ status, fault ≠ .status status) :
    (∀ name, (fault.toStatus.metadata.get? name).isSome = true →
        (fault.toStatus.metadata.text? name).isSome = true) ↔
      ∀ e ∈ fault.described, Metadata.isIllegible e.2 = false := by
  have hlookup : ∀ e ∈ fault.described,
      ((fault.toStatus.metadata.get? e.1).isSome = true →
        (fault.toStatus.metadata.text? e.1).isSome = true) ↔
      Metadata.isIllegible e.2 = false := by
    intro e he
    rw [get?_toStatus h he, text?_toStatus h he, Metadata.isIllegible_eq_false_iff]
    simp only [Option.isSome_ite]
  constructor
  · intro hnames e he
    exact (hlookup e he).1 (hnames e.1)
  · intro hlegible name hvalue
    by_cases hname : ∃ e ∈ fault.described, name = e.1
    · obtain ⟨e, he, rfl⟩ := hname
      exact (hlookup e he).2 (hlegible e he) hvalue
    · push Not at hname
      rw [get?_toStatus_of_ne h hname] at hvalue
      cases hvalue

/-- Whatever texts a fault is made of: the metadata of its status consist of the texts that describe
it, under their names and in their order, but for those with a control character that is no tab. A
name is looked up as text with success if its text prints as ASCII, tabs apart, and is then read as
that text. So every value consists of readable bytes, and every name that has a value is looked up
with success, just if no text is illegible. Errors by field have a value unless the character U+007F
occurs in a field or a message, and are read unless it or anything beyond it does. -/
theorem described_in_metadata (fault : Fault) (h : ∀ status, fault ≠ .status status) :
    let metadata := fault.toStatus.metadata
    metadata.entries =
      (fault.described.filter fun e => e.2.toList.all Metadata.isAllowed).map
        (fun e => (e.1, Text.bytes e.2)) ∧
    (∀ e ∈ fault.described, metadata.text? e.1 =
      if e.2.toList.all Text.isPrintable then some e.2 else none) ∧
    ((∀ e ∈ metadata.entries, e.2.all Text.isReadable = true) ↔
      ∀ e ∈ fault.described, Metadata.isIllegible e.2 = false) ∧
    ((∀ name, (metadata.get? name).isSome = true → (metadata.text? name).isSome = true) ↔
      ∀ e ∈ fault.described, Metadata.isIllegible e.2 = false) ∧
    ∀ message errors, fault = .failure (.invalid message errors) →
      ((metadata.get? "validation-errors").isSome = true ↔
        ∀ s ∈ errors.texts, '\x7F' ∉ s.toList) ∧
      ((metadata.text? "validation-errors").isSome = true ↔
        ∀ s ∈ errors.texts, ∀ c ∈ s.toList, c.toNat < 0x7F) := by
  intro metadata
  refine ⟨entries_toStatus h, fun e he => text?_toStatus h he, all_isReadable_toStatus_iff h,
    lookups_toStatus_iff h, fun message errors hinvalid => ?_⟩
  have hjson : ("validation-errors", errors.json) ∈ fault.described := by
    rw [hinvalid]
    exact List.mem_cons_of_mem _ List.mem_cons_self
  constructor
  · rw [get?_toStatus h hjson, ← FieldErrors.all_isAllowed_json]
    simp only [Option.isSome_ite]
  · rw [text?_toStatus h hjson, ← FieldErrors.all_isPrintable_json]
    simp only [Option.isSome_ite]

/-- An entity of a type beyond ASCII, with a control character in its identifier. -/
def blurred : Fault := .failure (.missing "\u00c9t\u00e9" "a\x7F")

/-- Its type is stored but not read, its identifier not stored. -/
theorem blurred_in_metadata :
    blurred.toStatus.metadata.entries =
      [("error-code", Text.bytes "ENTITY_NOT_FOUND"), ("entity-type", Text.bytes "\u00c9t\u00e9")] ∧
    blurred.toStatus.metadata.text? "error-code" = some "ENTITY_NOT_FOUND" ∧
    blurred.toStatus.metadata.text? "entity-type" = none ∧
    ¬ ∀ e ∈ blurred.toStatus.metadata.entries, e.2.all Text.isReadable = true := by
  obtain ⟨hentries, htexts, hreadable, -, -⟩ :=
    described_in_metadata blurred fun _ => Fault.noConfusion
  refine ⟨hentries.trans (by decide +kernel), ?_, ?_, ?_⟩
  · exact (htexts ("error-code", "ENTITY_NOT_FOUND") (by decide +kernel)).trans (by decide +kernel)
  · exact (htexts ("entity-type", "\u00c9t\u00e9") (by decide +kernel)).trans (by decide +kernel)
  · rw [hreadable]
    decide +kernel

/-- The identifier of a missing item that is not within ASCII is a value all the same, and not one
that can be read. -/
theorem accented_identifier_unreadable :
    let metadata := (Fault.failure (.missing "Item" "\u00e9")).toStatus.metadata
    ("entity-id", [0xC3, 0xA9]) ∈ metadata.entries ∧
    [0xC3, 0xA9].all Text.isReadable = false ∧
    metadata.text? "entity-id" = none := by
  decide +kernel

end Fault
end ItemCatalog
