import ItemCatalog.Method
import ItemCatalog.Proofs.Spelling
import ItemCatalog.Storage.Table
import ItemCatalog.Surroundings

/-!
# What a call takes from its metadata

Of two entries that may state a correlation identifier, the first that holds any words is taken, and
only then is it read. Main statement: `opened_under`, by which a call is known under an identifier
that its caller supplies, except where the preferred entry holds words that spell none; there one is
drawn at random, be the other entry as it may. A token is a part of its value without blanks around
it (`exists_trim_eq_tokenIn`).

## Main definitions

* `Metadata.Says`: the words that the first value of a name holds.
* `Metadata.Supplies`: they spell an identifier.
* `Metadata.Garbles`: they spell none, although there are some.
* `Metadata.tokenIn`: the token in the text of a value.
-/

namespace ItemCatalog

namespace Metadata
variable {m : Metadata} {name words : String} {id : Identifier}

/-! ## Correlation identifiers -/

/-- Whether the first value of a name can be read, and as what, without the blanks around it. -/
def Says (m : Metadata) (name words : String) : Prop :=
  ∃ value s, m.get? name = some value ∧ Text.ofReadable? value = some s ∧ words = Text.trim s

/-- Whether the first value of a name spells an identifier. -/
def Supplies (m : Metadata) (name : String) (id : Identifier) : Prop :=
  ∃ words, m.Says name words ∧ id.IsSpelledBy words

/-- Whether the first value of a name holds words that spell no identifier. -/
def Garbles (m : Metadata) (name : String) : Prop :=
  ∃ words, m.Says name words ∧ words ≠ "" ∧ ∀ id : Identifier, ¬id.IsSpelledBy words

theorem words?_eq_some_iff : m.words? name = some words ↔ m.Says name words ∧ words ≠ "" := by
  simp only [words?, text?, Says, Option.filter_eq_some_iff, Option.map_eq_some_iff,
    Option.bind_eq_some_iff, Bool.not_eq_true', String.isEmpty_eq_false_iff]
  constructor
  · rintro ⟨⟨s, ⟨value, hvalue, hs⟩, rfl⟩, hne⟩
    exact ⟨⟨value, s, hvalue, hs, rfl⟩, hne⟩
  · rintro ⟨⟨value, s, hvalue, hs, rfl⟩, hne⟩
    exact ⟨⟨s, ⟨value, hvalue, hs⟩, rfl⟩, hne⟩

theorem supplies_iff : m.Supplies name id ↔ (m.words? name).bind Identifier.parse? = some id := by
  simp only [Supplies, Option.bind_eq_some_iff, words?_eq_some_iff, Identifier.parse?_eq_some_iff]
  refine exists_congr fun words => ?_
  constructor
  · rintro ⟨hwords, hspelled⟩
    exact ⟨⟨hwords, fun h => by simpa [h] using hspelled.isEmpty_eq_false⟩, hspelled⟩
  · rintro ⟨⟨hwords, -⟩, hspelled⟩
    exact ⟨hwords, hspelled⟩

theorem garbles_iff :
    m.Garbles name ↔ ∃ words, m.words? name = some words ∧ Identifier.parse? words = none := by
  simp only [Garbles, words?_eq_some_iff, and_assoc, Option.eq_none_iff_forall_ne_some, ne_eq,
    Identifier.parse?_eq_some_iff]

/-- The words of the preferred entry decide, whatever the other one holds. -/
theorem correlationId?_of_words (h : m.words? "x-correlation-id" = some words) :
    m.correlationId? = Identifier.parse? words := by
  simp [correlationId?, correlationNames, h]

theorem correlationId?_of_none (h : m.words? "x-correlation-id" = none) :
    m.correlationId? = (m.words? "x-request-id").bind Identifier.parse? := by
  simp [correlationId?, correlationNames, h]

theorem correlationId?_of_supplies (h : m.Supplies "x-correlation-id" id) :
    m.correlationId? = some id := by
  obtain ⟨words, hwords, hid⟩ := Option.bind_eq_some_iff.1 (supplies_iff.1 h)
  rw [correlationId?_of_words hwords, hid]

theorem correlationId?_of_garbles (h : m.Garbles "x-correlation-id") : m.correlationId? = none := by
  obtain ⟨words, hwords, hnone⟩ := garbles_iff.1 h
  rw [correlationId?_of_words hwords, hnone]

/-- A value that supplies no identifier holds no words, unless it is garbled. -/
theorem words?_eq_none (hsupplies : ∀ id, ¬m.Supplies name id) (hgarbles : ¬m.Garbles name) :
    m.words? name = none := by
  rw [Option.eq_none_iff_forall_ne_some]
  intro words hwords
  cases hid : Identifier.parse? words with
  | none => exact hgarbles (garbles_iff.2 ⟨words, hwords, hid⟩)
  | some id => exact hsupplies id (supplies_iff.2 (Option.bind_eq_some_iff.2 ⟨words, hwords, hid⟩))

/-! ## Tokens -/

/-- The token that a value holds, with or without the mark in front of it. -/
def tokenIn (value : String) : String :=
  if Text.equalIgnoringCase (String.ofList (value.toList.take 7)) bearerMark then
    Text.trim (String.ofList (value.toList.drop 7))
  else Text.trim value

theorem bearer?_eq (m : Metadata) :
    m.bearer? = ((m.text? "authorization").map tokenIn).filter fun token => !token.isEmpty := rfl

theorem bearer?_eq_some_iff {token : String} :
    m.bearer? = some token ↔
      ∃ value, m.text? "authorization" = some value ∧ tokenIn value = token ∧ token ≠ "" := by
  simp only [bearer?_eq, Option.filter_eq_some_iff, Option.map_eq_some_iff, Bool.not_eq_true',
    String.isEmpty_eq_false_iff]
  constructor
  · rintro ⟨⟨value, hvalue, htoken⟩, hne⟩
    exact ⟨value, hvalue, htoken, hne⟩
  · rintro ⟨value, hvalue, htoken, hne⟩
    exact ⟨⟨value, hvalue, htoken⟩, hne⟩

/-- A token is what is left of a part of its value without the blanks around it. -/
theorem exists_trim_eq_tokenIn (value : String) :
    ∃ part, part.toList <:+: value.toList ∧ tokenIn value = Text.trim part := by
  rw [tokenIn]
  split
  · refine ⟨_, ?_, rfl⟩
    rw [String.toList_ofList]
    exact (List.drop_suffix 7 _).isInfix
  · exact ⟨value, List.infix_rfl, rfl⟩

/-- Behind the mark stands the token, even if it starts with the mark itself. -/
theorem tokenIn_marked (token : String) : tokenIn ("Bearer " ++ token) = Text.trim token := by
  have hlength : "Bearer ".toList.length = 7 := by decide
  have hmark : Text.equalIgnoringCase "Bearer " bearerMark = true := by decide
  rw [tokenIn, String.toList_append, List.take_left' hlength, List.drop_left' hlength,
    String.ofList_toList, String.ofList_toList, if_pos hmark]

end Metadata

namespace Call
variable {method : String} {m : Metadata} {id : Identifier}

theorem opened_of_some (h : m.correlationId? = some id) :
    Call.opened method m = .done (.start method m id) := by
  rw [opened, h]
  rfl

theorem opened_of_none (h : m.correlationId? = none) :
    Call.opened method m = .ask .random fun bits => .done (.start method m (.ofRandom bits)) := by
  rw [opened, h]
  rfl

/-- A call whose preferred entry spells an identifier is known under it, and so is one whose other
entry spells one while the preferred entry is missing, unreadable or blank; to open either of them
nothing is asked of its surroundings. Every other call is known under an identifier drawn at random,
for which they are asked once: a call with neither identifier, and one whose preferred entry holds
words that spell none, even if the other entry spells one. -/
theorem opened_under {σ : Type} (method : String) (m : Metadata)
    (respond : Program.Responder Effect.signature σ) (s : σ) :
    let opened := (Call.opened method m).run respond s
    (∀ id, m.Supplies "x-correlation-id" id → opened = (.start method m id, s)) ∧
    (∀ id, m.Supplies "x-request-id" id → (∀ other, ¬m.Supplies "x-correlation-id" other) →
      ¬m.Garbles "x-correlation-id" → opened = (.start method m id, s)) ∧
    ((∀ id, ¬m.Supplies "x-correlation-id" id) →
      (∀ id, ¬m.Supplies "x-request-id" id) ∨ m.Garbles "x-correlation-id" →
      opened = (.start method m (.ofRandom (respond .random s).1), (respond .random s).2)) ∧
    ∀ id, (Call.start method m id).correlationId = id := by
  intro opened
  refine ⟨?preferred, ?other, ?drawn, fun id => rfl⟩
  case preferred =>
    intro id h
    simp only [opened, opened_of_some (Metadata.correlationId?_of_supplies h), Program.run_done]
  case other =>
    intro id h hsupplies hgarbles
    have hsupplied : m.correlationId? = some id := by
      rw [Metadata.correlationId?_of_none (Metadata.words?_eq_none hsupplies hgarbles)]
      exact Metadata.supplies_iff.1 h
    simp only [opened, opened_of_some hsupplied, Program.run_done]
  case drawn =>
    intro hsupplies h
    have hnone : m.correlationId? = none := by
      by_cases hgarbles : m.Garbles "x-correlation-id"
      · exact Metadata.correlationId?_of_garbles hgarbles
      · rw [Metadata.correlationId?_of_none (Metadata.words?_eq_none hsupplies hgarbles),
          Option.eq_none_iff_forall_ne_some]
        intro id hid
        exact h.resolve_right hgarbles id (Metadata.supplies_iff.2 hid)
    simp only [opened, opened_of_none hnone, Program.run_ask, Program.run_done]

/-- Surroundings in which nothing has happened yet. -/
def untouched : Surroundings Storage.Table where
  store := Storage.Table.empty
  now := ⟨0, ⟨0, by decide⟩⟩

/-- Blanks, then an identifier in braces, and then a text that is none under the same name. -/
def braced : Metadata :=
  ⟨[("x-correlation-id", Text.bytes " \t"),
    ("x-request-id", Text.bytes (" \x7b" ++ (Identifier.ofRandom 10).text ++ "\x7d")),
    ("x-request-id", Text.bytes "7")]⟩

/-- Behind blanks, the first of the other values counts. -/
theorem blank_entry_passed_over :
    braced.Supplies "x-request-id" (.ofRandom 10) ∧
      (Call.opened "/s/GetItem" braced).run (Surroundings.respond Storage.Table.backend) untouched =
        (.start "/s/GetItem" braced (.ofRandom 10), untouched) := by
  have hblank : braced.words? "x-correlation-id" = none := by decide +kernel
  have hsupplied : braced.Supplies "x-request-id" (.ofRandom 10) :=
    Metadata.supplies_iff.2 (by decide +kernel)
  obtain ⟨-, hother, -⟩ :=
    opened_under "/s/GetItem" braced (Surroundings.respond Storage.Table.backend) untouched
  refine ⟨hsupplied, hother _ hsupplied (fun id h => ?_) fun h => ?_⟩
  · rw [Metadata.supplies_iff, hblank] at h
    cases h
  · obtain ⟨words, hwords, -⟩ := Metadata.garbles_iff.1 h
    rw [hblank] at hwords
    cases hwords

/-- The name of a job in the preferred entry, and an identifier in the other. -/
def shadowed : Metadata :=
  ⟨[("x-correlation-id", Text.bytes "job-7"),
    ("x-request-id", Text.bytes (Identifier.ofRandom 7).text)]⟩

/-- The identifier is not used, and one is drawn although one has been supplied. -/
theorem garbled_entry_shadows :
    let opened := untouched.run Storage.Table.backend (Call.opened "/s/GetItem" shadowed)
    shadowed.Supplies "x-request-id" (.ofRandom 7) ∧
      (∀ id, shadowed.Supplies "x-correlation-id" id ∨ shadowed.Supplies "x-request-id" id →
        opened.1.correlationId ≠ id) ∧
      opened.2.entropy.next ≠ untouched.entropy.next := by
  intro opened
  have hpreferred : (shadowed.words? "x-correlation-id").bind Identifier.parse? = none := by
    decide +kernel
  have hother : (shadowed.words? "x-request-id").bind Identifier.parse? = some (.ofRandom 7) := by
    decide +kernel
  have hdrawn : opened.1.correlationId ≠ .ofRandom 7 := by decide +kernel
  refine ⟨Metadata.supplies_iff.2 hother, ?_, by decide +kernel⟩
  intro id h
  simp only [Metadata.supplies_iff, hpreferred, hother, reduceCtorEq, Option.some.injEq,
    false_or] at h
  exact h ▸ hdrawn

end Call
end ItemCatalog
