import Mathlib.Data.List.Nodup
import Mathlib.Logic.Relation
import ItemCatalog.Proofs.Json.Progress
import ItemCatalog.Proofs.Stage.SideBySide
import ItemCatalog.Proofs.Token.Acceptance

/-!
# One identity in many wordings

A payload may word the same claims in many ways: its members in any order, by either of their names,
a group as a text or as a list, nothing as `null` or not at all. Main statement: signed tokens
whose payloads differ in their wording only are accepted for the same user, unless a registered
claim, which has no effect otherwise, stops the reader of one of them (`rewording_keeps_user`).

## Main definitions

* `Claims.IsPlain`: members that name each claim once, with values of their types.
* `Claims.Rewords`: one change of the wording.
* `Claims.Stops`: a registered claim among members stops their reader.
* `Claims.Says`: the texts that members state for a claim.
* `Token.Carries`: a text is that of a signed token with these members in its payload.
-/

namespace ItemCatalog

namespace Token
open Json (Only OrNull)

namespace Claims
variable {members : List (String × Json)} {names : List String} {v w : Json} {s : String}

/-! ## Wordings -/

/-- The names of the claims that are one text. -/
def textNames : List (List String) := [["sub", "nameid"], ["name", "unique_name"], ["client_id"]]

/-- The names of the claims that are groups of texts. -/
def groupNames : List (List String) := [["role", "roles"], ["permission", "permissions"]]

/-- A value that is no list and no object. -/
def IsScalar : Json → Prop
  | .array _ => False
  | .object _ => False
  | _ => True

/-- Members with distinct names, of which no two are names of one claim, and with values of their
types. -/
structure IsPlain (members : List (String × Json)) : Prop where
  nodup : (members.map (·.1)).Nodup
  once : ∀ names ∈ Claims.names, ∀ m ∈ members, ∀ m' ∈ members, m.1 ∈ names → m'.1 ∈ names →
    m.1 = m'.1
  texts : ∀ names ∈ textNames, ∀ m ∈ members, m.1 ∈ names → m.2 = .null ∨ ∃ s, m.2.text? = some s
  groups : ∀ names ∈ groupNames, ∀ m ∈ members, m.1 ∈ names →
    m.2 = .null ∨ (∃ s, m.2.text? = some s) ∨ ∃ ss, m.2.texts? = some ss
  times : ∀ m ∈ members, m.1 ∈ ["exp", "nbf"] → IsScalar m.2

/-- Members after one change of their wording. -/
inductive Rewords : List (String × Json) → List (String × Json) → Prop
  /-- Another order of the members. -/
  | order {l l' : List (String × Json)} (h : l.Perm l') : Rewords l l'
  /-- The same text with other escapes. -/
  | escapes {rest : List (String × Json)} {name s : String} {v w : Json}
    (hname : name ∈ Claims.names.flatten) (hv : v.text? = some s) (hw : w.text? = some s) :
    Rewords ((name, v) :: rest) ((name, w) :: rest)
  /-- Another name of the same claim. -/
  | synonym {rest : List (String × Json)} {names : List String} {name name' : String} {v : Json}
    (hnames : names ∈ Claims.names) (hname : name ∈ names) (hname' : name' ∈ names) :
    Rewords ((name, v) :: rest) ((name', v) :: rest)
  /-- One text of a group as a list of it. -/
  | single {rest : List (String × Json)} {name s : String} {v w : Json}
    (hname : name ∈ groupNames.flatten) (hv : v.text? = some s) (hw : w.texts? = some [s]) :
    Rewords ((name, v) :: rest) ((name, w) :: rest)
  /-- The texts of a group in another order, with other repetitions or with other escapes. -/
  | list {rest : List (String × Json)} {name : String} {v w : Json} {ss ss' : List String}
    (hname : name ∈ groupNames.flatten) (hv : v.texts? = some ss) (hw : w.texts? = some ss')
    (h : ∀ s, s ∈ ss ↔ s ∈ ss') : Rewords ((name, v) :: rest) ((name, w) :: rest)
  /-- A claim that is `null` and not there. -/
  | null {rest : List (String × Json)} {name : String} (hname : name ∈ Claims.names.flatten) :
    Rewords ((name, .null) :: rest) rest
  /-- A group that is empty and not there. -/
  | emptyList {rest : List (String × Json)} {name : String} (hname : name ∈ groupNames.flatten) :
    Rewords ((name, .array []) :: rest) rest
  /-- A member that is no claim and not there. -/
  | other {rest : List (String × Json)} {name : String} {v : Json}
    (hname : name ∉ Claims.names.flatten) : Rewords ((name, v) :: rest) rest

/-! ## Registered claims -/

/-- Members hold a registered claim in the middle of whose value its reader gives up. -/
def Stops (members : List (String × Json)) : Prop :=
  ∃ m ∈ members, ∃ claim ∈ registered, m.1 = claim.1 ∧ claim.2 m.2 = .stuck

/-- Registered claims of their own types stop no reader: times that are numbers with an exponent
in range, an issuer and an audience that are texts or lists of texts. -/
theorem not_stops
    (htimes : ∀ m ∈ members, m.1 ∈ ["exp", "nbf"] → ∃ digits, m.2 = .number digits ∧
      Json.decimal (Json.Figures.ofNumber digits).exponent ≤ Json.maxExponent)
    (hparties : ∀ m ∈ members, m.1 ∈ ["iss", "aud"] →
      (∃ s, m.2.text? = some s) ∨ ∃ ss, m.2.texts? = some ss) : ¬ Stops members := by
  have htime {v : Json} (h : ∃ digits, v = .number digits ∧
      Json.decimal (Json.Figures.ofNumber digits).exponent ≤ Json.maxExponent) :
      timeProgress v ≠ .stuck := by
    obtain ⟨digits, rfl, hexponent⟩ := h
    exact Json.Figures.progress_ne_stuck hexponent
  have hparty {v : Json} (h : (∃ s, v.text? = some s) ∨ ∃ ss, v.texts? = some ss) :
      partyProgress v ≠ .stuck := by
    rw [partyProgress]
    rcases h with ⟨s, hs⟩ | ⟨ss, hss⟩
    · simp [Json.progress_of_text? hs]
    · simp [Json.maxNesting, Json.progress_of_texts? hss]
  rintro ⟨⟨name, v⟩, hm, claim, hclaim, rfl, hstuck⟩
  simp only [registered, List.mem_cons, List.not_mem_nil, or_false] at hclaim
  rcases hclaim with rfl | rfl | rfl | rfl
  · exact htime (htimes _ hm (by simp)) hstuck
  · exact htime (htimes _ hm (by simp)) hstuck
  · exact hparty (hparties _ hm (by simp)) hstuck
  · exact hparty (hparties _ hm (by simp)) hstuck

/-! ## What is said -/

/-- A value states a text: it is that text, or a list with it. -/
def ValueSays (v : Json) (s : String) : Prop :=
  v.text? = some s ∨ ∃ ss, v.texts? = some ss ∧ s ∈ ss

/-- Members state a text for the claim of these names. -/
def Says (members : List (String × Json)) (names : List String) (s : String) : Prop :=
  ∃ m ∈ members, m.1 ∈ names ∧ ValueSays m.2 s

theorem not_valueSays_null : ¬ ValueSays .null s := by
  rintro (h | ⟨_, h, -⟩) <;> cases h

theorem valueSays_of_text? {t : String} (h : v.text? = some t) : ValueSays v s ↔ s = t := by
  cases v with
  | string pieces =>
    constructor
    · rintro (hs | ⟨_, hs, -⟩)
      · exact Option.some.inj (hs.symm.trans h)
      · cases hs
    · rintro rfl
      exact .inl h
  | _ => cases h

theorem valueSays_of_texts? {ss : List String} (h : v.texts? = some ss) :
    ValueSays v s ↔ s ∈ ss := by
  cases v with
  | array items =>
    constructor
    · rintro (hs | ⟨ss', hs, hmem⟩)
      · cases hs
      · rwa [Option.some.inj (h.symm.trans hs)]
    · exact fun hmem => .inr ⟨ss, h, hmem⟩
  | _ => cases h

theorem says_cons {m : String × Json} {rest : List (String × Json)} :
    Says (m :: rest) names s ↔ (m.1 ∈ names ∧ ValueSays m.2 s) ∨ Says rest names s := by
  simp only [Says, List.mem_cons, or_and_right, exists_or, exists_eq_left]

/-- No name belongs to two claims. -/
theorem names_disjoint : ∀ a ∈ Claims.names, ∀ b ∈ Claims.names, ∀ n ∈ a, n ∈ b → a = b := by
  decide

/-- A change of the wording leaves what is said. -/
theorem Rewords.says_iff {l l' : List (String × Json)} (h : Rewords l l')
    (hnames : names ∈ Claims.names) : Says l names s ↔ Says l' names s := by
  cases h with
  | order h => simp only [Says, h.mem_iff]
  | escapes _ hv hw => simp only [says_cons, valueSays_of_text? hv, valueSays_of_text? hw]
  | @synonym rest both name name' v hboth hname hname' =>
    have hsame : name ∈ names ↔ name' ∈ names := by
      constructor <;> intro hmem
      · rwa [names_disjoint _ hnames _ hboth _ hmem hname]
      · rwa [names_disjoint _ hnames _ hboth _ hmem hname']
    simp only [says_cons, hsame]
  | single _ hv hw =>
    simp only [says_cons, valueSays_of_text? hv, valueSays_of_texts? hw, List.mem_singleton]
  | list _ hv hw h => simp only [says_cons, valueSays_of_texts? hv, valueSays_of_texts? hw, h]
  | null _ => simp only [says_cons, not_valueSays_null, and_false, false_or]
  | emptyList _ =>
    have hnone : ¬ ValueSays (.array []) s := by
      rw [valueSays_of_texts? (show (Json.array []).texts? = some [] from rfl)]
      exact List.not_mem_nil
    simp only [says_cons, hnone, and_false, false_or]
  | @other rest name v hname =>
    have hnot : name ∉ names := fun hmem => hname (List.mem_flatten.mpr ⟨names, hnames, hmem⟩)
    simp only [says_cons, hnot, false_and, false_or]

/-- So do any changes of the wording. -/
theorem says_iff_of_eqvGen {l l' : List (String × Json)} (h : Relation.EqvGen Rewords l l')
    (hnames : names ∈ Claims.names) : Says l names s ↔ Says l' names s := by
  induction h with
  | rel _ _ h => exact h.says_iff hnames
  | refl => rfl
  | symm _ _ _ ih => exact ih.symm
  | trans _ _ _ _ _ ih ih' => exact ih.trans ih'

/-! ## What is said is read -/

/-- The value of a claim says what the members say. -/
theorem says_iff_of_only (h : Only members names v) : Says members names s ↔ ValueSays v s := by
  cases h with
  | absent h =>
    constructor
    · rintro ⟨m, hm, hname, -⟩
      exact absurd hname (h m hm)
    · exact fun hnull => absurd hnull not_valueSays_null
  | @present before after name v hsplit hname hbefore hafter =>
    subst hsplit
    constructor
    · rintro ⟨m, hm, hmem, hsaid⟩
      rcases List.mem_append.mp hm with hm | hm
      · exact absurd hmem (hbefore m hm)
      · rcases List.mem_cons.mp hm with rfl | hm
        · exact hsaid
        · exact absurd hmem (hafter m hm)
    · exact fun hsaid => ⟨(name, v), by simp, hname, hsaid⟩

/-- The value of a claim is that of a member, or the claim is not there. -/
theorem eq_null_or_mem_of_only (h : Only members names v) :
    v = .null ∨ ∃ name ∈ names, (name, v) ∈ members := by
  cases h with
  | absent => exact .inl rfl
  | present hsplit hname => exact .inr ⟨_, hname, by simp [hsplit]⟩

/-- The value of a claim is that of every member with one of its names. -/
theorem eq_of_only {name : String} (h : Only members names v) (hm : (name, w) ∈ members)
    (hname : name ∈ names) : v = w := by
  cases h with
  | absent h => exact absurd hname (h _ hm)
  | @present before after name' v hsplit _ hbefore hafter =>
    rw [hsplit] at hm
    rcases List.mem_append.mp hm with hm | hm
    · exact absurd hname (hbefore _ hm)
    · rcases List.mem_cons.mp hm with heq | hm
      · exact (Prod.mk.inj heq).2.symm
      · exact absurd hname (hafter _ hm)

/-- Among members with distinct names, of which one at most is a name of a claim, the claim has one
value. -/
theorem exists_only (names : List String) (hnodup : (members.map (·.1)).Nodup)
    (honce : ∀ m ∈ members, ∀ m' ∈ members, m.1 ∈ names → m'.1 ∈ names → m.1 = m'.1) :
    ∃ v, Only members names v := by
  by_cases hthere : ∃ m ∈ members, m.1 ∈ names
  · obtain ⟨⟨name, v⟩, hm, hname⟩ := hthere
    obtain ⟨before, after, rfl⟩ := List.append_of_mem hm
    rw [List.map_append, List.map_cons, List.nodup_middle, List.nodup_cons, List.mem_append,
      not_or] at hnodup
    refine ⟨v, .present rfl hname (fun m hm' hmem => hnodup.1.1 ?_) fun m hm' hmem =>
      hnodup.1.2 ?_⟩
    · rw [honce (name, v) hm m (by simp [hm']) hname hmem]
      exact List.mem_map_of_mem hm'
    · rw [honce (name, v) hm m (by simp [hm']) hname hmem]
      exact List.mem_map_of_mem hm'
  · push Not at hthere
    exact ⟨.null, .absent hthere⟩

/-- A text, or nothing, reads as what it says. -/
theorem exists_orNull (h : v = .null ∨ ∃ s, v.text? = some s) :
    ∃ o, OrNull Json.text? v o ∧ ∀ s, o = some s ↔ ValueSays v s := by
  rcases h with rfl | ⟨t, ht⟩
  · exact ⟨none, .null, fun s => ⟨nofun, fun h => absurd h not_valueSays_null⟩⟩
  · refine ⟨some t, .some ht, fun s => ?_⟩
    rw [valueSays_of_text? ht, Option.some.injEq, eq_comm]

/-- A group reads as the set of the texts that it says. -/
theorem exists_isGroup
    (h : v = .null ∨ (∃ s, v.text? = some s) ∨ ∃ ss, v.texts? = some ss) :
    ∃ set, IsGroup v set ∧ ∀ s, set.contains s = true ↔ ValueSays v s := by
  rcases h with rfl | ⟨t, ht⟩ | ⟨ts, hts⟩
  · exact ⟨_, .none, fun s => by simp [not_valueSays_null]⟩
  · refine ⟨_, .one ht, fun s => ?_⟩
    rw [TextSet.contains_ofList, valueSays_of_text? ht, List.mem_singleton]
  · refine ⟨_, .many hts, fun s => ?_⟩
    rw [TextSet.contains_ofList, valueSays_of_texts? hts]

/-- Claims are what members say. -/
structure Matches (claims : Claims) (members : List (String × Json)) : Prop where
  subject : ∀ s, claims.subject = some s ↔ Says members ["sub", "nameid"] s
  name : ∀ s, claims.name = some s ↔ Says members ["name", "unique_name"] s
  clientId : ∀ s, claims.clientId = some s ↔ Says members ["client_id"] s
  roles : ∀ s, claims.roles.contains s = true ↔ Says members ["role", "roles"] s
  permissions : ∀ s, claims.permissions.contains s = true ↔
    Says members ["permission", "permissions"] s

/-- Members that say the same are claims that are the same. -/
theorem Matches.unique {claims claims' : Claims} {members' : List (String × Json)}
    (h : Matches claims members) (h' : Matches claims' members')
    (hsaid : ∀ names ∈ Claims.names, ∀ s, Says members names s ↔ Says members' names s) :
    claims = claims' := by
  have htext {names : List String} {o o' : Option String} (hnames : names ∈ Claims.names)
      (ho : ∀ s, o = some s ↔ Says members names s)
      (ho' : ∀ s, o' = some s ↔ Says members' names s) : o = o' :=
    Option.ext fun s => (ho s).trans ((hsaid names hnames s).trans (ho' s).symm)
  have hgroup {names : List String} {a b : TextSet} (hnames : names ∈ Claims.names)
      (ha : ∀ s, a.contains s = true ↔ Says members names s)
      (hb : ∀ s, b.contains s = true ↔ Says members' names s) : a = b :=
    TextSet.ext_contains fun s => (ha s).trans ((hsaid names hnames s).trans (hb s).symm)
  cases claims
  cases claims'
  rw [Claims.mk.injEq]
  exact ⟨htext (by decide) h.subject h'.subject, htext (by decide) h.name h'.name,
    htext (by decide) h.clientId h'.clientId, hgroup (by decide) h.roles h'.roles,
    hgroup (by decide) h.permissions h'.permissions⟩

/-- Of plain members each claim has one value. -/
theorem IsPlain.exists_only (h : IsPlain members) (hnames : names ∈ Claims.names) :
    ∃ v, Only members names v := Claims.exists_only names h.nodup (h.once names hnames)

/-- A registered claim that stops its reader keeps members from being read. -/
theorem not_isRegular_of_stops (h : Stops members) : ¬ IsRegular members := by
  obtain ⟨⟨name, v⟩, hm, claim, hclaim, rfl, hstuck⟩ := h
  intro hregular
  obtain ⟨w, hw, hread⟩ := hregular claim hclaim
  rw [eq_of_only hw hm (List.mem_singleton_self _)] at hread
  exact hread hstuck

/-- Nothing else about the registered claims keeps plain members from being read. -/
theorem IsPlain.isRegular (h : IsPlain members) (hstops : ¬ Stops members) :
    IsRegular members := by
  have hnull : ∀ claim ∈ registered, claim.2 .null ≠ .stuck := by decide
  intro claim hclaim
  obtain ⟨v, hv⟩ := Claims.exists_only [claim.1] h.nodup fun m _ m' _ hm hm' => by
    rw [List.mem_singleton.mp hm, List.mem_singleton.mp hm']
  refine ⟨v, hv, fun hstuck => ?_⟩
  rcases eq_null_or_mem_of_only hv with rfl | ⟨name, hname, hmem⟩
  · exact hnull claim hclaim hstuck
  · exact hstops ⟨_, hmem, claim, hclaim, List.mem_singleton.mp hname, hstuck⟩

/-- A value of plain members for a claim of one text, and what it says. -/
theorem IsPlain.text (h : IsPlain members) (names : List String) (hnames : names ∈ textNames) :
    ∃ v o, Only members names v ∧ OrNull Json.text? v o ∧
      ∀ s, o = some s ↔ Says members names s := by
  obtain ⟨v, hv⟩ := h.exists_only (List.mem_append_left groupNames hnames)
  have htyped : v = .null ∨ ∃ s, v.text? = some s :=
    (eq_null_or_mem_of_only hv).elim .inl fun ⟨_, hname, hmem⟩ => h.texts names hnames _ hmem hname
  obtain ⟨o, ho, hsaid⟩ := exists_orNull htyped
  exact ⟨v, o, hv, ho, fun s => (hsaid s).trans (says_iff_of_only hv).symm⟩

/-- A value of plain members for a group, and what it says. -/
theorem IsPlain.group (h : IsPlain members) (names : List String) (hnames : names ∈ groupNames) :
    ∃ v set, Only members names v ∧ IsGroup v set ∧
      ∀ s, set.contains s = true ↔ Says members names s := by
  obtain ⟨v, hv⟩ := h.exists_only (List.mem_append_right textNames hnames)
  have htyped : v = .null ∨ (∃ s, v.text? = some s) ∨ ∃ ss, v.texts? = some ss :=
    (eq_null_or_mem_of_only hv).elim .inl fun ⟨_, hname, hmem⟩ => h.groups names hnames _ hmem hname
  obtain ⟨set, hset, hsaid⟩ := exists_isGroup htyped
  exact ⟨v, set, hv, hset, fun s => (hsaid s).trans (says_iff_of_only hv).symm⟩

/-- A payload of plain members states the claims that they say, if no registered claim stops its
reader. -/
theorem IsPlain.exists_matches (h : IsPlain members) {ms : List (List Json.Piece × Json)}
    (hmembers : (Json.object ms).members? = some members) :
    ∃ claims, Matches claims members ∧ (¬ Stops members → Describes (.object ms) claims) := by
  obtain ⟨subject, _, hsubject, hsubject', hsaid₁⟩ :=
    h.text ["sub", "nameid"] (by decide)
  obtain ⟨name, _, hname, hname', hsaid₂⟩ :=
    h.text ["name", "unique_name"] (by decide)
  obtain ⟨clientId, _, hclient, hclient', hsaid₃⟩ := h.text ["client_id"] (by decide)
  obtain ⟨roles, _, hroles, hroles', hsaid₄⟩ := h.group ["role", "roles"] (by decide)
  obtain ⟨permissions, _, hpermissions, hpermissions', hsaid₅⟩ :=
    h.group ["permission", "permissions"] (by decide)
  refine ⟨⟨_, _, _, _, _⟩, ⟨hsaid₁, hsaid₂, hsaid₃, hsaid₄, hsaid₅⟩, fun hstops => ?_⟩
  exact .object hmembers
    (.cons hsubject (.cons hname (.cons hclient (.cons hroles (.cons hpermissions .nil)))))
    (h.isRegular hstops) ⟨hsubject', hname', hclient', hroles', hpermissions'⟩

end Claims

/-! ## Tokens -/

/-- A text is that of a token that a secret has signed, and these are the members of its payload,
by whatever bytes they are spelled. -/
def Carries (secret : List UInt8) (text : String) (members : List (String × Json)) : Prop :=
  ∃ token ms, Spells text token ∧ IsSigned secret token ∧ Holds token.payload (.object ms) ∧
    (Json.object ms).members? = some members

variable {secret : List UInt8} {text text' : String} {members members' : List (String × Json)}

/-- A signed token is rejected if a registered claim in it stops its reader. -/
theorem rejected_of_stops (h : Carries secret text members) (hstops : Claims.Stops members) :
    (validator secret).judge text = .rejected := by
  obtain ⟨token, ms, hspells, -, hholds, hmembers⟩ := h
  refine judge_eq_rejected fun user haccepted => ?_
  obtain ⟨token', v, claims, hspells', -, hholds', hdescribes, -⟩ :=
    judge_eq_accepted_iff.mp haccepted
  rw [← hspells.unique hspells'] at hholds'
  rw [← hholds.unique hholds'] at hdescribes
  cases hdescribes with
  | object hmembers' _ hregular _ =>
    rw [Option.some.inj (hmembers'.symm.trans hmembers)] at hregular
    exact Claims.not_isRegular_of_stops hstops hregular

/-- A signed token with plain members is accepted for the user that they describe, if none of them
stops their reader. -/
theorem accepted_of_carries (h : Carries secret text members) (hplain : Claims.IsPlain members) :
    ∃ claims, Claims.Matches claims members ∧
      (¬ Claims.Stops members → (validator secret).judge text = .accepted claims.user) := by
  obtain ⟨token, ms, hspells, hsigned, hholds, hmembers⟩ := h
  obtain ⟨claims, hmatches, hdescribes⟩ := hplain.exists_matches hmembers
  exact ⟨claims, hmatches, fun hstops => judge_eq_accepted_iff.mpr
    ⟨token, _, claims, hspells, hsigned, hholds, hdescribes hstops, rfl⟩⟩

/-- Two tokens that a secret has signed, whose payloads are plain and differ by changes of their
wording only, are accepted for the same user, each unless a registered claim in its payload stops
the reader, in which case it is rejected. If both are accepted, the authorization of a call with one
of them comes to the same as with the other. -/
theorem rewording_keeps_user (hplain : Claims.IsPlain members)
    (hplain' : Claims.IsPlain members')
    (hreworded : Relation.EqvGen Claims.Rewords members members')
    (h : Carries secret text members) (h' : Carries secret text' members') :
    ∃ user,
      (¬ Claims.Stops members → (validator secret).judge text = .accepted user) ∧
      (¬ Claims.Stops members' → (validator secret).judge text' = .accepted user) ∧
      (Claims.Stops members → (validator secret).judge text = .rejected) ∧
      (Claims.Stops members' → (validator secret).judge text' = .rejected) ∧
      (¬ Claims.Stops members → ¬ Claims.Stops members' →
        ∀ (metadata metadata' : Metadata) op, metadata.bearer? = some text →
          metadata'.bearer? = some text' → (validator secret).admission metadata op =
            (validator secret).admission metadata' op) := by
  obtain ⟨claims, hmatches, haccepted⟩ := accepted_of_carries h hplain
  obtain ⟨claims', hmatches', haccepted'⟩ := accepted_of_carries h' hplain'
  obtain rfl : claims = claims' := hmatches.unique hmatches' fun names hnames s =>
    Claims.says_iff_of_eqvGen hreworded hnames
  refine ⟨claims.user, haccepted, haccepted', rejected_of_stops h, rejected_of_stops h', ?_⟩
  intro hstops hstops' metadata metadata' op hbearer hbearer'
  simp only [Validator.admission, hbearer, hbearer', haccepted hstops, haccepted' hstops']

/-! ## A reader in two wordings -/

/-- The token that a secret makes of a payload. -/
def issued (secret payload : List UInt8) : Token :=
  let header := Base64Url.encode (Text.bytes "\x7b\"alg\":\"HS256\"\x7d")
  let payload := Base64Url.encode payload
  ⟨header, payload, signatureOf secret (header ++ '.' :: payload)⟩

theorem carries_issued (secret : List UInt8) {payload : List UInt8}
    (ms : List (List Json.Piece × Json)) (hpayload : Json.parse? payload = some (.object ms))
    (hmembers : (Json.object ms).members? = some members) :
    Carries secret (issued secret payload).text members := by
  obtain ⟨v, hv, halgorithm⟩ := Option.bind_eq_some_iff.mp (by decide +kernel :
    (Json.parse? (Text.bytes "\x7b\"alg\":\"HS256\"\x7d")).bind Header.algorithm? = some .hs256)
  exact ⟨issued secret payload, ms,
    ⟨rfl, Base64Url.dot_notMem_encode _, Base64Url.dot_notMem_encode _⟩,
    ⟨⟨v, ⟨_, rfl, Json.parse?_eq_some_iff.mp hv⟩, Header.algorithm?_eq_some_iff.mp halgorithm⟩,
      rfl⟩,
    ⟨_, rfl, Json.parse?_eq_some_iff.mp hpayload⟩, hmembers⟩

/-- A text in which nothing is escaped, as a value. -/
def plainText (s : String) : Json := .string ((Text.bytes s).map .byte)

/-- The same name with its first letter escaped. -/
def escapedAda : Json := .string (.unit 0x61 :: (Text.bytes "da").map .byte)

/-- A payload in few words, and its members. -/
def briefPayload : List UInt8 := Text.bytes "\x7b\"sub\":\"ada\",\"role\":\"read\"\x7d"

def briefMembers : List (String × Json) := [("sub", plainText "ada"), ("role", plainText "read")]

/-- The same payload in more words, and its members. -/
def widePayload : List UInt8 := Text.bytes
  "\x7b \"exp\": 5, \"roles\": [ \"read\" ], \"nameid\": \"\\u0061da\" \x7d"

def wideMembers : List (String × Json) :=
  [("exp", .number (Text.bytes "5")), ("roles", .array [plainText "read"]), ("nameid", escapedAda)]

theorem text?_ada : (plainText "ada").text? = some "ada" := by decide +kernel

theorem text?_escapedAda : escapedAda.text? = some "ada" := by decide +kernel

theorem text?_read : (plainText "read").text? = some "read" := by decide +kernel

theorem texts?_read : (Json.array [plainText "read"]).texts? = some ["read"] := by decide +kernel

theorem isPlain_brief : Claims.IsPlain briefMembers where
  nodup := by decide
  once := by simp [briefMembers, Claims.names]
  texts := by simp [briefMembers, Claims.textNames, text?_ada]
  groups := by simp [briefMembers, Claims.groupNames, text?_read]
  times := by simp [briefMembers]

theorem isPlain_wide : Claims.IsPlain wideMembers where
  nodup := by decide
  once := by simp [wideMembers, Claims.names]
  texts := by simp [wideMembers, Claims.textNames, text?_escapedAda]
  groups := by simp [wideMembers, Claims.groupNames, texts?_read]
  times := by simp [wideMembers, Claims.IsScalar]

theorem reworded_brief_wide : Relation.EqvGen Claims.Rewords briefMembers wideMembers := by
  have hsubject : Claims.Rewords briefMembers
      [("nameid", plainText "ada"), ("role", plainText "read")] :=
    .synonym (List.mem_cons_self) (by decide) (by decide)
  have hescapes : Claims.Rewords [("nameid", plainText "ada"), ("role", plainText "read")]
      [("nameid", escapedAda), ("role", plainText "read")] :=
    .escapes (by decide) text?_ada text?_escapedAda
  have horder : Claims.Rewords [("nameid", escapedAda), ("role", plainText "read")]
      [("role", plainText "read"), ("nameid", escapedAda)] := .order (.swap _ _ _)
  have hrole : Claims.Rewords [("role", plainText "read"), ("nameid", escapedAda)]
      [("roles", plainText "read"), ("nameid", escapedAda)] :=
    .synonym (show ["role", "roles"] ∈ Claims.names by decide) (by decide) (by decide)
  have hsingle : Claims.Rewords [("roles", plainText "read"), ("nameid", escapedAda)]
      [("roles", .array [plainText "read"]), ("nameid", escapedAda)] :=
    .single (by decide) text?_read texts?_read
  have hexpiry : Claims.Rewords wideMembers
      [("roles", .array [plainText "read"]), ("nameid", escapedAda)] := .other (by decide)
  exact .trans _ _ _ (.rel _ _ hsubject) (.trans _ _ _ (.rel _ _ hescapes)
    (.trans _ _ _ (.rel _ _ horder) (.trans _ _ _ (.rel _ _ hrole)
      (.trans _ _ _ (.rel _ _ hsingle) (.symm _ _ (.rel _ _ hexpiry))))))

theorem not_stops_brief : ¬ Claims.Stops briefMembers :=
  Claims.not_stops (by simp [briefMembers]) (by simp [briefMembers])

theorem not_stops_wide : ¬ Claims.Stops wideMembers := by
  refine Claims.not_stops ?_ (by simp [wideMembers])
  have hexpiry : Json.decimal (Json.Figures.ofNumber (Text.bytes "5")).exponent ≤
      Json.maxExponent := by decide +kernel
  simpa [wideMembers] using hexpiry

theorem carries_brief (secret : List UInt8) :
    Carries secret (issued secret briefPayload).text briefMembers :=
  carries_issued secret [((Text.bytes "sub").map .byte, plainText "ada"),
    ((Text.bytes "role").map .byte, plainText "read")] rfl rfl

/-- A reader worded in two ways. -/
theorem reader_reworded :
    let secret := Text.bytes "a secret"
    ∃ user, (validator secret).judge (issued secret briefPayload).text = .accepted user ∧
      (validator secret).judge (issued secret widePayload).text = .accepted user := by
  intro secret
  have hwide : Carries secret (issued secret widePayload).text wideMembers :=
    carries_issued secret [((Text.bytes "exp").map .byte, .number (Text.bytes "5")),
      ((Text.bytes "roles").map .byte, .array [plainText "read"]),
      ((Text.bytes "nameid").map .byte, escapedAda)] rfl rfl
  obtain ⟨user, haccepted, haccepted', -⟩ :=
    rewording_keeps_user isPlain_brief isPlain_wide reworded_brief_wide (carries_brief secret) hwide
  exact ⟨user, haccepted not_stops_brief, haccepted' not_stops_wide⟩

/-! ## A reader whose expiry stops the reading -/

/-- The first payload with a time of expiry that has too many digits in its exponent, and its
members. -/
def overduePayload : List UInt8 :=
  Text.bytes "\x7b\"exp\":1e99999999999,\"sub\":\"ada\",\"role\":\"read\"\x7d"

def overdueMembers : List (String × Json) :=
  ("exp", .number (Text.bytes "1e99999999999")) :: briefMembers

theorem isPlain_overdue : Claims.IsPlain overdueMembers where
  nodup := by decide
  once := by simp [overdueMembers, briefMembers, Claims.names]
  texts := by simp [overdueMembers, briefMembers, Claims.textNames, text?_ada]
  groups := by simp [overdueMembers, briefMembers, Claims.groupNames, text?_read]
  times := by simp [overdueMembers, briefMembers, Claims.IsScalar]

theorem stops_overdue : Claims.Stops overdueMembers :=
  ⟨_, List.mem_cons_self, ("exp", Claims.timeProgress), List.mem_cons_self, rfl, by decide +kernel⟩

/-- Two signed tokens with plain payloads that differ in a registered claim only: one is accepted,
and the other is rejected. -/
theorem overdue_rejected :
    let secret := Text.bytes "a secret"
    Claims.IsPlain briefMembers ∧ Claims.IsPlain overdueMembers ∧
      Relation.EqvGen Claims.Rewords briefMembers overdueMembers ∧
      Carries secret (issued secret briefPayload).text briefMembers ∧
      Carries secret (issued secret overduePayload).text overdueMembers ∧
      (∃ user, (validator secret).judge (issued secret briefPayload).text = .accepted user) ∧
      (validator secret).judge (issued secret overduePayload).text = .rejected := by
  intro secret
  have hreworded : Relation.EqvGen Claims.Rewords briefMembers overdueMembers :=
    .symm _ _ (.rel _ _ (.other (by decide)))
  have hoverdue : Carries secret (issued secret overduePayload).text overdueMembers :=
    carries_issued secret [((Text.bytes "exp").map .byte, .number (Text.bytes "1e99999999999")),
      ((Text.bytes "sub").map .byte, plainText "ada"),
      ((Text.bytes "role").map .byte, plainText "read")] rfl rfl
  obtain ⟨claims, -, haccepted⟩ := accepted_of_carries (carries_brief secret) isPlain_brief
  exact ⟨isPlain_brief, isPlain_overdue, hreworded, carries_brief secret, hoverdue,
    ⟨claims.user, haccepted not_stops_brief⟩, rejected_of_stops hoverdue stops_overdue⟩

end Token
end ItemCatalog
