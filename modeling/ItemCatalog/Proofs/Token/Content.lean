import ItemCatalog.Proofs.Json.Grammar
import ItemCatalog.Proofs.Json.Typed
import ItemCatalog.Proofs.Token.Encoding
import ItemCatalog.Token.Basic

/-!
# What the parts of a token hold

A part of a token is the written form of a JSON text. What a header has to be to name an algorithm,
and what a payload has to be to state claims, is described here by their members. Main statements:
headers and payloads are read exactly if they are of that kind (`Header.algorithm?_eq_some_iff`,
`Claims.ofJson?_eq_some_iff`).

## Main definitions

* `Header.Names`: a well-typed header that names an algorithm.
* `Claims.States`, `Claims.Describes`: values, and payloads, that state claims.
* `Token.Holds`: the value that a part of a token holds.
-/

namespace ItemCatalog.Token
open Json (Only Has OrNull)

/-! ## Headers -/

namespace Key

/-- The members of a key of a family: its type, its curve and its texts. -/
structure IsOf (members : List (String × Json)) (family : Family) : Prop where
  type : Has members ["kty"] fun v => v.choice? = some family.type
  curve : family.hasCurve = true →
    Has members ["crv"] fun v => ∃ curve ∈ curves, v.choice? = some curve
  texts : ∀ name ∈ family.texts, Has members [name] fun v => ∃ s, v.text? = some s

/-- The members that all keys share. -/
structure IsCommon (members : List (String × Json)) : Prop where
  texts : ∀ name ∈ ["use", "kid", "x5u", "x5t", "x5t#S256"],
    Has members [name] fun v => ∃ s, OrNull Json.text? v s
  lists : ∀ name ∈ ["key_ops", "x5c"], Has members [name] fun v => ∃ ss, OrNull Json.texts? v ss
  algorithm : Has members ["alg"] fun v => ∃ s, OrNull Json.choice? v s

/-- A key, of which everything is read, or nothing. -/
inductive IsOptionalKey : Json → Prop
  | missing : IsOptionalKey .null
  | key {v : Json} {members : List (String × Json)} {family : Family}
    (hread : v.progress Json.maxNesting = .complete) (hmembers : v.members? = some members)
    (hcommon : IsCommon members)
    (hfamily : family ∈ families) (hof : IsOf members family) : IsOptionalKey v

theorem isOf_iff {members : List (String × Json)} {family : Family} :
    isOf members family = true ↔ IsOf members family := by
  have hcurve : (((Json.only? members ["crv"]).bind Json.choice?).any curves.contains = true) ↔
      Has members ["crv"] fun v => ∃ curve ∈ curves, v.choice? = some curve := by
    simp only [Option.any_eq_true, Option.bind_eq_some_iff, Json.only?_eq_some_iff, Has,
      List.contains_iff_mem]
    constructor
    · rintro ⟨c, ⟨v, hv, hc⟩, hmem⟩
      exact ⟨v, hv, c, hmem, hc⟩
    · rintro ⟨v, hv, c, hmem, hc⟩
      exact ⟨c, ⟨v, hv, hc⟩, hmem⟩
  simp only [isOf, Bool.and_eq_true, beq_iff_eq, Bool.or_eq_true, Bool.not_eq_true', hcurve,
    Json.only?_bind_eq_some_iff, List.all_eq_true, Json.isSome_only?_bind]
  constructor
  · rintro ⟨⟨htype, hcurve⟩, htexts⟩
    exact ⟨htype, fun h => hcurve.resolve_left (by simp [h]), htexts⟩
  · rintro ⟨htype, hcurve, htexts⟩
    refine ⟨⟨htype, ?_⟩, htexts⟩
    cases hhas : family.hasCurve with
    | false => exact .inl rfl
    | true => exact .inr (hcurve hhas)

theorem hasCommonMembers_iff {members : List (String × Json)} :
    hasCommonMembers members = true ↔ IsCommon members := by
  simp only [hasCommonMembers, Bool.and_eq_true, List.all_eq_true, Json.isSome_only?_bind,
    Json.optionalText?_eq_some_iff, Json.optionalTexts?_eq_some_iff,
    Json.optionalChoice?_eq_some_iff]
  exact ⟨fun ⟨⟨htexts, hlists⟩, halgorithm⟩ => ⟨htexts, hlists, halgorithm⟩,
    fun ⟨htexts, hlists, halgorithm⟩ => ⟨⟨htexts, hlists⟩, halgorithm⟩⟩

theorem isOptional_iff {v : Json} : isOptional v = true ↔ IsOptionalKey v := by
  have hkey (w : Json) : (w.progress Json.maxNesting == .complete &&
      w.members?.any fun members =>
        hasCommonMembers members && families.any (isOf members)) = true ↔
      w.progress Json.maxNesting = .complete ∧ ∃ members, w.members? = some members ∧ IsCommon members ∧
        ∃ family ∈ families, IsOf members family := by
    simp only [Bool.and_eq_true, beq_iff_eq, Option.any_eq_true, List.any_eq_true,
      hasCommonMembers_iff, isOf_iff]
  constructor
  · intro h
    unfold isOptional at h
    split at h
    · exact .missing
    · obtain ⟨hread, members, hmembers, hcommon, family, hfamily, hof⟩ := (hkey v).mp h
      exact .key hread hmembers hcommon hfamily hof
  · rintro (_ | ⟨hread, hmembers, hcommon, hfamily, hof⟩)
    · rfl
    · have h := (hkey v).mpr ⟨hread, _, hmembers, hcommon, _, hfamily, hof⟩
      unfold isOptional
      split
      · rfl
      · exact h

end Key

namespace Header

/-- The members of a header that names an algorithm. -/
structure IsTyped (members : List (String × Json)) (algorithm : Algorithm) : Prop where
  algorithm : Has members ["alg"] fun v =>
    ∃ name, v.choice? = some name ∧ Algorithm.ofName? name = some algorithm
  texts : ∀ name ∈ textNames, Has members [name] fun v => ∃ s, OrNull Json.text? v s
  chain : Has members ["x5c"] fun v => ∃ ss, OrNull Json.texts? v ss
  key : Has members ["jwk"] Key.IsOptionalKey

/-- A well-typed header that names an algorithm. -/
def Names (v : Json) (algorithm : Algorithm) : Prop :=
  ∃ members, members? v = some members ∧ IsTyped members algorithm

/-- A header is read exactly if it is well-typed. -/
theorem algorithm?_eq_some_iff {v : Json} {algorithm : Algorithm} :
    algorithm? v = some algorithm ↔ Names v algorithm := by
  have htyped (members : List (String × Json)) :
      (textNames.all (fun name =>
          ((Json.only? members [name]).bind Json.optionalText?).isSome) &&
        ((Json.only? members ["x5c"]).bind Json.optionalTexts?).isSome &&
        (Json.only? members ["jwk"]).any Key.isOptional) = true ↔
      (∀ name ∈ textNames, Has members [name] fun v => ∃ s, OrNull Json.text? v s) ∧
        (Has members ["x5c"] fun v => ∃ ss, OrNull Json.texts? v ss) ∧
          Has members ["jwk"] Key.IsOptionalKey := by
    simp only [Bool.and_eq_true, List.all_eq_true, Json.isSome_only?_bind, Json.any_only?,
      Json.optionalText?_eq_some_iff, Json.optionalTexts?_eq_some_iff, Key.isOptional_iff,
      and_assoc]
  simp only [algorithm?, Option.bind_eq_bind, Option.bind_eq_some_iff, Option.pure_def,
    Option.ite_none_right_eq_some, Option.some.injEq, htyped, Json.only?_eq_some_iff]
  constructor
  · rintro ⟨members, hmembers, w, hw, _, ⟨name, hchoice, hname⟩, ⟨htexts, hchain, hkey⟩, rfl⟩
    exact ⟨members, hmembers, ⟨w, hw, name, hchoice, hname⟩, htexts, hchain, hkey⟩
  · rintro ⟨members, hmembers, ⟨w, hw, name, hchoice, hname⟩, htexts, hchain, hkey⟩
    exact ⟨members, hmembers, w, hw, _, ⟨name, hchoice, hname⟩, ⟨htexts, hchain, hkey⟩, rfl⟩

end Header

/-! ## Payloads -/

namespace Claims

/-- A group of texts: one text, a list of them, or nothing. -/
inductive IsGroup : Json → TextSet → Prop
  | none : IsGroup .null Ordered.empty
  | one {v : Json} {s : String} (h : v.text? = some s) : IsGroup v (TextSet.ofList [s])
  | many {v : Json} {ss : List String} (h : v.texts? = some ss) : IsGroup v (TextSet.ofList ss)

theorem group?_eq_some_iff {v : Json} {group : TextSet} :
    group? v = some group ↔ IsGroup v group := by
  constructor
  · intro h
    unfold group? at h
    split at h
    · cases h
      exact .none
    · obtain ⟨ss, hss, rfl⟩ := Option.map_eq_some_iff.mp h
      exact .many hss
    · obtain ⟨s, hs, rfl⟩ := Option.map_eq_some_iff.mp h
      exact .one hs
  · rintro (_ | h | h)
    · rfl
    · cases v <;> first
        | exact congrArg (Option.map _) h
        | cases h
    · cases v <;> first
        | exact congrArg (Option.map _) h
        | cases h

/-- Values state claims, one value each in the order of the claims' names. -/
inductive States : List Json → Claims → Prop
  | values {subject name clientId roles permissions : Json} {claims : Claims}
    (hsubject : OrNull Json.text? subject claims.subject)
    (hname : OrNull Json.text? name claims.name)
    (hclient : OrNull Json.text? clientId claims.clientId)
    (hroles : IsGroup roles claims.roles) (hpermissions : IsGroup permissions claims.permissions) :
    States [subject, name, clientId, roles, permissions] claims

theorem ofValues?_eq_some_iff {values : List Json} {claims : Claims} :
    ofValues? values = some claims ↔ States values claims := by
  constructor
  · intro h
    unfold ofValues? at h
    split at h
    · simp only [Option.bind_eq_bind, Option.bind_eq_some_iff, Option.pure_def,
        Option.some.injEq, Json.optionalText?_eq_some_iff, group?_eq_some_iff] at h
      obtain ⟨_, hsubject, _, hname, _, hclient, _, hroles, _, hpermissions, rfl⟩ := h
      exact ⟨hsubject, hname, hclient, hroles, hpermissions⟩
    · cases h
  · rintro ⟨hsubject, hname, hclient, hroles, hpermissions⟩
    simp only [ofValues?, Json.optionalText?_eq_some_iff.mpr hsubject,
      Json.optionalText?_eq_some_iff.mpr hname, Json.optionalText?_eq_some_iff.mpr hclient,
      group?_eq_some_iff.mpr hroles, group?_eq_some_iff.mpr hpermissions, Option.bind_eq_bind,
      Option.bind_some, Option.pure_def]

/-- Each registered claim is there once at most, and its value does not keep what comes after it
from being read. -/
def IsRegular (members : List (String × Json)) : Prop :=
  ∀ claim ∈ registered, Has members [claim.1] fun v => claim.2 v ≠ .stuck

theorem isRegular_iff {members : List (String × Json)} :
    isRegular members = true ↔ IsRegular members := by
  simp only [isRegular, IsRegular, List.all_eq_true, Json.any_only?, bne_iff_ne]

/-- A payload that states claims: an object with at most one value for each claim, none of them a
registered claim that stops its reader, or the list of the values. -/
inductive Describes : Json → Claims → Prop
  | object {ms : List (List Json.Piece × Json)} {members : List (String × Json)}
    {values : List Json} {claims : Claims} (hmembers : (Json.object ms).members? = some members)
    (hvalues : List.Forall₂ (Only members) names values) (hregular : IsRegular members)
    (hstates : States values claims) : Describes (.object ms) claims
  | list {items : List Json} {claims : Claims} (hstates : States items claims) :
    Describes (.array items) claims

theorem mapM_only?_eq_some_iff {members : List (String × Json)} {names : List (List String)}
    {values : List Json} : names.mapM (Json.only? members) = some values ↔
      List.Forall₂ (Only members) names values := by
  induction names generalizing values with
  | nil => simp [eq_comm]
  | cons n ns ih =>
    simp only [List.mapM_cons, Option.bind_eq_bind, Option.bind_eq_some_iff, Option.pure_def,
      Option.some.injEq, Json.only?_eq_some_iff, ih, List.forall₂_cons_left_iff]
    exact ⟨fun ⟨v, hv, vs, hvs, h⟩ => ⟨v, vs, hv, hvs, h.symm⟩,
      fun ⟨v, vs, hv, hvs, h⟩ => ⟨v, hv, vs, hvs, h.symm⟩⟩

/-- A payload is read exactly if it states claims. -/
theorem ofJson?_eq_some_iff {v : Json} {claims : Claims} :
    ofJson? v = some claims ↔ Describes v claims := by
  constructor
  · intro h
    unfold ofJson? at h
    split at h
    · exact .list (ofValues?_eq_some_iff.mp h)
    · simp only [Option.bind_eq_bind, Option.bind_eq_some_iff, Option.ite_none_right_eq_some,
        isRegular_iff, ofValues?_eq_some_iff, mapM_only?_eq_some_iff] at h
      obtain ⟨members, hmembers, values, hvalues, hregular, hstates⟩ := h
      cases v with
      | object ms => exact .object hmembers hvalues hregular hstates
      | _ => cases hmembers
  · rintro (⟨hmembers, hvalues, hregular, hstates⟩ | hstates)
    · simp only [ofJson?, hmembers, mapM_only?_eq_some_iff.mpr hvalues,
        isRegular_iff.mpr hregular, if_true, ofValues?_eq_some_iff.mpr hstates,
        Option.bind_eq_bind, Option.bind_some]
    · exact ofValues?_eq_some_iff.mpr hstates

end Claims

/-! ## Parts -/

/-- A part of a token holds a value: it is the written form of a text that holds it. -/
def Holds (part : List Char) (v : Json) : Prop :=
  ∃ bytes, part = Base64Url.encode bytes ∧ Json.IsText v bytes

theorem readPart_eq_ok_iff {part : List Char} {v : Json} :
    readPart part = .ok v ↔ Holds part v := by
  simp only [Holds, ← Base64Url.decode?_eq_some_iff, ← Json.parse?_eq_some_iff]
  unfold readPart
  constructor
  · intro h
    split at h
    · cases h
    · rename_i bytes hbytes
      split at h
      · cases h
      · cases h
        exact ⟨bytes, hbytes, ‹_›⟩
  · rintro ⟨bytes, hbytes, hv⟩
    simp only [hbytes, hv]

/-- A part of a token holds one value at most. -/
theorem Holds.unique {part : List Char} {v w : Json} (hv : Holds part v) (hw : Holds part w) :
    v = w := by
  rw [← readPart_eq_ok_iff] at hv hw
  exact Except.ok.inj (hv.symm.trans hw)

theorem readHeader_eq_ok_iff {part : List Char} {algorithm : Algorithm} :
    readHeader part = .ok algorithm ↔ ∃ v, Holds part v ∧ Header.Names v algorithm := by
  simp only [← readPart_eq_ok_iff, ← Header.algorithm?_eq_some_iff, readHeader]
  cases readPart part with
  | error e => simp
  | ok v => cases halgorithm : Header.algorithm? v <;> simp [halgorithm]

theorem readPayload_eq_ok_iff {part : List Char} {claims : Claims} :
    readPayload part = .ok claims ↔ ∃ v, Holds part v ∧ Claims.Describes v claims := by
  simp only [← readPart_eq_ok_iff, ← Claims.ofJson?_eq_some_iff, readPayload]
  cases readPart part with
  | error e => simp
  | ok v => cases hclaims : Claims.ofJson? v <;> simp [hclaims]

end ItemCatalog.Token
