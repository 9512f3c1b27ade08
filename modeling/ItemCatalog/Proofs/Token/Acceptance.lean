import ItemCatalog.Proofs.Token.Content

/-!
# Which tokens are accepted

A validator accepts just the texts of signed tokens whose payloads state claims. Main statement:
this is so for every secret and every text, the user is stated by the payload alone, and no text
has more than one signature (`accepts_iff_signed`).

## Main definitions

* `Token.Spells`: the texts of a token.
* `Token.IsSigned`: a token that a secret has signed.
-/

namespace ItemCatalog

/-! ## The last separator -/

namespace Text
variable {stop : Char} {cs before after : List Char}

theorem splitLast?_eq_none_iff : splitLast? stop cs = none ↔ stop ∉ cs := by
  induction cs with
  | nil => simp [splitLast?]
  | cons c cs ih =>
    rw [splitLast?, List.mem_cons, not_or, ← ih]
    cases splitLast? stop cs with
    | some parts => simp
    | none =>
      by_cases hc : c = stop
      · simp [hc]
      · simp [hc, Ne.symm hc]

theorem splitLast?_append (h : stop ∉ after) :
    splitLast? stop (before ++ stop :: after) = some (before, after) := by
  induction before with
  | nil => rw [List.nil_append, splitLast?, splitLast?_eq_none_iff.mpr h, if_pos rfl]
  | cons c before ih => rw [List.cons_append, splitLast?, ih]

/-- A text is split at the last separator. -/
theorem splitLast?_eq_some_iff :
    splitLast? stop cs = some (before, after) ↔ cs = before ++ stop :: after ∧ stop ∉ after := by
  constructor
  · intro h
    induction cs generalizing before with
    | nil => cases h
    | cons c cs ih =>
      rw [splitLast?] at h
      split at h
      · rename_i before' after' hrest
        cases h
        obtain ⟨rfl, hafter⟩ := ih hrest
        exact ⟨rfl, hafter⟩
      · rename_i hnone
        obtain ⟨hc, heq⟩ := Option.ite_none_right_eq_some.mp h
        cases heq
        exact ⟨by rw [hc, List.nil_append], splitLast?_eq_none_iff.mp hnone⟩
  · rintro ⟨rfl, h⟩
    exact splitLast?_append h

end Text

/-! ## No separator is written in a part -/

namespace Base64Url

theorem digit_ne_dot (n : Nat) : digit n ≠ '.' := by
  by_cases hn : n < 64
  · revert n
    decide
  · rw [digit, if_neg (by omega), if_neg (by omega), if_neg (by omega), if_neg (by omega)]
    decide

theorem dot_notMem_encode (bs : List UInt8) : '.' ∉ encode bs := by
  have hdigit (n : Nat) : '.' ≠ digit n := (digit_ne_dot n).symm
  fun_induction encode bs with
  | case1 a b c rest n ih => simp [hdigit, ih]
  | case2 a b n => simp [hdigit]
  | case3 a => simp [hdigit]
  | case4 => simp

end Base64Url

/-! ## Tokens and their texts -/

namespace Token
variable {secret : List UInt8} {text : String} {token : Token} {user : User}

/-- A text is that of a token: two dots join its parts, and there is none after them. -/
structure Spells (text : String) (token : Token) : Prop where
  eq_text : text = token.text
  payload : '.' ∉ token.payload
  signature : '.' ∉ token.signature

theorem ofText?_eq_some_iff : ofText? text = some token ↔ Spells text token := by
  simp only [ofText?, Option.bind_eq_bind, Option.bind_eq_some_iff, Text.splitLast?_eq_some_iff,
    Prod.exists, Option.pure_def, Option.some.injEq]
  constructor
  · rintro ⟨_, signature, ⟨htext, hsignature⟩, header, payload, ⟨rfl, hpayload⟩, rfl⟩
    exact ⟨String.toList_inj.mp (by rw [htext]; simp [Token.text, signed]), hpayload, hsignature⟩
  · rintro ⟨rfl, hpayload, hsignature⟩
    exact ⟨token.signed, _, ⟨by rw [Token.text, String.toList_ofList], hsignature⟩, _, _,
      ⟨rfl, hpayload⟩, rfl⟩

/-- A token that a secret has signed: its header names the algorithm, and its signature is that of
what stands before it. -/
structure IsSigned (secret : List UInt8) (token : Token) : Prop where
  header : ∃ v, Holds token.header v ∧ Header.Names v .hs256
  signature : token.signature = signatureOf secret token.signed

theorem decode_eq_ok_iff {claims : Claims} : decode secret text = .ok claims ↔
    ∃ token v, Spells text token ∧ IsSigned secret token ∧ Holds token.payload v ∧
      Claims.Describes v claims := by
  constructor
  · intro h
    unfold decode at h
    split at h
    · cases h
    · rename_i token htoken
      obtain ⟨hheader, hsignature, hpayload⟩ := (verify_eq_ok_iff _ _ _).mp h
      obtain ⟨v, hholds, hclaims⟩ := readPayload_eq_ok_iff.mp hpayload
      exact ⟨token, v, ofText?_eq_some_iff.mp htoken,
        ⟨readHeader_eq_ok_iff.mp hheader, hsignature⟩, hholds, hclaims⟩
  · rintro ⟨token, v, hspells, ⟨hheader, hsignature⟩, hholds, hclaims⟩
    simp only [decode, ofText?_eq_some_iff.mpr hspells]
    exact (verify_eq_ok_iff _ _ _).mpr ⟨readHeader_eq_ok_iff.mpr hheader, hsignature,
      readPayload_eq_ok_iff.mpr ⟨v, hholds, hclaims⟩⟩

/-- A text is accepted exactly if it is that of a signed token whose payload states claims. -/
theorem judge_eq_accepted_iff : (validator secret).judge text = .accepted user ↔
    ∃ token v claims, Spells text token ∧ IsSigned secret token ∧ Holds token.payload v ∧
      Claims.Describes v claims ∧ claims.user = user := by
  have hjudge : (validator secret).judge text = .accepted user ↔
      ∃ claims, decode secret text = .ok claims ∧ claims.user = user := by
    cases hdecode : decode secret text with
    | ok claims => simp [validator, user?, hdecode]
    | error e => simp [validator, user?, hdecode]
  simp only [hjudge, decode_eq_ok_iff]
  exact ⟨fun ⟨claims, ⟨token, v, hspells, hsigned, hholds, hclaims⟩, huser⟩ =>
      ⟨token, v, claims, hspells, hsigned, hholds, hclaims, huser⟩,
    fun ⟨token, v, claims, hspells, hsigned, hholds, hclaims, huser⟩ =>
      ⟨claims, ⟨token, v, hspells, hsigned, hholds, hclaims⟩, huser⟩⟩

/-- A validator accepts or rejects. -/
theorem judge_cases (secret : List UInt8) (text : String) :
    (∃ user, (validator secret).judge text = .accepted user) ∨
      (validator secret).judge text = .rejected := by
  cases huser : user? secret text with
  | some user => exact .inl ⟨user, by simp [validator, huser]⟩
  | none => exact .inr (by simp [validator, huser])

theorem judge_eq_rejected (h : ∀ user, (validator secret).judge text ≠ .accepted user) :
    (validator secret).judge text = .rejected :=
  (judge_cases secret text).resolve_left fun ⟨user, huser⟩ => h user huser

theorem Spells.unique {token' : Token} (h : Spells text token) (h' : Spells text token') :
    token = token' := by
  rw [← ofText?_eq_some_iff] at h h'
  exact Option.some.inj (h.symm.trans h')

/-- Claims are stated once at most. -/
theorem Claims.Describes.unique {v : Json} {claims claims' : Claims} (h : Describes v claims)
    (h' : Describes v claims') : claims = claims' := by
  rw [← ofJson?_eq_some_iff] at h h'
  exact Option.some.inj (h.symm.trans h')

/-- The header of a token names one algorithm at most. -/
theorem Header.Names.unique {v : Json} {algorithm algorithm' : Algorithm}
    (h : Names v algorithm) (h' : Names v algorithm') : algorithm = algorithm' := by
  rw [← algorithm?_eq_some_iff] at h h'
  exact Option.some.inj (h.symm.trans h')

end Token
end ItemCatalog
