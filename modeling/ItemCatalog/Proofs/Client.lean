import ItemCatalog.Client
import ItemCatalog.Proofs.Call
import ItemCatalog.Proofs.Metadata

/-!
# Tokens between client and server

A client puts a mark in front of its token and sends both with every call; the server takes the mark
off again. Main statement: `token_arrives`, by which the server finds the token in every call of the
client, without the blanks around it, unless it is blank or cannot be read.

## Main definitions

* `Client.Sent`: what a client sends to make a call.
* `Client.record`: a server that keeps all that it is sent.
* `Client.callAll`: calls made one after another.
-/

namespace ItemCatalog.Client
variable {client sender : Client} {token : String}

/-! ## What is sent -/

/-- What a client sends to make a call. -/
structure Sent where
  method : Method
  metadata : Metadata
  query : method.Query

/-- What a client sends for one of its calls. -/
def send (client : Client) (errand : Errand) : Sent :=
  ⟨errand.method, client.metadata, errand.query⟩

/-- How a server answers what it is sent, after all that it has been sent before. -/
abbrev Conduct := List Sent → (sent : Sent) → Except Status sent.method.Answer

/-- A server that keeps all that it is sent. -/
def record (conduct : Conduct) (method : Method) (metadata : Metadata) (query : method.Query) :
    StateM (List Sent) (Except Status method.Answer) := fun log =>
  let sent : Sent := ⟨method, metadata, query⟩
  (conduct log sent, log ++ [sent])

/-- Makes calls of a server one after another, whatever becomes of each. -/
def callAll (client : Client) (conduct : Conduct) : List Errand → StateM (List Sent) Unit
  | [] => return ()
  | errand :: rest => do
    let _ ← client.call (record conduct) errand
    callAll client conduct rest

theorem run_call (client : Client) (conduct : Conduct) (errand : Errand) (log : List Sent) :
    (client.call (record conduct) errand).run log =
      (settle errand (conduct log (client.send errand)), log ++ [client.send errand]) := rfl

/-- Whatever the server answers, every call sends the same as if it were the only one. -/
theorem run_callAll (client : Client) (conduct : Conduct) (errands : List Errand)
    (log : List Sent) :
    (client.callAll conduct errands).run log = ((), log ++ errands.map client.send) := by
  induction errands generalizing log with
  | nil =>
    rw [callAll, List.map_nil, List.append_nil]
    rfl
  | cons errand rest ih =>
    rw [callAll, StateT.run_bind, run_call]
    change (client.callAll conduct rest).run _ = _
    rw [ih, List.map_cons, List.append_assoc]
    rfl

/-! ## Tokens -/

theorem withToken?_eq_some_iff :
    client.withToken? token = some sender ↔
      sender = ⟨some ("Bearer " ++ token)⟩ ∧ token.toList.all Metadata.isAllowed = true := by
  have hmark : "Bearer ".toList.all Metadata.isAllowed = true := by decide
  simp only [withToken?, Metadata.all_isStorable, String.toList_append, List.all_append, hmark,
    Bool.true_and]
  by_cases h : token.toList.all Metadata.isAllowed = true
  · simp [h, eq_comm]
  · simp [h]

/-- With every call goes the marked token, and nothing else under that name. -/
theorem values_metadata (h : client.withToken? token = some sender) :
    sender.metadata.values "authorization" = [Text.bytes ("Bearer " ++ token)] := by
  rw [withToken?] at h
  split at h
  · next hstorable =>
    cases h
    rw [metadata, Metadata.values_set_self, if_pos hstorable]
  · cases h

/-- The token arrives without the blanks around it, if anything is left of it and it can be read. -/
theorem bearer?_metadata (h : client.withToken? token = some sender) :
    sender.metadata.bearer? =
      if Text.trim token ≠ "" ∧ token.toList.all Text.isPrintable = true then
        some (Text.trim token)
      else none := by
  have hmark : "Bearer ".toList.all Text.isPrintable = true := by decide
  have htext : sender.metadata.text? "authorization" =
      if token.toList.all Text.isPrintable then some ("Bearer " ++ token) else none := by
    rw [Metadata.text?, Metadata.get?, values_metadata h, List.head?_cons, Option.bind_some,
      Text.ofReadable?_bytes, String.toList_append, List.all_append, hmark, Bool.true_and]
  rw [Metadata.bearer?_eq, htext]
  by_cases hreadable : token.toList.all Text.isPrintable = true
  · rw [if_pos hreadable, Option.map_some, Metadata.tokenIn_marked]
    by_cases hblank : Text.trim token = ""
    · simp [hblank]
    · simp [hblank, hreadable]
  · simp [hreadable]

/-- A client takes any token without control characters, tabs apart. With such a token, every one of
its calls has exactly one entry for it, whatever calls went before and however they were answered;
and the server finds the token in it, without the blanks around it, unless nothing is left then or
the token holds a character that does not print as ASCII and is no tab. In whatever readable value a
server finds a token, the token is not empty, has no blank at its ends, and is a part of the value
without gaps. -/
theorem token_arrives :
    (∀ (client : Client) (token : String), (∃ sender, client.withToken? token = some sender) ↔
      ∀ c ∈ token.toList, 0x20 ≤ c.toNat ∧ c.toNat ≠ 0x7F ∨ c.toNat = 9) ∧
    (∀ (client sender : Client) (token : String), client.withToken? token = some sender →
      ∀ (conduct : Conduct) (errands : List Errand),
        let received := ((sender.callAll conduct errands).run []).2
        received.map Sent.method = errands.map Errand.method ∧
        ∀ sent ∈ received,
          sent.metadata.values "authorization" = [Text.bytes ("Bearer " ++ token)] ∧
          (Text.trim token ≠ "" →
            (∀ c ∈ token.toList, 0x20 ≤ c.toNat ∧ c.toNat ≤ 0x7E ∨ c.toNat = 9) →
            sent.metadata.bearer? = some (Text.trim token)) ∧
          (Text.trim token = "" ∨
            (∃ c ∈ token.toList, ¬(0x20 ≤ c.toNat ∧ c.toNat ≤ 0x7E ∨ c.toNat = 9)) →
            sent.metadata.bearer? = none)) ∧
    ∀ (m : Metadata) (value token : String), m.text? "authorization" = some value →
      m.bearer? = some token →
      token ≠ "" ∧ (∀ c ∈ token.toList.head?, Text.isBlank c = false) ∧
        (∀ c ∈ token.toList.getLast?, Text.isBlank c = false) ∧
        token.toList <:+: value.toList := by
  refine ⟨?taken, ?sent, ?found⟩
  case taken =>
    intro client token
    simp only [withToken?_eq_some_iff, exists_eq_left, List.all_eq_true, Metadata.isAllowed_iff]
  case sent =>
    intro client sender token h conduct errands received
    have hreceived : received = errands.map sender.send :=
      congrArg Prod.snd (run_callAll sender conduct errands [])
    rw [hreceived]
    refine ⟨List.map_map, fun sent hsent => ?_⟩
    obtain ⟨errand, -, rfl⟩ := List.mem_map.1 hsent
    have hbearer : (sender.send errand).metadata.bearer? = _ := bearer?_metadata h
    simp only [List.all_eq_true, Text.isPrintable_iff] at hbearer
    refine ⟨values_metadata h, fun hne hreadable => ?_, fun hlost => ?_⟩
    · rw [hbearer, if_pos ⟨hne, hreadable⟩]
    · rw [hbearer, if_neg]
      rintro ⟨hne, hreadable⟩
      rcases hlost with hblank | ⟨c, hc, hunreadable⟩
      · exact hne hblank
      · exact hunreadable (hreadable c hc)
  case found =>
    intro m value token hvalue htoken
    obtain ⟨value', hvalue', htoken, hne⟩ := Metadata.bearer?_eq_some_iff.1 htoken
    obtain rfl : value = value' := Option.some.inj (hvalue.symm.trans hvalue')
    obtain ⟨part, hpart, htrim⟩ := Metadata.exists_trim_eq_tokenIn value
    rw [htoken] at htrim
    subst htrim
    refine ⟨hne, fun c => Text.isBlank_of_mem_head?_trim,
      fun c => Text.isBlank_of_mem_getLast?_trim, ?_⟩
    rw [Text.toList_trim]
    exact (Text.trimChars_isInfix _).trans hpart

/-- One call of each kind. -/
def round : List Errand :=
  [.create "a", .page 1 10, .get "7", .update "7" "b", .delete "7"]

/-- A server that turns every call down. -/
def refusing : Conduct := fun _ _ => .error ⟨.unavailable, "", .empty⟩

/-- A value with a token and no mark. -/
def unmarked : Metadata := ⟨[("authorization", Text.bytes " y\t")]⟩

/-- A token that starts with the mark itself arrives as it is, without the blanks around it; and
without a mark, a token is found as well. -/
theorem marked_token_arrives :
    let sender : Client := ⟨some "Bearer \tBearer x "⟩
    withToken? {} "\tBearer x " = some sender ∧
      (∀ sent ∈ ((sender.callAll refusing round).run []).2,
        sent.metadata.bearer? = some "Bearer x") ∧
      unmarked.bearer? = some "y" ∧ "y".toList <:+: " y\t".toList := by
  intro sender
  obtain ⟨-, hsent, hfound⟩ := token_arrives
  have htaken : withToken? {} "\tBearer x " = some sender :=
    withToken?_eq_some_iff.2 ⟨rfl, by decide⟩
  have htrim : Text.trim "\tBearer x " = "Bearer x" := by decide +kernel
  have hreadable : "\tBearer x ".toList.all Text.isPrintable = true := by decide
  simp only [List.all_eq_true, Text.isPrintable_iff] at hreadable
  have harrives : ∀ sent ∈ ((sender.callAll refusing round).run []).2,
      sent.metadata.bearer? = some "Bearer x" := by
    intro sent hmem
    obtain ⟨-, hfinds, -⟩ := (hsent _ _ _ htaken refusing round).2 sent hmem
    rw [hfinds (by rw [htrim]; decide) hreadable, htrim]
  have htext : unmarked.text? "authorization" = some " y\t" := by decide +kernel
  have hbearer : unmarked.bearer? = some "y" := by decide +kernel
  exact ⟨htaken, harrives, hbearer, (hfound _ _ _ htext hbearer).2.2.2⟩

end ItemCatalog.Client
