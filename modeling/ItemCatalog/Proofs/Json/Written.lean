import ItemCatalog.Proofs.Json.Grammar
import ItemCatalog.Proofs.Text.Utf8

/-!
# Written values are read back

What the writer makes of a text, of a list and of named values is a spelling of a value that means
the same. Main statements: a quoted text means the text (`isWritten_quote`), and what holds of
values holds of lists and of objects of them (`isWritten_list`, `isWritten_members`).

## Main definitions

* `IsBody`: bytes up to a closing quote stand for others.
* `IsWritten`: characters spell a value that is read as something.
* `membersOf?`: named values of one type that an object holds.
-/

namespace ItemCatalog.Json
open Text (utf8 utf8_cons utf8_append)
variable {α : Type} {text word : List UInt8}

/-! ## Strings -/

/-- Bytes up to a closing quote stand for these bytes of a text. -/
def IsBody (text word : List UInt8) : Prop := ∃ ps, Quoted ps word ∧ Piece.bytes? ps = some text

theorem Piece.bytes?_unit {u : UInt16} (hleading : isLeading u = false)
    (htrailing : isTrailing u = false) (ps : List Piece) :
    bytes? (.unit u :: ps) =
      (bytes? ps).map (String.utf8EncodeChar (Char.ofNat u.toNat) ++ ·) := by
  cases ps with
  | nil => simp [bytes?, hleading, htrailing]
  | cons p ps => cases p <;> simp [bytes?, hleading, htrailing]

theorem isBody_close : IsBody [] [0x22] := ⟨[], .close, rfl⟩

namespace IsBody

/-- A byte that needs no escape stands for itself. -/
theorem plain (h : IsBody text word) {b : UInt8} (hcontrol : ¬ b < 0x20) (hquote : b ≠ 0x22)
    (hescape : b ≠ 0x5C) : IsBody (b :: text) (b :: word) := by
  obtain ⟨ps, hps, hread⟩ := h
  exact ⟨_, .push (.plain hcontrol hquote hescape) hps, by rw [Piece.bytes?, hread]; rfl⟩

theorem plains (h : IsBody text word) {bs : List UInt8}
    (hbs : ∀ b ∈ bs, ¬ b < 0x20 ∧ b ≠ 0x22 ∧ b ≠ 0x5C) : IsBody (bs ++ text) (bs ++ word) := by
  induction bs with
  | nil => exact h
  | cons b bs ih =>
    obtain ⟨hcontrol, hquote, hescape⟩ := hbs b List.mem_cons_self
    exact (ih fun c hc => hbs c (List.mem_cons_of_mem b hc)).plain hcontrol hquote hescape

theorem short (h : IsBody text word) {e b : UInt8} (hshort : shortEscape? e = some b) :
    IsBody (b :: text) (0x5C :: e :: word) := by
  obtain ⟨ps, hps, hread⟩ := h
  exact ⟨_, .push (.short hshort) hps, by rw [Piece.bytes?, hread]; rfl⟩

/-- The escape of a code below 32. -/
theorem unit?_encode : ∀ n < 0x20,
    utf8 (['\\', 'u'] ++ Text.Hex.encode 4 n) = [0x5C, 0x75, 0x30, 0x30,
      UInt8.ofNat (Text.Hex.digit (n / 16)).toNat, UInt8.ofNat (Text.Hex.digit (n % 16)).toNat] ∧
    unit? 0x30 0x30 (UInt8.ofNat (Text.Hex.digit (n / 16)).toNat)
      (UInt8.ofNat (Text.Hex.digit (n % 16)).toNat) = some n.toUInt16 ∧
    isLeading n.toUInt16 = false ∧ isTrailing n.toUInt16 = false ∧ n.toUInt16.toNat = n := by
  decide

/-- A control character is written as the escape of its code. -/
theorem control (h : IsBody text word) {c : Char} (hc : c.toNat < 0x20) :
    IsBody (String.utf8EncodeChar c ++ text)
      (utf8 (['\\', 'u'] ++ Text.Hex.encode 4 c.toNat) ++ word) := by
  obtain ⟨ps, hps, hread⟩ := h
  obtain ⟨hword, hunit, hleading, htrailing, hcode⟩ := unit?_encode c.toNat hc
  rw [hword]
  refine ⟨_, .push (.unit hunit) hps, ?_⟩
  rw [Piece.bytes?_unit hleading htrailing, hread, hcode, Char.ofNat_toNat]
  rfl

/-- A character is written so that its bytes are read back. -/
theorem quoteChar (h : IsBody text word) (c : Char) :
    IsBody (String.utf8EncodeChar c ++ text) (utf8 (Json.quoteChar c) ++ word) := by
  unfold Json.quoteChar
  -- Seven characters have a short escape, other control characters are written by their codes.
  iterate 7
    split
    · next hc => subst hc; exact h.short rfl
  split
  · next hc => exact h.control hc
  · next hquote hescape _ _ _ _ _ hcontrol =>
    rw [utf8_cons, Text.utf8_nil, List.append_nil]
    refine h.plains fun b hb => ?_
    have hne {d : Char} (hd : d.toNat < 128) (hc : c ≠ d) : b.toNat ≠ d.toNat := by
      rw [← Char.toNat_inj.ne] at hc
      rcases Text.mem_utf8EncodeChar hb with h | h <;> omega
    rw [UInt8.lt_iff_toNat_lt, ← UInt8.toNat_inj.ne, ← UInt8.toNat_inj.ne]
    refine ⟨?_, hne (by decide) hquote, hne (by decide) hescape⟩
    change ¬ b.toNat < 32
    rcases Text.mem_utf8EncodeChar hb with h | h <;> omega

theorem quote (cs : List Char) :
    IsBody (utf8 cs) (utf8 (cs.flatMap Json.quoteChar ++ ['"'])) := by
  induction cs with
  | nil => exact isBody_close
  | cons c cs ih =>
    rw [List.flatMap_cons, List.append_assoc, utf8_append, utf8_cons]
    exact ih.quoteChar c

end IsBody

/-- What stands after the opening quote of a written text is its string. -/
theorem exists_pieces (s : String) :
    ∃ ps, Quoted ps (utf8 (s.toList.flatMap quoteChar ++ ['"'])) ∧ Piece.text? ps = some s := by
  obtain ⟨ps, hps, hread⟩ := IsBody.quote s.toList
  exact ⟨ps, hps, by rw [Piece.text?, hread, Option.bind_some, Text.ofBytes?_utf8]⟩

/-! ## Values -/

/-- Characters spell a value that is read as `a`. -/
def IsWritten (read? : Json → Option α) (a : α) (cs : List Char) : Prop :=
  ∃ v, Spells (.value v) (utf8 cs) ∧ read? v = some a

/-- What is written is read from the whole of a text. -/
theorem IsWritten.parse? {read? : Json → Option α} {a : α} {cs : List Char}
    (h : IsWritten read? a cs) :
    (Json.parse? (Text.bytes (String.ofList cs))).bind read? = some a := by
  obtain ⟨v, hv, hread⟩ := h
  have hparse : Json.parse? (utf8 cs) = some v :=
    parse?_eq_some_iff.2 ⟨_, [], hv, .nil, (List.append_nil _).symm⟩
  rw [Text.bytes_ofList, hparse, Option.bind_some, hread]

/-- A quoted text means the text. -/
theorem isWritten_quote (s : String) : IsWritten text? s (quote s) := by
  obtain ⟨ps, hps, htext⟩ := exists_pieces s
  exact ⟨.string ps, .string hps, htext⟩

/-! ## Lists -/

variable {read? : Json → Option α} {write : α → List Char}

/-- What is written for a list from its first item to its closing bracket. -/
theorem exists_items (hwrite : ∀ a, IsWritten read? a (write a)) (a : α) (as : List α) :
    ∃ vs, Spells (.items vs)
        (utf8 (List.intercalate [','] ((a :: as).map write) ++ [']'])) ∧
      vs.mapM read? = some (a :: as) := by
  induction as generalizing a with
  | nil =>
    obtain ⟨v, hv, hread⟩ := hwrite a
    refine ⟨[v], ?_, by simp [hread]⟩
    rw [List.map_singleton, List.intercalate_singleton, utf8_append]
    have hspelled := Spells.lastItem hv .nil
    rwa [List.append_nil] at hspelled
  | cons b as ih =>
    obtain ⟨v, hv, hread⟩ := hwrite a
    obtain ⟨vs, hvs, hreads⟩ := ih b
    refine ⟨v :: vs, ?_, by simp [hread, hreads]⟩
    rw [List.map_cons, List.map_cons, List.intercalate_cons_cons, List.append_assoc,
      List.append_assoc, utf8_append, utf8_append]
    have hspelled := Spells.item hv .nil hvs
    rwa [List.append_nil] at hspelled

/-- A list of written values means the list. -/
theorem isWritten_list {list? : Json → Option (List α)}
    (hlist : ∀ vs, list? (.array vs) = vs.mapM read?) (hwrite : ∀ a, IsWritten read? a (write a))
    (as : List α) : IsWritten list? as (enclose '[' ']' (as.map write)) := by
  cases as with
  | nil => exact ⟨.array [], .noItems .nil, hlist []⟩
  | cons a as =>
    obtain ⟨vs, hvs, hreads⟩ := exists_items hwrite a as
    exact ⟨.array vs, .array hvs, (hlist vs).trans hreads⟩

/-! ## Objects -/

/-- The values of one type that an object holds, with their names in order. -/
def membersOf? (read? : Json → Option α) (v : Json) : Option (List (String × α)) :=
  v.members?.bind fun ms => ms.mapM fun m => (read? m.2).map (m.1, ·)

/-- A name and a value as they are written in an object. -/
def member (write : α → List Char) (e : String × α) : List Char :=
  quote e.1 ++ ':' :: write e.2

theorem membersOf?_cons {ps : List Piece} {v : Json} {ms : List (List Piece × Json)} {k : String}
    {a : α} {es : List (String × α)} (hname : Piece.text? ps = some k) (hread : read? v = some a)
    (hrest : membersOf? read? (.object ms) = some es) :
    membersOf? read? (.object ((ps, v) :: ms)) = some ((k, a) :: es) := by
  obtain ⟨named, hnamed, hes⟩ := Option.bind_eq_some_iff.1 hrest
  refine Option.bind_eq_some_iff.2 ⟨(k, v) :: named, ?_, by simp [hread, hes]⟩
  rw [members?] at hnamed ⊢
  simp [hname, hnamed]

theorem utf8_member (e : String × α) : utf8 (member write e) =
    0x22 :: (utf8 (e.1.toList.flatMap quoteChar ++ ['"']) ++ 0x3A :: utf8 (write e.2)) := by
  change utf8 ('"' :: (e.1.toList.flatMap quoteChar ++ ['"']) ++ ':' :: write e.2) = _
  rw [utf8_append]
  rfl

/-- What is written for an object from its first member to its closing brace. -/
theorem exists_members (hwrite : ∀ a, IsWritten read? a (write a)) (e : String × α)
    (es : List (String × α)) :
    ∃ ms, Spells (.members ms)
        (utf8 (List.intercalate [','] ((e :: es).map (member write)) ++ ['}'])) ∧
      membersOf? read? (.object ms) = some (e :: es) := by
  induction es generalizing e with
  | nil =>
    obtain ⟨ps, hps, hname⟩ := exists_pieces e.1
    obtain ⟨v, hv, hread⟩ := hwrite e.2
    refine ⟨[(ps, v)], ?_, membersOf?_cons hname hread rfl⟩
    rw [List.map_singleton, List.intercalate_singleton, utf8_append, utf8_member, List.cons_append,
      List.append_assoc]
    have hspelled := Spells.lastMember hps .nil hv .nil
    rwa [List.append_nil, List.append_nil] at hspelled
  | cons f es ih =>
    obtain ⟨ps, hps, hname⟩ := exists_pieces e.1
    obtain ⟨v, hv, hread⟩ := hwrite e.2
    obtain ⟨ms, hms, hreads⟩ := ih f
    refine ⟨(ps, v) :: ms, ?_, membersOf?_cons hname hread hreads⟩
    rw [List.map_cons, List.map_cons, List.intercalate_cons_cons, List.append_assoc,
      List.append_assoc, utf8_append, utf8_append, utf8_member, List.cons_append, List.append_assoc]
    have hspelled := Spells.member hps .nil hv .nil hms
    rwa [List.append_nil, List.append_nil] at hspelled

/-- Named values that are written mean those values under those names. -/
theorem isWritten_members (hwrite : ∀ a, IsWritten read? a (write a))
    (es : List (String × α)) :
    IsWritten (membersOf? read?) es (enclose '{' '}' (es.map (member write))) := by
  cases es with
  | nil => exact ⟨.object [], .noMembers .nil, rfl⟩
  | cons e es =>
    obtain ⟨ms, hms, hreads⟩ := exists_members hwrite e es
    exact ⟨.object ms, .object hms, hreads⟩

end ItemCatalog.Json
