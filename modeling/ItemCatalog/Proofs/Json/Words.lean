import Mathlib.Data.List.TakeDrop
import Mathlib.Data.List.TakeWhile
import ItemCatalog.Json.Reader

/-!
# Spelling strings and numbers

What a string and a number are spelled as in JSON, without regard to how they are read. Main
statements: a reader takes exactly a spelling from the front of what it is given
(`readString_eq_some_iff`), and a number as far as it goes (`readNumber_sound`,
`readNumber_append`).

## Main definitions

* `AreSpaces`: bytes that may stand between tokens.
* `Piece.Spelled`, `Quoted`: the spellings of a piece, and of pieces up to the closing quote.
* `IsNumber`: the spellings of numbers.
* `EndsNumber`: bytes at which a number that stands before them ends.
-/

namespace ItemCatalog.Json
variable {bs rest s : List UInt8}

/-! ## Spaces -/

/-- Bytes that may all stand between tokens. -/
def AreSpaces (s : List UInt8) : Prop := ∀ b ∈ s, isSpace b = true

theorem AreSpaces.nil : AreSpaces [] := nofun

@[simp] theorem skip_append (h : AreSpaces s) (bs : List UInt8) : skip (s ++ bs) = skip bs :=
  List.dropWhile_append_of_pos h

theorem skip_cons_of_isSpace {b : UInt8} (h : isSpace b = true) (bs : List UInt8) :
    skip (b :: bs) = skip bs := List.dropWhile_cons_of_pos h

theorem skip_cons_of_not {b : UInt8} (h : isSpace b = false) (bs : List UInt8) :
    skip (b :: bs) = b :: bs := List.dropWhile_cons_of_neg (by simp [h])

/-- What is skipped are spaces. -/
theorem exists_spaces (bs : List UInt8) : ∃ s, AreSpaces s ∧ bs = s ++ skip bs :=
  ⟨bs.takeWhile isSpace, fun _ hb => List.mem_takeWhile_imp hb,
    List.takeWhile_append_dropWhile.symm⟩

theorem skip_eq_nil_iff : skip bs = [] ↔ AreSpaces bs := by
  rw [skip, List.dropWhile_eq_nil_iff]
  rfl

/-! ## Strings -/

/-- A piece of a string is spelled as these bytes. -/
inductive Piece.Spelled : Piece → List UInt8 → Prop
  | plain {b : UInt8} (hcontrol : ¬ b < 0x20) (hquote : b ≠ 0x22) (hescape : b ≠ 0x5C) :
    Spelled (.byte b) [b]
  | short {e b : UInt8} (h : shortEscape? e = some b) : Spelled (.byte b) [0x5C, e]
  | unit {a b c d : UInt8} {u : UInt16} (h : unit? a b c d = some u) :
    Spelled (.unit u) [0x5C, 0x75, a, b, c, d]

/-- Pieces are spelled as these bytes, up to the quote after them. -/
inductive Quoted : List Piece → List UInt8 → Prop
  | close : Quoted [] [0x22]
  | push {p : Piece} {ps : List Piece} {word bs : List UInt8} (hpiece : p.Spelled word)
    (hrest : Quoted ps bs) : Quoted (p :: ps) (word ++ bs)

/-- A spelled piece is read. -/
theorem readString_append {p : Piece} {word : List UInt8} (h : p.Spelled word) (bs : List UInt8) :
    readString (word ++ bs) = (readString bs).push p := by
  cases h with
  | plain hcontrol hquote hescape =>
    rw [List.singleton_append, readString.eq_5 _ _ hquote (fun _ _ _ _ _ h => absurd h hescape)
      (fun _ _ h => absurd h hescape), if_neg (by simpa using ⟨UInt8.not_lt.mp hcontrol, hescape⟩)]
  | @short e b hshort =>
    have hunit : e ≠ 0x75 := by
      rintro rfl
      cases hshort
    rw [List.cons_append, List.singleton_append,
      readString.eq_4 _ _ fun _ _ _ _ _ h => absurd h hunit, hshort]
  | unit hunit =>
    simp only [List.cons_append, List.nil_append, readString, hunit]

theorem readString_quoted {ps : List Piece} {word : List UInt8} (h : Quoted ps word)
    (rest : List UInt8) : readString (word ++ rest) = some (ps, rest) := by
  induction h with
  | close => rfl
  | push hpiece _ ih =>
    rw [List.append_assoc, readString_append hpiece, ih]
    rfl

theorem Read.push_eq_some_iff {p : Piece} {r : Read (List Piece)} {ps : List Piece} :
    r.push p = some (ps, rest) ↔ ∃ qs, r = some (qs, rest) ∧ ps = p :: qs := by
  rw [Read.push, Option.map_eq_some_iff]
  constructor
  · rintro ⟨⟨qs, rest'⟩, hr, h⟩
    obtain ⟨rfl, rfl⟩ := Prod.mk.inj h
    exact ⟨qs, hr, rfl⟩
  · rintro ⟨qs, hr, rfl⟩
    exact ⟨_, hr, rfl⟩

/-- What is read as pieces spells them. -/
theorem readString_sound {ps : List Piece} (h : readString bs = some (ps, rest)) :
    ∃ word, Quoted ps word ∧ bs = word ++ rest := by
  fun_induction readString bs generalizing ps with
  | case1 => cases h
  | case2 rest' =>
    cases h
    exact ⟨_, .close, rfl⟩
  | case3 a b c d more u hunit ih =>
    obtain ⟨qs, hread, rfl⟩ := Read.push_eq_some_iff.mp h
    obtain ⟨word, hword, rfl⟩ := ih hread
    exact ⟨_, .push (.unit hunit) hword, rfl⟩
  | case4 => cases h
  | case5 e more _ b hshort ih =>
    obtain ⟨qs, hread, rfl⟩ := Read.push_eq_some_iff.mp h
    obtain ⟨word, hword, rfl⟩ := ih hread
    exact ⟨_, .push (.short hshort) hword, rfl⟩
  | case6 => cases h
  | case7 => cases h
  | case8 b more hquote _ _ hplain ih =>
    obtain ⟨qs, hread, rfl⟩ := Read.push_eq_some_iff.mp h
    obtain ⟨word, hword, rfl⟩ := ih hread
    simp only [Bool.or_eq_true, decide_eq_true_eq, beq_iff_eq, not_or] at hplain
    exact ⟨_, .push (.plain hplain.1 hquote hplain.2) hword, rfl⟩

/-- The reader of strings takes exactly a spelling of pieces. -/
theorem readString_eq_some_iff {ps : List Piece} :
    readString bs = some (ps, rest) ↔ ∃ word, Quoted ps word ∧ bs = word ++ rest := by
  refine ⟨readString_sound, ?_⟩
  rintro ⟨word, hword, rfl⟩
  exact readString_quoted hword rest

/-! ## Numbers -/

/-- One digit or more. -/
def AreDigits (ds : List UInt8) : Prop := ds ≠ [] ∧ ∀ b ∈ ds, isDigit b = true

/-- The whole part of a number starts with a zero only if it is one. -/
def IsWhole (ds : List UInt8) : Prop := AreDigits ds ∧ (ds.head? = some 0x30 → ds = [0x30])

/-- The fraction of a number, which may be missing. -/
inductive IsFraction : List UInt8 → Prop
  | missing : IsFraction []
  | digits {ds : List UInt8} (h : AreDigits ds) : IsFraction (0x2E :: ds)

/-- The exponent of a number, which may be missing. -/
inductive IsExponent : List UInt8 → Prop
  | missing : IsExponent []
  | digits {e : UInt8} {ds : List UInt8} (he : e = 0x65 ∨ e = 0x45) (h : AreDigits ds) :
    IsExponent (e :: ds)
  | signed {e sign : UInt8} {ds : List UInt8} (he : e = 0x65 ∨ e = 0x45)
    (hsign : sign = 0x2B ∨ sign = 0x2D) (h : AreDigits ds) : IsExponent (e :: sign :: ds)

/-- A number without its sign. -/
inductive IsUnsigned : List UInt8 → Prop
  | parts {whole fraction exponent : List UInt8} (hwhole : IsWhole whole)
    (hfraction : IsFraction fraction) (hexponent : IsExponent exponent) :
    IsUnsigned (whole ++ fraction ++ exponent)

/-- A number. -/
inductive IsNumber : List UInt8 → Prop
  | positive {ds : List UInt8} (h : IsUnsigned ds) : IsNumber ds
  | negative {ds : List UInt8} (h : IsUnsigned ds) : IsNumber (0x2D :: ds)

/-- Bytes that do not begin with a digit. -/
def EndsDigits (rest : List UInt8) : Prop := ∀ b ∈ rest.head?, isDigit b = false

/-- Bytes that do not begin with anything that could belong to a number before them. -/
def EndsNumber (rest : List UInt8) : Prop :=
  EndsDigits rest ∧ ∀ b ∈ rest.head?, b ≠ 0x2E ∧ b ≠ 0x65 ∧ b ≠ 0x45

theorem readDigits_sound {ds : List UInt8} (h : readDigits bs = some (ds, rest)) :
    AreDigits ds ∧ bs = ds ++ rest := by
  rw [readDigits, List.span_eq_takeWhile_dropWhile] at h
  split at h
  · cases h
  · rename_i hne heq
    obtain ⟨htake, hdrop⟩ := Prod.mk.inj heq
    cases h
    refine ⟨⟨fun hnil => hne hnil, fun b hb => ?_⟩, ?_⟩
    · exact List.mem_takeWhile_imp (htake ▸ hb)
    · rw [← htake, ← hdrop, List.takeWhile_append_dropWhile]

/-- Elements up to the first that fails a test, where the rest begins with one that fails it. -/
theorem span_append {α : Type} {p : α → Bool} {front rest : List α}
    (hfront : ∀ a ∈ front, p a = true) (hrest : ∀ a ∈ rest.head?, p a = false) :
    (front ++ rest).span p = (front, rest) := by
  rw [List.span_eq_takeWhile_dropWhile, List.takeWhile_append_of_pos hfront,
    List.dropWhile_append_of_pos hfront]
  cases rest with
  | nil => simp
  | cons a rest => simp [hrest a rfl]

theorem readDigits_append {ds : List UInt8} (h : AreDigits ds) (hrest : EndsDigits rest) :
    readDigits (ds ++ rest) = some (ds, rest) := by
  obtain ⟨hne, hdigits⟩ := h
  rw [readDigits, span_append hdigits hrest]
  split
  · rename_i heq
    exact absurd (Prod.mk.inj heq).1 hne
  · rename_i heq
    cases heq
    rfl

theorem readWhole_sound {ds : List UInt8} (h : readWhole bs = some (ds, rest)) :
    IsWhole ds ∧ bs = ds ++ rest := by
  have hdigits : ∀ b ∈ ([0x30] : List UInt8), isDigit b = true := by
    intro b hb
    rw [List.mem_singleton.mp hb]
    rfl
  have hzero : IsWhole [0x30] := ⟨⟨List.cons_ne_nil _ _, hdigits⟩, fun _ => rfl⟩
  unfold readWhole at h
  split at h
  · split at h
    · split at h
      · cases h
      · cases h
        exact ⟨hzero, rfl⟩
    · cases h
      exact ⟨hzero, rfl⟩
  · rename_i hne
    obtain ⟨hds, rfl⟩ := readDigits_sound h
    refine ⟨⟨hds, fun hhead => ?_⟩, rfl⟩
    obtain ⟨tail, rfl⟩ := List.head?_eq_some_iff.mp hhead
    exact absurd rfl (hne (tail ++ rest))

theorem readWhole_append {ds : List UInt8} (h : IsWhole ds) (hrest : EndsDigits rest) :
    readWhole (ds ++ rest) = some (ds, rest) := by
  obtain ⟨hds, hlone⟩ := h
  by_cases hzero : ds.head? = some 0x30
  · rw [hlone hzero]
    cases rest with
    | nil => rfl
    | cons b rest =>
      change (if isDigit b then none else some ([0x30], b :: rest)) = _
      rw [if_neg (by simp [hrest b rfl])]
  · obtain ⟨d, tail, rfl⟩ := List.exists_cons_of_ne_nil hds.1
    unfold readWhole
    split
    · rename_i heq
      cases heq
      exact absurd rfl hzero
    · exact readDigits_append hds hrest

theorem readFraction_sound {ds : List UInt8} (h : readFraction bs = some (ds, rest)) :
    IsFraction ds ∧ bs = ds ++ rest := by
  unfold readFraction at h
  split at h
  · obtain ⟨⟨ds', rest'⟩, hread, heq⟩ := Option.map_eq_some_iff.mp h
    cases heq
    obtain ⟨hds, rfl⟩ := readDigits_sound hread
    exact ⟨.digits hds, rfl⟩
  · cases h
    exact ⟨.missing, rfl⟩

theorem readFraction_append {ds : List UInt8} (h : IsFraction ds) (hrest : EndsDigits rest)
    (hdot : ∀ b ∈ rest.head?, b ≠ 0x2E) : readFraction (ds ++ rest) = some (ds, rest) := by
  cases h with
  | missing =>
    rw [List.nil_append]
    unfold readFraction
    split
    · exact absurd rfl (hdot _ rfl)
    · rfl
  | digits hds =>
    change (readDigits (_ ++ rest)).map _ = _
    rw [readDigits_append hds hrest]
    rfl

theorem readExponent_sound {ds : List UInt8} (h : readExponent bs = some (ds, rest)) :
    IsExponent ds ∧ bs = ds ++ rest := by
  unfold readExponent at h
  split at h
  · rename_i e more
    split at h
    · rename_i he
      rw [Bool.or_eq_true, beq_iff_eq, beq_iff_eq] at he
      split at h
      · rename_i sign more
        split at h
        · rename_i hsign
          rw [Bool.or_eq_true, beq_iff_eq, beq_iff_eq] at hsign
          obtain ⟨⟨ds', rest'⟩, hread, heq⟩ := Option.map_eq_some_iff.mp h
          cases heq
          obtain ⟨hds, rfl⟩ := readDigits_sound hread
          exact ⟨.signed he hsign hds, rfl⟩
        · obtain ⟨⟨ds', rest'⟩, hread, heq⟩ := Option.map_eq_some_iff.mp h
          cases heq
          obtain ⟨hds, hmore⟩ := readDigits_sound hread
          exact ⟨.digits he hds, congrArg (e :: ·) hmore⟩
      · cases h
    · cases h
      exact ⟨.missing, rfl⟩
  · cases h
    exact ⟨.missing, rfl⟩

/-- A sign is no digit. -/
theorem not_sign_of_areDigits {b : UInt8} {ds : List UInt8} (h : AreDigits (b :: ds)) :
    ¬ (b = 0x2B ∨ b = 0x2D) := by
  have hdigit : isDigit b = true := h.2 b List.mem_cons_self
  rintro (rfl | rfl) <;> exact absurd hdigit (by decide)

theorem readExponent_append {ds : List UInt8} (h : IsExponent ds) (hrest : EndsNumber rest) :
    readExponent (ds ++ rest) = some (ds, rest) := by
  cases h with
  | missing =>
    cases rest with
    | nil => rfl
    | cons b rest =>
      obtain ⟨-, hb⟩ := hrest.2 b rfl
      simp [readExponent, hb]
  | @digits e ds he hds =>
    obtain ⟨d, tail, rfl⟩ := List.exists_cons_of_ne_nil hds.1
    have hread := readDigits_append hds hrest.1
    have hsign := not_sign_of_areDigits hds
    simp only [List.cons_append] at hread ⊢
    simp only [readExponent, Bool.or_eq_true, beq_iff_eq, he, hsign, if_true, if_false, hread,
      Option.map_some]
  | signed he hsign hds =>
    have hread := readDigits_append hds hrest.1
    simp only [List.cons_append, readExponent, Bool.or_eq_true, beq_iff_eq, he, hsign, if_true,
      hread, Option.map_some]

theorem readUnsigned_sound {ds : List UInt8} (h : readUnsigned bs = some (ds, rest)) :
    IsUnsigned ds ∧ bs = ds ++ rest := by
  simp only [readUnsigned, Option.bind_eq_some_iff, Option.map_eq_some_iff, Prod.exists] at h
  obtain ⟨whole, _, hread, fraction, _, hread', exponent, _, hread'', heq⟩ := h
  obtain ⟨hwhole, rfl⟩ := readWhole_sound hread
  obtain ⟨hfraction, rfl⟩ := readFraction_sound hread'
  obtain ⟨hexponent, rfl⟩ := readExponent_sound hread''
  cases heq
  exact ⟨.parts hwhole hfraction hexponent, by simp only [List.append_assoc]⟩

/-- An exponent cannot be taken for digits or a fraction. -/
theorem IsExponent.ends {ds : List UInt8} (h : IsExponent ds) (hrest : EndsNumber rest) :
    EndsDigits (ds ++ rest) ∧ ∀ b ∈ (ds ++ rest).head?, b ≠ 0x2E := by
  have hletter {e : UInt8} (he : e = 0x65 ∨ e = 0x45) : isDigit e = false ∧ e ≠ 0x2E := by
    rcases he with rfl | rfl <;> decide
  cases h with
  | missing => exact ⟨hrest.1, fun b hb => (hrest.2 b hb).1⟩
  | digits he => exact ⟨by rintro b ⟨⟩; exact (hletter he).1, by rintro b ⟨⟩; exact (hletter he).2⟩
  | signed he => exact ⟨by rintro b ⟨⟩; exact (hletter he).1, by rintro b ⟨⟩; exact (hletter he).2⟩

/-- A fraction cannot be taken for digits. -/
theorem IsFraction.ends {ds : List UInt8} (h : IsFraction ds) (hrest : EndsDigits rest) :
    EndsDigits (ds ++ rest) := by
  cases h with
  | missing => exact hrest
  | digits =>
    rintro b ⟨⟩
    decide

theorem readUnsigned_append {ds : List UInt8} (h : IsUnsigned ds) (hrest : EndsNumber rest) :
    readUnsigned (ds ++ rest) = some (ds, rest) := by
  obtain ⟨hwhole, hfraction, hexponent⟩ := h
  obtain ⟨hdigits, hdot⟩ := hexponent.ends hrest
  simp only [readUnsigned, List.append_assoc, readWhole_append hwhole (hfraction.ends hdigits),
    readFraction_append hfraction hdigits hdot, readExponent_append hexponent hrest,
    Option.bind_some, Option.map_some]

/-- What is read as a number spells one. -/
theorem readNumber_sound {ds : List UInt8} (h : readNumber bs = some (ds, rest)) :
    IsNumber ds ∧ bs = ds ++ rest := by
  unfold readNumber at h
  split at h
  · obtain ⟨⟨ds', rest'⟩, hread, heq⟩ := Option.map_eq_some_iff.mp h
    cases heq
    obtain ⟨hds, rfl⟩ := readUnsigned_sound hread
    exact ⟨.negative hds, rfl⟩
  · obtain ⟨hds, rfl⟩ := readUnsigned_sound h
    exact ⟨.positive hds, rfl⟩

/-- A number without its sign starts with a digit. -/
theorem IsUnsigned.head {ds : List UInt8} (h : IsUnsigned ds) :
    ∃ d tail, ds = d :: tail ∧ isDigit d = true := by
  obtain ⟨⟨hds, -⟩, -, -⟩ := h
  obtain ⟨d, tail, rfl⟩ := List.exists_cons_of_ne_nil hds.1
  exact ⟨d, _, rfl, hds.2 d List.mem_cons_self⟩

/-- A number is read as far as it goes. -/
theorem readNumber_append {ds : List UInt8} (h : IsNumber ds) (hrest : EndsNumber rest) :
    readNumber (ds ++ rest) = some (ds, rest) := by
  cases h with
  | positive hds =>
    have hread := readUnsigned_append hds hrest
    obtain ⟨d, tail, rfl, hd⟩ := hds.head
    unfold readNumber
    split
    · rename_i heq
      cases heq
      exact absurd hd (by decide)
    · exact hread
  | negative hds =>
    change (readUnsigned (_ ++ rest)).map _ = _
    rw [readUnsigned_append hds hrest]
    rfl

end ItemCatalog.Json
