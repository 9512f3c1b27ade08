import ItemCatalog.Json.Progress
import ItemCatalog.Proofs.Json.Words

/-!
# What stops a reader

How far values are read, stated by their parts. Main statements: a number stops its reader exactly
if its exponent is positive, has something to raise and is too large even without its last digit
(`progress_number_eq_stuck_iff`); a string exactly if one of its units lacks the other half, and is
not the last thing in it (`Piece.progress_eq_stuck_iff`); an array or an object exactly if it is
nested too deeply, or something in it stops the reader, or fails with more to come
(`progress_array`, `progress_object`, `Progress.inTurn_eq_stuck_iff`).

## Main definitions

* `Progress.inTurn`: how far values are read one after another.
* `memberProgress`: how far a member of an object is read.
-/

namespace ItemCatalog.Json

/-! ## Floating point -/

section Nearest
variable (n : Nat)

theorem lastPlace_pos : 0 < lastPlace n := Nat.pow_pos (by decide)

/-- Rounding clears everything below the 53 leading bits. -/
theorem lastPlace_dvd_nearest : lastPlace n ∣ nearest n := by
  unfold nearest
  dsimp only
  split
  · exact Nat.dvd_mul_left _ _
  · exact Nat.dvd_mul_left _ _

/-- Rounding goes up or down by half a place at most. -/
theorem nearest_le : 2 * nearest n ≤ 2 * n + lastPlace n ∧
    2 * n ≤ 2 * nearest n + lastPlace n := by
  have hsplit := Nat.div_add_mod n (lastPlace n)
  have hrest := Nat.mod_lt n (lastPlace_pos n)
  rw [Nat.mul_comm] at hsplit
  unfold nearest
  simp only [Nat.succ_mul, Bool.or_eq_true, Bool.and_eq_true, decide_eq_true_eq, beq_iff_eq]
  generalize n / lastPlace n * lastPlace n = low at hsplit ⊢
  split <;> omega

/-- A number of at most 53 bits is kept. -/
theorem nearest_of_log2_le (h : n.log2 ≤ 52) : nearest n = n := by
  have hplace : lastPlace n = 1 := by rw [lastPlace, Nat.sub_eq_zero_of_le h]
  simp [nearest, hplace, Nat.mod_one]

end Nearest

/-! ## Numbers -/

theorem decimal_concat (ds : List UInt8) (d : UInt8) :
    decimal (ds ++ [d]) = 10 * decimal ds + digit d := by
  simp [decimal, List.foldl_append]

/-- Digits stand for no less than without the last of them. -/
theorem decimal_dropLast_le (ds : List UInt8) : decimal ds.dropLast ≤ decimal ds := by
  rcases ds.eq_nil_or_concat with rfl | ⟨front, d, rfl⟩
  · rfl
  · rw [List.concat_eq_append, List.dropLast_concat, decimal_concat]
    omega

theorem gather_eq_zero_iff (n : Nat) (ds : List UInt8) :
    (gather n ds).1 = 0 ↔ n = 0 ∧ ∀ d ∈ ds, digit d = 0 := by
  induction ds generalizing n with
  | nil => simp [gather]
  | cons d ds ih =>
    rw [gather, List.forall_mem_cons]
    split
    · rw [ih]
      constructor
      · rintro ⟨hsum, hrest⟩
        exact ⟨by omega, by omega, hrest⟩
      · rintro ⟨hn, hd, hrest⟩
        exact ⟨by omega, hrest⟩
    · rename_i hlarge
      -- A single digit always fits, so there was something before it.
      have hdigit : digit d ≤ 255 := by
        have := d.toNat_lt
        unfold digit
        omega
      have hn : n ≠ 0 := by
        rintro rfl
        unfold maxSignificand at hlarge
        omega
      exact iff_of_false hn fun h => hn h.1

namespace Figures
variable {f : Figures}

/-- The word is zero exactly if all digits before the exponent are. -/
theorem significand_eq_zero_iff :
    f.significand.1 = 0 ↔ ∀ d ∈ f.whole ++ f.fraction, digit d = 0 := by
  change (gather (gather 0 f.whole).1 f.fraction).1 = 0 ↔ _
  rw [gather_eq_zero_iff, gather_eq_zero_iff, List.forall_mem_append]
  simp

/-- What stops the reader of a number. -/
theorem progress_eq_stuck_iff : f.progress = .stuck ↔
    (∃ d ∈ f.whole ++ f.fraction, digit d ≠ 0) ∧ f.lowers = false ∧
      maxExponent < decimal f.exponent.dropLast := by
  have hdropped := decimal_dropLast_le f.exponent
  have hdigit : (∃ d ∈ f.whole ++ f.fraction, digit d ≠ 0) ↔ ¬ f.significand.1 = 0 := by
    rw [significand_eq_zero_iff]
    simp only [not_forall, exists_prop]
  rw [hdigit]
  unfold progress
  split
  · simp_all
  · split
    · rename_i hsmall
      have hnot : ¬ maxExponent < decimal f.exponent.dropLast := by omega
      split <;> simp [hnot]
    · cases f.lowers with
      | true => simp
      | false =>
        rename_i hzero _
        by_cases hlast : decimal f.exponent.dropLast ≤ maxExponent
        · simp [hlast]
        · simp [hlast, hzero, Nat.lt_of_not_le hlast]

/-- An exponent that is not too large stops no reader. -/
theorem progress_ne_stuck (h : decimal f.exponent ≤ maxExponent) : f.progress ≠ .stuck := by
  intro hstuck
  have hlarge := (progress_eq_stuck_iff.mp hstuck).2.2
  have hdropped := decimal_dropLast_le f.exponent
  omega

/-- The figures of a number are the digits of its parts. -/
theorem ofNumber_append {sign whole fraction exponent : List UInt8}
    (hsign : sign = [] ∨ sign = [0x2D]) (hwhole : AreDigits whole) (hfraction : IsFraction fraction)
    (hexponent : IsExponent exponent) :
    ofNumber (sign ++ (whole ++ fraction ++ exponent)) =
      ⟨whole, fraction.drop 1, exponent.filter isDigit,
        (exponent.drop 1).head? == some 0x2D⟩ := by
  have hdigit {b : UInt8} (hb : isDigit b = true) : b ≠ 0x2D ∧ b ≠ 0x65 ∧ b ≠ 0x45 := by
    refine ⟨?_, ?_, ?_⟩ <;> rintro rfl <;> exact absurd hb (by decide)
  have hunsigned : (sign ++ (whole ++ fraction ++ exponent)).dropWhile (· == 0x2D) =
      whole ++ fraction ++ exponent := by
    obtain ⟨d, tail, rfl⟩ := List.exists_cons_of_ne_nil hwhole.1
    have hd := (hdigit (hwhole.2 d List.mem_cons_self)).1
    rcases hsign with rfl | rfl <;> simp [hd]
  have hmantissa : ∀ b ∈ whole ++ fraction, (b != 0x65 && b != 0x45) = true := by
    intro b hb
    rcases List.mem_append.mp hb with hb | hb
    · simp [hdigit (hwhole.2 b hb)]
    · cases hfraction with
      | missing => cases hb
      | digits hds =>
        rcases List.mem_cons.mp hb with rfl | hb
        · rfl
        · simp [hdigit (hds.2 b hb)]
  have hletter : ∀ b ∈ exponent.head?, (b != 0x65 && b != 0x45) = false := by
    cases hexponent with
    | missing => exact nofun
    | digits he => rintro b ⟨⟩; rcases he with rfl | rfl <;> rfl
    | signed he => rintro b ⟨⟩; rcases he with rfl | rfl <;> rfl
  have hpoint : ∀ b ∈ fraction.head?, isDigit b = false := by
    cases hfraction with
    | missing => exact nofun
    | digits => rintro b ⟨⟩; rfl
  simp only [ofNumber, hunsigned, span_append hmantissa hletter, span_append hwhole.2 hpoint]

end Figures

/-- What stops the reader of a number, by the parts of its spelling. -/
theorem progress_number_eq_stuck_iff {sign whole fraction exponent : List UInt8} {levels : Nat}
    (hsign : sign = [] ∨ sign = [0x2D]) (hwhole : AreDigits whole) (hfraction : IsFraction fraction)
    (hexponent : IsExponent exponent) :
    (Json.number (sign ++ (whole ++ fraction ++ exponent))).progress levels = .stuck ↔
      (∃ d ∈ whole ++ fraction.drop 1, digit d ≠ 0) ∧ (exponent.drop 1).head? ≠ some 0x2D ∧
        maxExponent < decimal (exponent.filter isDigit).dropLast := by
  rw [progress, Figures.ofNumber_append hsign hwhole hfraction hexponent,
    Figures.progress_eq_stuck_iff, beq_eq_false_iff_ne]

/-! ## Strings -/

namespace Piece
variable {pieces : List Piece}

theorem progress_eq_complete_iff : progress pieces = .complete ↔ ∃ s, text? pieces = some s := by
  rw [← Option.isSome_iff_exists, progress]
  split
  · simp [*]
  · split <;> simp [*]

/-- A string that is well paired does not stop its reader. -/
theorem progress_ne_stuck {bytes : List UInt8} (h : bytes? pieces = some bytes) :
    progress pieces ≠ .stuck := by
  rw [progress, h]
  split <;> simp

theorem endsOpen_concat (front : List Piece) (u : UInt16) :
    endsOpen (front ++ [.unit u]) = (isLeading u && (bytes? front).isSome) := by
  rw [endsOpen, List.getLast?_concat, List.dropLast_concat]

/-- What stops the reader of a string: a unit without its other half, if it is not the first of a
pair and the end of a string that is well paired otherwise. -/
theorem progress_eq_stuck_iff : progress pieces = .stuck ↔ bytes? pieces = none ∧
    ∀ front u, pieces = front ++ [.unit u] → isLeading u = true → bytes? front = none := by
  have hopen : endsOpen pieces = false ↔
      ∀ front u, pieces = front ++ [.unit u] → isLeading u = true → bytes? front = none := by
    constructor
    · rintro h front u rfl hu
      simpa [endsOpen_concat, hu] using h
    · intro h
      rw [endsOpen]
      split
      · rename_i u hlast
        obtain ⟨front, rfl⟩ := List.getLast?_eq_some_iff.mp hlast
        cases hu : isLeading u with
        | false => rfl
        | true => simp [h front u rfl hu]
      · rfl
  rw [← hopen]
  cases hbytes : bytes? pieces with
  | some bytes => simp [progress_ne_stuck hbytes]
  | none => cases hends : endsOpen pieces <;> simp [progress, text?, hbytes, hends]

end Piece

/-! ## Arrays and objects -/

namespace Progress
variable {ps : List Progress}

/-- How far values are read one after another. -/
def inTurn : List Progress → Progress
  | [] => .complete
  | p :: rest => p.followedBy rest.isEmpty (inTurn rest)

theorem inTurn_eq_complete_iff : inTurn ps = .complete ↔ ∀ p ∈ ps, p = .complete := by
  induction ps with
  | nil => simp [inTurn]
  | cons p rest ih =>
    rw [inTurn, List.forall_mem_cons, ← ih]
    cases p <;> cases rest <;> simp [followedBy]

/-- Values that are read leave it to the others how far all are. -/
theorem inTurn_append {before after : List Progress} (h : ∀ p ∈ before, p = .complete) :
    inTurn (before ++ after) = inTurn after := by
  induction before with
  | nil => rfl
  | cons p before ih =>
    rw [List.forall_mem_cons] at h
    rw [List.cons_append, inTurn, h.1, followedBy, ih h.2]

/-- All values are read, or there is a first that is not. -/
theorem complete_or_split (ps : List Progress) : (∀ p ∈ ps, p = .complete) ∨
    ∃ before p after, ps = before ++ p :: after ∧ (∀ p ∈ before, p = .complete) ∧
      p ≠ .complete := by
  induction ps with
  | nil => exact .inl nofun
  | cons p rest ih =>
    by_cases hp : p = .complete
    · rcases ih with hall | ⟨before, q, after, rfl, hbefore, hq⟩
      · exact .inl (List.forall_mem_cons.mpr ⟨hp, hall⟩)
      · exact .inr ⟨p :: before, q, after, rfl, List.forall_mem_cons.mpr ⟨hp, hbefore⟩, hq⟩
    · exact .inr ⟨[], p, rest, rfl, nofun, hp⟩

/-- Values are passed over if the last of them is and the others are read. -/
theorem inTurn_eq_passed_iff : inTurn ps = .passed ↔
    ∃ before, ps = before ++ [.passed] ∧ ∀ p ∈ before, p = .complete := by
  constructor
  · intro h
    rcases complete_or_split ps with hall | ⟨before, p, after, rfl, hbefore, hp⟩
    · rw [inTurn_eq_complete_iff.mpr hall] at h
      cases h
    · rw [inTurn_append hbefore, inTurn] at h
      cases p with
      | complete => exact absurd rfl hp
      | passed =>
        cases after with
        | nil => exact ⟨before, rfl, hbefore⟩
        | cons => cases h
      | stuck => cases h
  · rintro ⟨before, rfl, hbefore⟩
    exact inTurn_append hbefore

/-- They stop their reader if one of them does, or is passed over with another after it, and those
before it are read. -/
theorem inTurn_eq_stuck_iff : inTurn ps = .stuck ↔
    ∃ before p after, ps = before ++ p :: after ∧ (∀ p ∈ before, p = .complete) ∧
      (p = .stuck ∨ p = .passed ∧ after ≠ []) := by
  constructor
  · intro h
    rcases complete_or_split ps with hall | ⟨before, p, after, rfl, hbefore, hp⟩
    · rw [inTurn_eq_complete_iff.mpr hall] at h
      cases h
    · refine ⟨before, p, after, rfl, hbefore, ?_⟩
      rw [inTurn_append hbefore, inTurn] at h
      cases p with
      | complete => exact absurd rfl hp
      | passed =>
        refine .inr ⟨rfl, ?_⟩
        rintro rfl
        cases h
      | stuck => exact .inl rfl
  · rintro ⟨before, p, after, rfl, hbefore, rfl | ⟨rfl, hafter⟩⟩
    · exact inTurn_append hbefore
    · rw [inTurn_append hbefore, inTurn, List.isEmpty_eq_false_iff.mpr hafter]
      rfl

end Progress

variable {levels : Nat}

theorem itemsProgress_eq (items : List Json) :
    itemsProgress items levels = Progress.inTurn (items.map (·.progress levels)) := by
  induction items with
  | nil => rfl
  | cons v rest ih => rw [itemsProgress, ih, List.map_cons, Progress.inTurn, List.isEmpty_map]

/-- The items of an array are read in turn, one level further in. -/
theorem progress_array (items : List Json) : (Json.array items).progress (levels + 1) =
    Progress.inTurn (items.map (·.progress levels)) := itemsProgress_eq items

/-- How far a member of an object is read: its name has to mean a text. -/
def memberProgress (levels : Nat) (m : List Piece × Json) : Progress :=
  match Piece.progress m.1 with
  | .complete => m.2.progress levels
  | _ => .stuck

theorem membersProgress_eq (ms : List (List Piece × Json)) :
    membersProgress ms levels = Progress.inTurn (ms.map (memberProgress levels)) := by
  induction ms with
  | nil => rfl
  | cons m rest ih =>
    rw [membersProgress, ih, List.map_cons, Progress.inTurn, List.isEmpty_map, memberProgress]
    cases Piece.progress m.1 <;> rfl

/-- The members of an object are read in turn, one level further in. -/
theorem progress_object (ms : List (List Piece × Json)) : (Json.object ms).progress (levels + 1) =
    Progress.inTurn (ms.map (memberProgress levels)) := membersProgress_eq ms

/-! ## Texts -/

variable {v : Json}

/-- A text is read. -/
theorem progress_of_text? {s : String} (h : v.text? = some s) : v.progress levels = .complete := by
  cases v with
  | string pieces => exact Piece.progress_eq_complete_iff.mpr ⟨s, h⟩
  | _ => cases h

theorem exists_text_of_mapM {items : List Json} {ss : List String}
    (h : items.mapM text? = some ss) : ∀ item ∈ items, ∃ s, item.text? = some s := by
  induction items generalizing ss with
  | nil => exact nofun
  | cons item rest ih =>
    simp only [List.mapM_cons, Option.bind_eq_bind, Option.bind_eq_some_iff] at h
    obtain ⟨s, hs, ss', hss', -⟩ := h
    exact List.forall_mem_cons.mpr ⟨⟨s, hs⟩, ih hss'⟩

/-- So is a list of texts. -/
theorem progress_of_texts? {ss : List String} (h : v.texts? = some ss) :
    v.progress (levels + 1) = .complete := by
  cases v with
  | array items =>
    rw [progress_array, Progress.inTurn_eq_complete_iff, List.forall_mem_map]
    intro item hitem
    obtain ⟨s, hs⟩ := exists_text_of_mapM h item hitem
    exact progress_of_text? hs
  | _ => cases h

end ItemCatalog.Json
