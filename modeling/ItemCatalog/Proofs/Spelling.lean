import ItemCatalog.Proofs.Message.Check
import ItemCatalog.Proofs.Name
import ItemCatalog.Proofs.Text.Ascii

/-!
# Spellings of identifiers

What texts are read as an identifier. Main statements: a list of digits denotes a number just when
it is what is written for that number, up to case (`decode?_eq_some_iff`), and a text is read as an
identifier just when it is one of the four forms of it, up to case (`parse?_eq_some_iff`).

## Main definitions

* `Identifier.Spelling.form`: the four forms of an identifier.
* `Identifier.IsSpelledBy`: a text is one of them in any case.
-/

namespace ItemCatalog

/-! ## Digits -/

namespace Text

theorem toLower_hyphen : '-'.toLower = '-' := by decide

namespace Hex

theorem toNat_digit : ∀ v < 16, (digit v).toNat = if v < 10 then 48 + v else 87 + v := by decide

/-- A character is a digit in either case just when its lower case is what is written for its
value. -/
theorem value?_eq_some_iff {c : Char} {v : Nat} :
    value? c = some v ↔ c.toLower = digit v ∧ v < 16 := by
  have hcases : value? c = some v ↔ v < 16 ∧
      c.toLower.toNat = if v < 10 then 48 + v else 87 + v := by
    simp only [value?, toNat_toLower]
    grind
  rw [hcases, and_comm]
  refine and_congr_left fun hv => ?_
  rw [← Char.toNat_inj, toNat_digit v hv]

/-- Characters denote a number just when they are what is written for it, up to case. -/
theorem decode?_eq_some_iff {cs : List Char} {n : Nat} :
    decode? cs = some n ↔ cs.map Char.toLower = encode cs.length n ∧ n < Nat.pow 16 cs.length := by
  induction hw : cs.length generalizing cs n with
  | zero =>
    rw [List.eq_nil_of_length_eq_zero hw]
    have hpow : Nat.pow 16 0 = 1 := rfl
    simp only [decode?, List.foldlM_nil, Option.pure_def, Option.some.injEq, List.map_nil, encode,
      true_and, hpow]
    omega
  | succ w ih =>
    obtain ⟨front, c, rfl⟩ : ∃ front c, cs = front ++ [c] :=
      ⟨cs.dropLast, cs.getLast (List.ne_nil_of_length_eq_add_one hw),
        (List.dropLast_concat_getLast _).symm⟩
    have hfront : front.length = w := by simpa using hw
    have hpow : Nat.pow 16 (w + 1) = Nat.pow 16 w * 16 := rfl
    have hstep : decode? (front ++ [c]) = some n ↔
        ∃ m v, decode? front = some m ∧ value? c = some v ∧ m * 16 + v = n := by
      simp only [decode?, List.foldlM_append, List.foldlM_cons, List.foldlM_nil, push,
        Option.bind_eq_bind, Option.bind_eq_some_iff, Option.map_eq_some_iff, Option.pure_def,
        Option.some.injEq]
      grind
    rw [hstep, hpow, encode, List.map_append, List.map_singleton]
    constructor
    · rintro ⟨m, v, hm, hv, rfl⟩
      obtain ⟨hlower, hlt⟩ := (ih hfront).1 hm
      obtain ⟨hc, hv⟩ := value?_eq_some_iff.1 hv
      have hdiv : (m * 16 + v) / 16 = m := by omega
      have hmod : (m * 16 + v) % 16 = v := by omega
      rw [hdiv, hmod, hlower, hc]
      exact ⟨rfl, by omega⟩
    · rintro ⟨hlower, hlt⟩
      obtain ⟨hlower, hc⟩ := List.append_inj' hlower rfl
      refine ⟨n / 16, n % 16, (ih hfront).2 ⟨hlower, by omega⟩, ?_, by omega⟩
      exact value?_eq_some_iff.2 ⟨List.singleton_inj.1 hc, Nat.mod_lt n (by decide)⟩

end Hex
end Text

namespace Identifier

/-! ## Digits -/

/-- Thirty-two digits denote an identifier just when they are its digits, up to case. -/
theorem ofDigits?_eq_some_iff {cs : List Char} (hlen : cs.length = 32) {id : Identifier} :
    ofDigits? cs = some id ↔ cs.map Char.toLower = id.digits := by
  have hpow : Nat.pow 16 32 = 2 ^ 128 := by decide
  rw [ofDigits?, Option.map_eq_some_iff, digits]
  constructor
  · rintro ⟨n, hn, rfl⟩
    rw [Text.Hex.decode?_eq_some_iff, hlen, hpow] at hn
    rw [hn.1, BitVec.toNat_ofNat, Nat.mod_eq_of_lt hn.2]
  · intro h
    refine ⟨id.bits.toNat, ?_, by rw [BitVec.ofNat_toNat, BitVec.setWidth_eq]⟩
    rw [Text.Hex.decode?_eq_some_iff, hlen, hpow]
    exact ⟨h, id.bits.isLt⟩

/-! ## Groups -/

/-- What is joined from groups is cut into the same groups. -/
theorem hyphenate_of_unhyphenate? {ws : List Nat} {cs ds : List Char}
    (h : unhyphenate? ws cs = some ds) :
    cs = hyphenate ws ds ∧ ds.length = ws.foldr (· + ·) 0 := by
  fun_induction unhyphenate? ws cs generalizing ds with
  | case1 cs hempty =>
    cases h
    exact ⟨List.isEmpty_iff.1 hempty, rfl⟩
  | case2 => cases h
  | case3 cs =>
    cases h
    exact ⟨rfl, rfl⟩
  | case4 => cases h
  | case5 w v ws cs rest hdrop ih =>
    obtain ⟨es, hes, rfl⟩ := Option.map_eq_some_iff.1 h
    obtain ⟨rfl, hlen⟩ := ih hes
    have hwidth : (cs.take w).length = w := by
      have hlong : (cs.drop w).length ≠ 0 := by simp [hdrop]
      rw [List.length_drop] at hlong
      rw [List.length_take]
      omega
    rw [hyphenate, List.take_left' hwidth, List.drop_left' hwidth, ← hdrop, List.take_append_drop,
      List.length_append, hwidth, hlen]
    exact ⟨rfl, rfl⟩
  | case6 => cases h

theorem map_hyphenate {f : Char → Char} (hf : f '-' = '-') (ws : List Nat) (cs : List Char) :
    (hyphenate ws cs).map f = hyphenate ws (cs.map f) := by
  fun_induction hyphenate ws cs with
  | case1 cs => rfl
  | case2 w cs => rfl
  | case3 w v ws cs ih =>
    rw [List.map_append, List.map_cons, hf, ih, hyphenate, List.map_take, List.map_drop]

/-- Groups are cut without regard to case. -/
theorem unhyphenate?_map_toLower (ws : List Nat) (cs : List Char) :
    unhyphenate? ws (cs.map Char.toLower) = (unhyphenate? ws cs).map (·.map Char.toLower) := by
  fun_induction unhyphenate? ws cs with
  | case1 cs hempty => simp_all [unhyphenate?]
  | case2 cs hempty => simp_all [unhyphenate?]
  | case3 cs => simp [unhyphenate?]
  | case4 w cs hlen => simp [unhyphenate?, hlen]
  | case5 w v ws cs rest hdrop ih =>
    rw [unhyphenate?, ← List.map_drop, hdrop, List.map_cons,
      Text.toLower_hyphen]
    change (unhyphenate? (v :: ws) (rest.map Char.toLower)).map _ = _
    rw [ih, Option.map_map, Option.map_map, ← List.map_take]
    refine Option.map_congr fun es _ => ?_
    exact (List.map_append).symm
  | case6 w v ws cs hdrop =>
    rw [unhyphenate?, ← List.map_drop]
    split
    · next rest heq =>
      obtain ⟨c, cs', hcs, hc, _⟩ := List.map_eq_cons_iff.1 heq
      rw [(Text.toLower_eq_iff (by decide)).1 hc] at hcs
      exact absurd hcs (hdrop cs')
    · rfl

/-- Groups in either case are cut into digits just when their lower case is joined from them. -/
theorem exists_unhyphenate?_iff {cs es : List Char} (hes : es.length = 32) :
    (∃ ds, unhyphenate? widths cs = some ds ∧ ds.map Char.toLower = es) ↔
      cs.map Char.toLower = hyphenate widths es := by
  constructor
  · rintro ⟨ds, hds, rfl⟩
    rw [(hyphenate_of_unhyphenate? hds).1, map_hyphenate Text.toLower_hyphen]
  · intro h
    have hcut := unhyphenate?_map_toLower widths cs
    rw [h, unhyphenate?_hyphenate widths es hes] at hcut
    exact Option.map_eq_some_iff.1 hcut.symm

theorem length_hyphenate_widths {ds : List Char} (h : ds.length = 32) :
    (hyphenate widths ds).length = 36 := by
  simp [widths, hyphenate, h]

/-! ## Spellings -/

namespace Spelling
variable {spelling : Spelling} {cs ds es : List Char}

/-- Thirty-two digits in a spelling. -/
def write : Spelling → List Char → List Char
  | .plain, ds => ds
  | .hyphenated, ds => hyphenate widths ds
  | .braced, ds => '{' :: hyphenate widths ds ++ ['}']
  | .urn, ds => urnMark ++ hyphenate widths ds

/-- An identifier in a spelling, in lower case. -/
def form (spelling : Spelling) (id : Identifier) : String :=
  String.ofList (spelling.write id.digits)

/-- How long a spelling is. -/
def length : Spelling → Nat
  | .plain => 32
  | .hyphenated => 36
  | .braced => 38
  | .urn => 45

theorem length_injective {a b : Spelling} (h : a.length = b.length) : a = b := by
  cases a <;> cases b <;> first | rfl | cases h

theorem length_urnMark : urnMark.length = 9 := by decide

theorem length_write (h : ds.length = 32) : (spelling.write ds).length = spelling.length := by
  have hgroups := length_hyphenate_widths h
  cases spelling with
  | plain => exact h
  | hyphenated => exact hgroups
  | braced =>
    change ('{' :: (hyphenate widths ds ++ ['}'])).length = 38
    rw [List.length_cons, List.length_append, hgroups]
    rfl
  | urn =>
    change (urnMark ++ hyphenate widths ds).length = 45
    rw [List.length_append, hgroups, length_urnMark]

/-! ### Reading in one spelling -/

theorem digits?_braced :
    Spelling.braced.digits? cs = some ds ↔
      ∃ inner, cs = '{' :: inner ++ ['}'] ∧ unhyphenate? widths inner = some ds := by
  simp only [digits?]
  constructor
  · intro h
    split at h
    · next rest =>
      split at h
      · next hlast =>
        obtain ⟨inner, rfl⟩ := List.getLast?_eq_some_iff.1 hlast
        rw [List.dropLast_concat] at h
        exact ⟨inner, rfl, h⟩
      · cases h
    · cases h
  · rintro ⟨inner, rfl, h⟩
    rw [List.cons_append]
    simpa using h

theorem digits?_urn :
    Spelling.urn.digits? cs = some ds ↔
      ∃ mark rest, cs = mark ++ rest ∧ mark.map Char.toLower = urnMark ∧
        unhyphenate? widths rest = some ds := by
  simp only [digits?]
  constructor
  · intro h
    split at h
    · next hmark => exact ⟨cs.take 9, cs.drop 9, (List.take_append_drop 9 cs).symm, hmark, h⟩
    · cases h
  · rintro ⟨mark, rest, rfl, hmark, h⟩
    have hlen : mark.length = 9 := by
      rw [← List.length_map (f := Char.toLower), hmark, length_urnMark]
    rw [List.take_left' hlen, List.drop_left' hlen, if_pos hmark, h]

theorem length_of_digits? (h : spelling.digits? cs = some ds) : ds.length = 32 := by
  cases spelling with
  | plain =>
    simp only [digits?] at h
    split at h
    · next hlen => exact (Option.some.inj h) ▸ hlen
    · cases h
  | hyphenated => exact (hyphenate_of_unhyphenate? h).2
  | braced =>
    obtain ⟨_, _, h⟩ := digits?_braced.1 h
    exact (hyphenate_of_unhyphenate? h).2
  | urn =>
    obtain ⟨_, _, _, _, h⟩ := digits?_urn.1 h
    exact (hyphenate_of_unhyphenate? h).2

/-- A text has digits in a spelling just when its lower case is what is written for them. -/
theorem exists_digits?_iff (hes : es.length = 32) :
    (∃ ds, spelling.digits? cs = some ds ∧ ds.map Char.toLower = es) ↔
      cs.map Char.toLower = spelling.write es := by
  cases spelling with
  | plain =>
    simp only [digits?, write]
    constructor
    · rintro ⟨ds, hds, rfl⟩
      split at hds
      · rw [Option.some.inj hds]
      · cases hds
    · intro h
      have hlen : cs.length = 32 := by rw [← List.length_map (f := Char.toLower), h, hes]
      exact ⟨cs, if_pos hlen, h⟩
  | hyphenated => exact exists_unhyphenate?_iff hes
  | braced =>
    simp only [digits?_braced, write]
    constructor
    · rintro ⟨ds, ⟨inner, rfl, hinner⟩, hds⟩
      have hlower := (exists_unhyphenate?_iff hes).1 ⟨ds, hinner, hds⟩
      rw [List.map_append, List.map_cons, hlower]
      rfl
    · intro h
      obtain ⟨opened, closed, rfl, hopened, hclosed⟩ := List.map_eq_append_iff.1 h
      obtain ⟨c, inner, rfl, hc, hinner⟩ := List.map_eq_cons_iff.1 hopened
      obtain ⟨d, rfl, hd⟩ := List.map_eq_singleton_iff.1 hclosed
      obtain ⟨ds, hcut, hds⟩ := (exists_unhyphenate?_iff hes).2 hinner
      rw [(Text.toLower_eq_iff (by decide)).1 hc, (Text.toLower_eq_iff (by decide)).1 hd]
      exact ⟨ds, ⟨inner, rfl, hcut⟩, hds⟩
  | urn =>
    simp only [digits?_urn, write]
    constructor
    · rintro ⟨ds, ⟨mark, rest, rfl, hmark, hrest⟩, hds⟩
      rw [List.map_append, hmark, (exists_unhyphenate?_iff hes).1 ⟨ds, hrest, hds⟩]
    · intro h
      obtain ⟨mark, rest, rfl, hmark, hrest⟩ := List.map_eq_append_iff.1 h
      obtain ⟨ds, hcut, hds⟩ := (exists_unhyphenate?_iff hes).2 hrest
      exact ⟨ds, ⟨mark, rest, rfl, hmark, hcut⟩, hds⟩

end Spelling

/-! ### Reading in any spelling -/

/-- Whether a text is one of the forms of an identifier, in any case. -/
def IsSpelledBy (id : Identifier) (s : String) : Prop :=
  ∃ spelling : Spelling, Text.lower s = spelling.form id

theorem lower_eq_form_iff {s : String} {spelling : Spelling} {id : Identifier} :
    Text.lower s = spelling.form id ↔
      ∃ ds, spelling.digits? s.toList = some ds ∧ ofDigits? ds = some id := by
  have hlower : Text.lower s = spelling.form id ↔
      s.toList.map Char.toLower = spelling.write id.digits :=
    String.ofList_inj
  rw [hlower, ← Spelling.exists_digits?_iff (length_digits id)]
  refine exists_congr fun ds => and_congr_right fun hds => ?_
  rw [ofDigits?_eq_some_iff (Spelling.length_of_digits? hds)]

/-- A text has one spelling at the most. -/
theorem spelling_unique {s : String} {a b : Spelling} {id id' : Identifier}
    (h : Text.lower s = a.form id) (h' : Text.lower s = b.form id') : a = b := by
  apply Spelling.length_injective
  rw [← Spelling.length_write (length_digits id), ← Spelling.length_write (length_digits id')]
  exact congrArg List.length (String.ofList_inj.1 (h.symm.trans h'))

/-- A text is read as an identifier just when it is one of its forms, in any case. -/
theorem parse?_eq_some_iff {s : String} {id : Identifier} :
    parse? s = some id ↔ id.IsSpelledBy s := by
  constructor
  · intro h
    obtain ⟨spelling, _, h⟩ := List.exists_of_findSome?_eq_some h
    exact ⟨spelling, lower_eq_form_iff.2 (Option.bind_eq_some_iff.1 h)⟩
  · rintro ⟨spelling, h⟩
    have hread : (spelling.digits? s.toList).bind ofDigits? = some id :=
      Option.bind_eq_some_iff.2 (lower_eq_form_iff.1 h)
    have hsome : (parse? s).isSome = true := by
      refine List.findSome?_isSome_iff.2 ⟨spelling, ?_, by rw [hread]; rfl⟩
      cases spelling <;> decide
    obtain ⟨id', hid'⟩ := Option.isSome_iff_exists.1 hsome
    obtain ⟨spelling', _, h'⟩ := List.exists_of_findSome?_eq_some hid'
    have hform := lower_eq_form_iff.2 (Option.bind_eq_some_iff.1 h')
    rw [← spelling_unique h hform, hread] at h'
    rw [hid', ← h']

theorem isSpelledBy_text (id : Identifier) : id.IsSpelledBy id.text :=
  parse?_eq_some_iff.1 (parse?_text id)

/-! ## Identifiers in requests -/

/-- No identifier is spelled by nothing. -/
theorem IsSpelledBy.isEmpty_eq_false {s : String} {id : Identifier} (h : id.IsSpelledBy s) :
    s.isEmpty = false := by
  have hnone : parse? "" = none := by decide +kernel
  rw [Bool.eq_false_iff]
  intro hempty
  rw [← parse?_eq_some_iff, String.isEmpty_iff.1 hempty, hnone] at h
  cases h

/-- A request's field yields an identifier just when it spells that one between blanks, and it is
not nil. -/
theorem require_eq_ok_iff {s field : String} {id : Identifier} :
    require s field = .ok id ↔ id.IsSpelledBy (Text.trim s) ∧ id ≠ .nil := by
  rw [← parse?_eq_some_iff, require]
  constructor
  · intro h
    split at h
    · cases h
    · split at h
      · cases h
      · next hparse =>
        split at h
        · cases h
        · next hnil =>
          cases h
          exact ⟨hparse, hnil⟩
  · rintro ⟨hparse, hnil⟩
    have hempty := (parse?_eq_some_iff.1 hparse).isEmpty_eq_false
    simp only [hempty, Bool.false_eq_true, if_false, hparse, if_neg hnil]

/-- What a field yields depends on the identifier that it spells, and not on how it does. -/
theorem require_congr {s s' : String} {id : Identifier} (h : id.IsSpelledBy (Text.trim s))
    (h' : id.IsSpelledBy (Text.trim s')) (field : String) : require s field = require s' field := by
  rw [require, require]
  simp only [h.isEmpty_eq_false, h'.isEmpty_eq_false, parse?_eq_some_iff.2 h,
    parse?_eq_some_iff.2 h']

/-! ### Printed identifiers -/

theorem mem_encode {w n : Nat} {c : Char} (h : c ∈ Text.Hex.encode w n) :
    ∃ v < 16, c = Text.Hex.digit v := by
  induction w generalizing n with
  | zero => cases h
  | succ w ih =>
    rw [Text.Hex.encode, List.mem_append, List.mem_singleton] at h
    rcases h with h | h
    · exact ih h
    · exact ⟨n % 16, Nat.mod_lt n (by decide), h⟩

theorem mem_hyphenate {ws : List Nat} {cs : List Char} {c : Char} (h : c ∈ hyphenate ws cs) :
    c = '-' ∨ c ∈ cs := by
  fun_induction hyphenate ws cs with
  | case1 cs => exact Or.inr h
  | case2 w cs => exact Or.inr h
  | case3 w v ws cs ih =>
    rw [List.mem_append, List.mem_cons] at h
    rcases h with h | h | h
    · exact Or.inr (List.mem_of_mem_take h)
    · exact Or.inl h
    · exact (ih h).imp_right List.mem_of_mem_drop

theorem trim_text (id : Identifier) : Text.trim id.text = id.text := by
  have hdigit : ∀ v < 16, Text.isBlank (Text.Hex.digit v) = false := by decide
  apply Text.trim_eq_self
  intro c hc
  rw [text, String.toList_ofList] at hc
  rcases mem_hyphenate hc with rfl | hc
  · decide
  · obtain ⟨v, hv, rfl⟩ := mem_encode hc
    exact hdigit v hv

/-- The printed form of an identifier that is not nil yields it again. -/
theorem require_text {id : Identifier} (h : id ≠ .nil) (field : String) :
    require id.text field = .ok id := by
  rw [require_eq_ok_iff, trim_text]
  exact ⟨isSpelledBy_text id, h⟩

end Identifier

namespace ItemMessage

/-- The identifier of an update has the right shape if it is spelled between blanks, be it nil. -/
theorem idError?_eq_none_iff {m : ItemMessage} :
    m.idError? = none ↔ ∃ id : Identifier, id.IsSpelledBy (Text.trim m.id) := by
  simp only [← Identifier.parse?_eq_some_iff, ← Option.isSome_iff_exists]
  constructor
  · intro h
    rw [idError?] at h
    split at h
    · cases h
    · split at h
      · cases h
      · next hsome =>
        exact Option.isSome_iff_ne_none.2 fun hnone => hsome (Option.isNone_iff_eq_none.2 hnone)
  · intro h
    obtain ⟨id, hid⟩ := Option.isSome_iff_exists.1 h
    rw [idError?, (Identifier.parse?_eq_some_iff.1 hid).isEmpty_eq_false, hid]
    rfl

/-- An update passes its checks with a name that breaks no rule and an identifier that a field may
yield, or nil. -/
theorem checkUpdate_eq_ok_iff_require {m : ItemMessage} (field : String) :
    m.checkUpdate = .ok () ↔ Name.broken? m.name = none ∧
      ((∃ id, Identifier.require m.id field = .ok id) ∨
        Identifier.nil.IsSpelledBy (Text.trim m.id)) := by
  rw [checkUpdate_eq_ok_iff, and_comm, idError?_eq_none_iff]
  refine and_congr_right fun _ => ?_
  simp only [Identifier.require_eq_ok_iff]
  constructor
  · rintro ⟨id, h⟩
    by_cases hnil : id = .nil
    · exact Or.inr (hnil ▸ h)
    · exact Or.inl ⟨id, h, hnil⟩
  · rintro (⟨id, h, _⟩ | h)
    · exact ⟨id, h⟩
    · exact ⟨.nil, h⟩

/-- Whether an update passes its checks depends on the identifier that it spells, and not on how it
does. -/
theorem checkUpdate_congr {m m' : ItemMessage} {id : Identifier} (hname : m.name = m'.name)
    (h : id.IsSpelledBy (Text.trim m.id)) (h' : id.IsSpelledBy (Text.trim m'.id)) :
    m.checkUpdate = m'.checkUpdate := by
  rw [checkUpdate, checkUpdate, idError?_eq_none_iff.2 ⟨id, h⟩, idError?_eq_none_iff.2 ⟨id, h'⟩,
    nameError?, nameError?, hname]

end ItemMessage
end ItemCatalog
