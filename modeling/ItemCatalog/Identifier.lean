import ItemCatalog.Text.Ascii
import ItemCatalog.Text.Hex

/-!
# Identifiers

Universally unique identifiers of 128 bits: their printed form, the four spellings in which they
are accepted, and the values made from random bits. Main statement: a printed identifier reads
back as itself.
-/

namespace ItemCatalog

/-- A universally unique identifier. -/
structure Identifier where
  bits : BitVec 128
deriving DecidableEq

namespace Identifier

/-- The identifier whose bits are all zero, which names nothing. -/
def nil : Identifier := ⟨0⟩

/-- Identifiers are ordered as the numbers they are, which is the order of their bytes and of
their printed forms. -/
def le (a b : Identifier) : Bool := a.bits.toNat ≤ b.bits.toNat

/-- The identifier of version 4 made from random bits: six of them are overwritten by the version
and variant marks. -/
def ofRandom (random : BitVec 128) : Identifier :=
  ⟨(random &&& 0xFFFFFFFFFFFF4FFFBFFFFFFFFFFFFFFF#128) ||| 0x00000000000040008000000000000000#128⟩

theorem ofRandom_ne_nil (random : BitVec 128) : ofRandom random ≠ nil := by
  intro h
  have hb : (ofRandom random).bits.getLsbD 63 = nil.bits.getLsbD 63 := by rw [h]
  have ht : (0x00000000000040008000000000000000#128).getLsbD 63 = true := by decide
  have hz : nil.bits.getLsbD 63 = false := by decide
  rw [hz, ofRandom, BitVec.getLsbD_or, ht, Bool.or_true] at hb
  exact Bool.noConfusion hb

/-! ## Groups of digits -/

/-- Widths of the groups that hyphens separate. -/
def widths : List Nat := [8, 4, 4, 4, 12]

/-- Cuts characters into groups of the given widths, the last taking all that is left, and joins
them by hyphens. -/
def hyphenate : List Nat → List Char → List Char
  | [], cs => cs
  | [_], cs => cs
  | w :: v :: ws, cs => cs.take w ++ '-' :: hyphenate (v :: ws) (cs.drop w)

/-- Joins groups of exactly the given widths, separated by single hyphens. -/
def unhyphenate? : List Nat → List Char → Option (List Char)
  | [], cs => if cs.isEmpty then some [] else none
  | [w], cs => if cs.length = w then some cs else none
  | w :: v :: ws, cs =>
    match cs.drop w with
    | '-' :: rest => (unhyphenate? (v :: ws) rest).map (cs.take w ++ ·)
    | _ => none

theorem unhyphenate?_hyphenate (ws : List Nat) (cs : List Char) (h : cs.length = ws.foldr (· + ·) 0) :
    unhyphenate? ws (hyphenate ws cs) = some cs := by
  fun_induction hyphenate ws cs with
  | case1 cs =>
    have : cs = [] := List.eq_nil_of_length_eq_zero (by simpa using h)
    simp [this, unhyphenate?]
  | case2 w cs => simpa [unhyphenate?] using h
  | case3 w v ws cs ih =>
    have hw : (cs.take w).length = w := by
      simp only [List.foldr_cons] at h
      rw [List.length_take]; omega
    have hr := ih (by simp only [List.foldr_cons] at h ⊢; rw [List.length_drop]; omega)
    have hd : (cs.take w ++ '-' :: hyphenate (v :: ws) (cs.drop w)).drop w =
        '-' :: hyphenate (v :: ws) (cs.drop w) := List.drop_left' hw
    have ht : (cs.take w ++ '-' :: hyphenate (v :: ws) (cs.drop w)).take w = cs.take w :=
      List.take_left' hw
    simp only [unhyphenate?, hd, ht, hr, Option.map_some, List.take_append_drop]

/-! ## Printed form -/

/-- The thirty-two digits of an identifier. -/
def digits (id : Identifier) : List Char := Text.Hex.encode 32 id.bits.toNat

/-- The printed form: lower-case digits in groups of 8, 4, 4, 4 and 12. -/
def text (id : Identifier) : String := String.ofList (hyphenate widths id.digits)

/-! ## Accepted spellings -/

/-- The four ways to spell an identifier. -/
inductive Spelling
  | plain
  | hyphenated
  | braced
  | urn
deriving DecidableEq

/-- The mark in front of the spelling as a uniform resource name. -/
def urnMark : List Char := "urn:uuid:".toList

/-- The digits of a text in a given spelling, if it has that shape. The letters of the mark may be
of either case, like those among the digits. -/
def Spelling.digits? : Spelling → List Char → Option (List Char)
  | .plain, cs => if cs.length = 32 then some cs else none
  | .hyphenated, cs => unhyphenate? widths cs
  | .braced, cs =>
    match cs with
    | '{' :: rest => if rest.getLast? = some '}' then unhyphenate? widths rest.dropLast else none
    | _ => none
  | .urn, cs =>
    if (cs.take 9).map Char.toLower = urnMark then unhyphenate? widths (cs.drop 9) else none

/-- Every spelling, in the order in which they are tried. -/
def Spelling.all : List Spelling := [.plain, .hyphenated, .braced, .urn]

/-- The identifier that thirty-two digits denote. -/
def ofDigits? (cs : List Char) : Option Identifier :=
  (Text.Hex.decode? cs).map fun n => ⟨BitVec.ofNat 128 n⟩

/-- Reads an identifier in any of the four spellings, its digits and the mark `urn:uuid:` in either
case. -/
def parse? (s : String) : Option Identifier :=
  Spelling.all.findSome? fun spelling => (spelling.digits? s.toList).bind ofDigits?

@[simp] theorem length_digits (id : Identifier) : id.digits.length = 32 := by simp [digits]

theorem ofDigits?_digits (id : Identifier) : ofDigits? id.digits = some id := by
  have h : id.bits.toNat % Nat.pow 16 32 = id.bits.toNat := Nat.mod_eq_of_lt id.bits.isLt
  rw [ofDigits?, digits, Text.Hex.decode?_encode, h]
  simp

theorem length_hyphenate_digits (id : Identifier) : (hyphenate widths id.digits).length = 36 := by
  simp [widths, hyphenate]

/-- A printed identifier reads back as itself. -/
theorem parse?_text (id : Identifier) : parse? id.text = some id := by
  have hh : Spelling.hyphenated.digits? id.text.toList = some id.digits := by
    rw [text, String.toList_ofList]
    exact unhyphenate?_hyphenate widths id.digits (by simp [widths])
  have hp : Spelling.plain.digits? id.text.toList = none := by
    rw [text, String.toList_ofList, Spelling.digits?, if_neg]
    rw [length_hyphenate_digits]; decide
  rw [parse?, Spelling.all, List.findSome?_cons, hp, Option.bind_none]
  simp only [List.findSome?_cons, hh, Option.bind_some, ofDigits?_digits]

end Identifier
end ItemCatalog
