/-!
# Texts as bytes

The UTF-8 form of a text as a list of bytes, and the text that a list of bytes spells. Reading back
what was written gives the text again.
-/

namespace ItemCatalog.Text

/-- The UTF-8 bytes of a text. -/
def bytes (s : String) : List UInt8 := s.toByteArray.data.toList

/-- The text that bytes spell in UTF-8, if they are well formed. -/
def ofBytes? (bs : List UInt8) : Option String := String.fromUTF8? ⟨bs.toArray⟩

@[simp] theorem ofBytes?_bytes (s : String) : ofBytes? (bytes s) = some s := by
  have h : (⟨(bytes s).toArray⟩ : ByteArray) = s.toByteArray := by
    simp [bytes]
  rw [ofBytes?, h, String.fromUTF8?, dif_pos]
  rfl

/-- A byte that prints as ASCII, or a tab. -/
def isReadable (b : UInt8) : Bool := (0x20 ≤ b && b ≤ 0x7E) || b == 9

/-- Bytes as a text, if each of them prints as ASCII or is a tab. -/
def ofReadable? (bs : List UInt8) : Option String :=
  if bs.all isReadable then some (String.ofList (bs.map fun b => Char.ofNat b.toNat)) else none

end ItemCatalog.Text
