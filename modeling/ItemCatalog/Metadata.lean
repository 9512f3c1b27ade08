import ItemCatalog.Text.Ascii
import ItemCatalog.Text.Bytes

/-!
# Metadata

Named values that travel beside a message. Names are in lower case and may repeat; values are
bytes, and only some of them can be stored or read as text.
-/

namespace ItemCatalog

/-- Named values in order. -/
structure Metadata where
  entries : List (String × List UInt8)
deriving DecidableEq

namespace Metadata

/-- No metadata. -/
def empty : Metadata := ⟨[]⟩

/-- Metadata of named values whose names may be in any case. -/
def ofList (l : List (String × List UInt8)) : Metadata :=
  ⟨l.map fun e => (Text.lower e.1, e.2)⟩

/-- Every value of a name, in order. -/
def values (m : Metadata) (name : String) : List (List UInt8) :=
  (m.entries.filter fun e => e.1 == name).map (·.2)

/-- The first value of a name. -/
def get? (m : Metadata) (name : String) : Option (List UInt8) := (m.values name).head?

/-- The first value of a name, if it is readable as text. -/
def text? (m : Metadata) (name : String) : Option String := (m.get? name).bind Text.ofReadable?

/-- The names that occur, each once, in order of first occurrence. -/
def names (m : Metadata) : List String := (m.entries.map (·.1)).eraseDups

/-- Whether a byte may stand in a stored value. -/
def isStorable (b : UInt8) : Bool := (0x20 ≤ b && b != 0x7F) || b == 9

/-- Makes a text the only value of a name. A text with a control character cannot be stored and
leaves the metadata as it is. -/
def set (m : Metadata) (name value : String) : Metadata :=
  if (Text.bytes value).all isStorable then
    ⟨m.entries.filter (fun e => e.1 != name) ++ [(name, Text.bytes value)]⟩
  else m

end Metadata
end ItemCatalog
