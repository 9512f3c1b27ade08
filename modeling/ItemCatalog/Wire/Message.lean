import ItemCatalog.Message.Basic
import ItemCatalog.Text.Bytes
import ItemCatalog.Wire.Field

/-!
# Messages on the wire

The fields of each message, and how a message grows with every field that is read: a number or a
text replaces what was there, an inner message is merged into it, and a field that is not known
changes nothing. A value that has the default of its type is not written.
-/

namespace ItemCatalog.Wire

/-- How deep groups and messages may be nested. -/
def maxDepth : Nat := 100

/-! ## Values -/

/-- The field of a number; none for zero. A negative number has all sixty-four bits. -/
def intField (number : Nat) (n : Int64) : List Field :=
  if n = 0 then [] else [(number, .varint n.toUInt64.toNat)]

/-- The field of a text; none for the empty one. -/
def textField (number : Nat) (s : String) : List Field :=
  if s.isEmpty then [] else [(number, .bytes (Text.bytes s))]

/-- The field of an inner message. -/
def messageField (number : Nat) (fields : List Field) : Field :=
  (number, .bytes (writeFields fields))

namespace Value

/-- The number of 64 bits in a field. -/
def int64? : Value → Option Int64
  | varint n => some (UInt64.ofNat n).toInt64
  | _ => none

/-- The number in the lower 32 bits of a field. -/
def int32? : Value → Option Int32
  | varint n => some (UInt32.ofNat n).toInt32
  | _ => none

/-- The truth value in a field. -/
def bool? : Value → Option Bool
  | varint n => some (n != 0)
  | _ => none

/-- The text in a field. -/
def text? : Value → Option String
  | bytes bs => Text.ofBytes? bs
  | _ => none

end Value

/-- Reads the fields of a message into it, one after another. -/
def mergeAll {α : Type} (depth : Nat) (merge : α → Field → Option α) (start : α)
    (bs : List UInt8) : Option α :=
  match fields? depth bs with
  | none => none
  | some fields => fields.foldlM merge start

/-- Reads an inner message into what is there of it already. -/
def mergeInner {α : Type} (read : α → List UInt8 → Option α) (start : α) : Value → Option α
  | .bytes bs => read start bs
  | _ => none

end Wire

open Wire

/-! ## Timestamps -/

namespace Timestamp

/-- The fields of a timestamp. -/
def fields (t : Timestamp) : List Field := intField 1 t.seconds ++ intField 2 t.nanos.toInt64

/-- Reads a field. -/
def merge (t : Timestamp) : Field → Option Timestamp
  | (1, value) => value.int64?.map fun n => { t with seconds := n }
  | (2, value) => value.int32?.map fun n => { t with nanos := n }
  | _ => some t

/-- Reads a timestamp into what is there of it. -/
def read (depth : Nat) (t : Option Timestamp) (value : Value) : Option Timestamp :=
  mergeInner (mergeAll depth merge) (t.getD ⟨0, 0⟩) value

end Timestamp

/-! ## Items -/

namespace ItemMessage

/-- The fields of an item. -/
def fields (m : ItemMessage) : List Field :=
  textField 1 m.id ++ textField 2 m.name ++
    (m.createdAt.map fun t => messageField 3 t.fields).toList ++
    (m.updatedAt.map fun t => messageField 4 t.fields).toList

/-- Reads a field. -/
def merge (depth : Nat) (m : ItemMessage) : Field → Option ItemMessage
  | (1, value) => value.text?.map fun s => { m with id := s }
  | (2, value) => value.text?.map fun s => { m with name := s }
  | (3, value) => (Timestamp.read (depth - 1) m.createdAt value).map fun t =>
      { m with createdAt := some t }
  | (4, value) => (Timestamp.read (depth - 1) m.updatedAt value).map fun t =>
      { m with updatedAt := some t }
  | _ => some m

/-- Reads an item into what is there of it. -/
def read (depth : Nat) (m : Option ItemMessage) (value : Value) : Option ItemMessage :=
  mergeInner (mergeAll depth (merge depth)) (m.getD {}) value

/-- Writes an item. -/
def encode (m : ItemMessage) : List UInt8 := writeFields m.fields

/-- Reads an item. -/
def decode? (bs : List UInt8) : Option ItemMessage := mergeAll maxDepth (merge maxDepth) {} bs

end ItemMessage

/-! ## Queries and answers -/

namespace ItemReply

/-- Reads a field. -/
def merge (m : ItemReply) : Field → Option ItemReply
  | (1, value) => (ItemMessage.read (maxDepth - 1) m.item value).map fun item => ⟨some item⟩
  | _ => some m

/-- Writes an answer with an item. -/
def encode (m : ItemReply) : List UInt8 :=
  writeFields (m.item.map fun item => messageField 1 item.fields).toList

/-- Reads an answer with an item. -/
def decode? (bs : List UInt8) : Option ItemReply := mergeAll maxDepth merge {} bs

end ItemReply

namespace PageQuery

/-- Reads a field. -/
def merge (m : PageQuery) : Field → Option PageQuery
  | (1, value) => value.int32?.map fun n => { m with startPage := n }
  | (2, value) => value.int32?.map fun n => { m with pageSize := n }
  | _ => some m

/-- Writes a page query. -/
def encode (m : PageQuery) : List UInt8 :=
  writeFields (intField 1 m.startPage.toInt64 ++ intField 2 m.pageSize.toInt64)

/-- Reads a page query. -/
def decode? (bs : List UInt8) : Option PageQuery := mergeAll maxDepth merge {} bs

end PageQuery

namespace PageReply

/-- Reads a field. -/
def merge (m : PageReply) : Field → Option PageReply
  | (1, value) => (ItemMessage.read (maxDepth - 1) none value).map fun item =>
      { m with items := m.items ++ [item] }
  | (2, value) => value.int64?.map fun n => { m with totalElements := n }
  | (3, value) => value.int32?.map fun n => { m with totalPages := n }
  | _ => some m

/-- Writes a page of items. -/
def encode (m : PageReply) : List UInt8 :=
  writeFields ((m.items.map fun item => messageField 1 item.fields) ++
    intField 2 m.totalElements ++ intField 3 m.totalPages.toInt64)

/-- Reads a page of items. -/
def decode? (bs : List UInt8) : Option PageReply := mergeAll maxDepth merge {} bs

end PageReply

namespace ItemKey

/-- Reads a field. -/
def merge (m : ItemKey) : Field → Option ItemKey
  | (1, value) => value.text?.map fun s => { m with id := s }
  | _ => some m

/-- Writes a key. -/
def encode (m : ItemKey) : List UInt8 := writeFields (textField 1 m.id)

/-- Reads a key. -/
def decode? (bs : List UInt8) : Option ItemKey := mergeAll maxDepth merge {} bs

end ItemKey

namespace DeleteReply

/-- Reads a field. -/
def merge (m : DeleteReply) : Field → Option DeleteReply
  | (1, value) => value.bool?.map fun b => { m with deleted := b }
  | _ => some m

/-- Writes the answer to a deletion. -/
def encode (m : DeleteReply) : List UInt8 :=
  writeFields (if m.deleted then [(1, .varint 1)] else [])

/-- Reads the answer to a deletion. -/
def decode? (bs : List UInt8) : Option DeleteReply := mergeAll maxDepth merge {} bs

end DeleteReply
end ItemCatalog
