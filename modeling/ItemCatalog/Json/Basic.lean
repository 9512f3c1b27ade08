import ItemCatalog.Text.Bytes
import ItemCatalog.Text.Hex

/-!
# JSON values

JSON as it stands in a text: numbers by their digits, strings by their pieces, objects by their
members in order and with repetitions. A string means a text only if its escapes pair up and its
bytes are well formed, which is asked where the text is needed and not before.
-/

namespace ItemCatalog

namespace Json

/-- A piece of a string: a byte that it contains, or a UTF-16 unit written as an escape. -/
inductive Piece
  | byte (b : UInt8)
  | unit (u : UInt16)
deriving DecidableEq

/-- The first unit of a surrogate pair. -/
def isLeading (u : UInt16) : Bool := 0xD800 ≤ u && u ≤ 0xDBFF

/-- The second unit of a surrogate pair. -/
def isTrailing (u : UInt16) : Bool := 0xDC00 ≤ u && u ≤ 0xDFFF

/-- The character of a surrogate pair. -/
def pairChar (u v : UInt16) : Char :=
  Char.ofNat (0x10000 + (u.toNat - 0xD800) * 0x400 + (v.toNat - 0xDC00))

/-- The bytes that pieces stand for, if every escaped surrogate is part of a pair. -/
def Piece.bytes? : List Piece → Option (List UInt8)
  | [] => some []
  | .byte b :: rest => (Piece.bytes? rest).map (b :: ·)
  | .unit u :: .unit v :: rest =>
    if isLeading u then
      if isTrailing v then
        (Piece.bytes? rest).map (String.utf8EncodeChar (pairChar u v) ++ ·)
      else none
    else if isTrailing u then none
    else (Piece.bytes? (.unit v :: rest)).map
      (String.utf8EncodeChar (Char.ofNat u.toNat) ++ ·)
  | .unit u :: rest =>
    if isLeading u || isTrailing u then none
    else (Piece.bytes? rest).map (String.utf8EncodeChar (Char.ofNat u.toNat) ++ ·)

/-- The text that pieces stand for. -/
def Piece.text? (pieces : List Piece) : Option String :=
  (Piece.bytes? pieces).bind Text.ofBytes?

end Json

/-- A JSON value. -/
inductive Json
  | null
  | bool (b : Bool)
  | number (digits : List UInt8)
  | string (pieces : List Json.Piece)
  | array (items : List Json)
  | object (members : List (List Json.Piece × Json))

namespace Json

/-- The text of a string value. -/
def text? : Json → Option String
  | .string pieces => Piece.text? pieces
  | _ => none

/-- The texts of a list of strings. -/
def texts? : Json → Option (List String)
  | .array items => items.mapM text?
  | _ => none

/-- The members of an object by their names, if every name is a text. -/
def members? : Json → Option (List (String × Json))
  | .object members => members.mapM fun m => (Piece.text? m.1).map (·, m.2)
  | _ => none

/-! ## Writing -/

/-- One character inside a quoted string. -/
def quoteChar (c : Char) : List Char :=
  if c = '"' then ['\\', '"']
  else if c = '\\' then ['\\', '\\']
  else if c = '\x08' then ['\\', 'b']
  else if c = '\x0C' then ['\\', 'f']
  else if c = '\n' then ['\\', 'n']
  else if c = '\r' then ['\\', 'r']
  else if c = '\t' then ['\\', 't']
  else if c.toNat < 0x20 then ['\\', 'u'] ++ Text.Hex.encode 4 c.toNat
  else [c]

/-- A text as a quoted string: quotes, backslashes and control characters are escaped, everything
else stands for itself. -/
def quote (s : String) : List Char := '"' :: s.toList.flatMap quoteChar ++ ['"']

/-- Written values between brackets, separated by commas. -/
def enclose (opening closing : Char) (parts : List (List Char)) : List Char :=
  opening :: List.intercalate [','] parts ++ [closing]

end Json
end ItemCatalog
