import ItemCatalog.Text.Hex
import ItemCatalog.Text.Shapeless

/-!
# Quoted texts

Texts between double quotes for a reader of the log: what would not be seen, or would end the
text, is escaped.
-/

namespace ItemCatalog.Text

/-- The digits of a number without leading zeros. -/
def hexNumber (n : Nat) : List Char :=
  match (Hex.encode 6 n).dropWhile (· == '0') with
  | [] => ['0']
  | ds => ds

/-- One character inside a quoted text. -/
def quoteChar (c : Char) : List Char :=
  if c = '\x00' then ['\\', '0']
  else if c = '\t' then ['\\', 't']
  else if c = '\r' then ['\\', 'r']
  else if c = '\n' then ['\\', 'n']
  else if c = '"' then ['\\', '"']
  else if c = '\\' then ['\\', '\\']
  else if isShapeless c then ['\\', 'u', '{'] ++ hexNumber c.toNat ++ ['}']
  else [c]

/-- A text between quotes. -/
def quoted (s : String) : String :=
  String.ofList ('"' :: s.toList.flatMap quoteChar ++ ['"'])

/-- Quoted texts in a list. -/
def quotedList (l : List String) : String :=
  "[" ++ String.intercalate ", " (l.map quoted) ++ "]"

end ItemCatalog.Text
