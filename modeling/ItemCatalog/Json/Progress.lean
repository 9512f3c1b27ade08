import ItemCatalog.Json.Number

/-!
# How far values are read

Some readers take a value for what it is before they know what it is wanted for, and go on if that
fails. They can go on only if the value has been passed over: a failure in an array or an object
ends the reading of it, but for its closing bracket if that comes next.
-/

namespace ItemCatalog.Json

/-- How far a value and those after it are read. -/
def Progress.followedBy (value : Progress) (isLast : Bool) (rest : Progress) : Progress :=
  match value with
  | .complete => rest
  | .passed => if isLast then .passed else .stuck
  | .stuck => .stuck

namespace Piece

/-- Whether a string ends with the first unit of a pair, and everything before it is well paired.
The closing quote is taken for the beginning of the second unit. -/
def endsOpen (pieces : List Piece) : Bool :=
  match pieces.getLast? with
  | some (.unit u) => isLeading u && (Piece.bytes? pieces.dropLast).isSome
  | _ => false

/-- How far a string is read. Bytes that are not well formed are noticed at its end, and units
without their other halves where they stand. -/
def progress (pieces : List Piece) : Progress :=
  if (Piece.text? pieces).isSome then .complete
  else if (Piece.bytes? pieces).isSome || endsOpen pieces then .passed
  else .stuck

end Piece

/-- How many brackets may be opened inside the members of a whole text. -/
def maxNesting : Nat := 126

mutual

/-- How far a value is read, where so many brackets may still be opened. -/
def progress : Json → (levels : Nat) → Progress
  | .null, _ => .complete
  | .bool _, _ => .complete
  | .number digits, _ => (Figures.ofNumber digits).progress
  | .string pieces, _ => Piece.progress pieces
  | .array _, 0 => .stuck
  | .array items, levels + 1 => itemsProgress items levels
  | .object _, 0 => .stuck
  | .object members, levels + 1 => membersProgress members levels

/-- How far the items of an array are read. -/
def itemsProgress : List Json → (levels : Nat) → Progress
  | [], _ => .complete
  | item :: rest, levels =>
    (progress item levels).followedBy rest.isEmpty (itemsProgress rest levels)

/-- How far the members of an object are read. Whatever comes after a name is wanted with it. -/
def membersProgress : List (List Piece × Json) → (levels : Nat) → Progress
  | [], _ => .complete
  | (name, value) :: rest, levels =>
    match Piece.progress name with
    | .complete => (progress value levels).followedBy rest.isEmpty (membersProgress rest levels)
    | _ => .stuck

end

end ItemCatalog.Json
