import ItemCatalog.Wire.Varint

/-!
# Fields

A message on the wire is a sequence of numbered fields. Numbers and strings of bytes are what the
messages of the catalogue consist of; fields of other kinds are read over.
-/

namespace ItemCatalog.Wire

/-- What a field holds. -/
inductive Value
  | varint (n : Nat)
  | bytes (bs : List UInt8)
  /-- A field of another kind, which no message of the catalogue has. -/
  | other
deriving DecidableEq

/-- A numbered field. -/
abbrev Field := Nat × Value

/-- The kinds of fields. -/
inductive Kind
  | varint
  | fixed64
  | bytes
  | groupStart
  | groupEnd
  | fixed32
deriving DecidableEq

/-- The kind of a number. -/
def Kind.ofNumber? : Nat → Option Kind
  | 0 => some varint
  | 1 => some fixed64
  | 2 => some bytes
  | 3 => some groupStart
  | 4 => some groupEnd
  | 5 => some fixed32
  | _ => none

/-- Bytes and what follows them. -/
abbrev Rest (α : Type) := Option (α × List UInt8)

/-! ## Writing -/

/-- Writes a field. -/
def Field.write : Field → List UInt8
  | (number, .varint n) => Varint.write (8 * number) ++ Varint.write n
  | (number, .bytes bs) => Varint.write (8 * number + 2) ++ (Varint.write bs.length ++ bs)
  | (_, .other) => []

/-- Writes fields one after another. -/
def writeFields (fields : List Field) : List UInt8 := fields.flatMap Field.write

/-! ## Reading -/

/-- Takes a number of bytes. -/
def take? (n : Nat) (bs : List UInt8) : Rest (List UInt8) :=
  if n ≤ bs.length then some (bs.take n, bs.drop n) else none

/-- Takes a string of bytes with its length in front of it. -/
def bytes? (bs : List UInt8) : Rest (List UInt8) :=
  match Varint.read? bs with
  | none => none
  | some (n, bs) => take? n bs

/-- The number and the kind of a field, which fit in 32 bits. The number is never zero. -/
def key? (bs : List UInt8) : Rest (Nat × Kind) :=
  match Varint.read? bs with
  | none => none
  | some (n, bs) =>
    if UInt32.size ≤ n ∨ n / 8 = 0 then none
    else (Kind.ofNumber? (n % 8)).map fun kind => ((n / 8, kind), bs)

/-- What follows a field that is no part of a group's frame. -/
def skip? (kind : Kind) (bs : List UInt8) : Option (List UInt8) :=
  match kind with
  | .varint => (Varint.read? bs).map (·.2)
  | .fixed64 => (take? 8 bs).map (·.2)
  | .bytes => (bytes? bs).map (·.2)
  | .fixed32 => (take? 4 bs).map (·.2)
  | .groupStart => none
  | .groupEnd => none

/-- What follows the groups that are open, the innermost first. No more than `depth` of them may be
open while a field begins. Each step takes at least one byte. -/
def closeGroups (depth : Nat) : (steps : Nat) → (opened : List Nat) → List UInt8 →
    Option (List UInt8)
  | _, [], bs => some bs
  | 0, _ :: _, _ => none
  | steps + 1, group :: outer, bs =>
    match key? bs with
    | none => none
    | some ((number, .groupEnd), bs) =>
      if number = group then closeGroups depth steps outer bs else none
    | some ((number, kind), bs) =>
      if depth ≤ outer.length + 1 then none
      else if kind = .groupStart then closeGroups depth steps (number :: group :: outer) bs
      else
        match skip? kind bs with
        | none => none
        | some bs => closeGroups depth steps (group :: outer) bs

/-- The value of a field and what follows it. -/
def value? (depth number : Nat) (kind : Kind) (bs : List UInt8) : Rest Value :=
  match kind with
  | .varint => (Varint.read? bs).map fun (n, bs) => (.varint n, bs)
  | .bytes => (bytes? bs).map fun (content, bs) => (.bytes content, bs)
  | .groupStart => (closeGroups depth (bs.length + 1) [number] bs).map fun bs => (.other, bs)
  | kind => (skip? kind bs).map fun bs => (.other, bs)

/-- The fields of a message in which groups may be nested `depth` deep, read in at most `steps`
steps. -/
def fieldsFrom (depth : Nat) : (steps : Nat) → List UInt8 → Option (List Field)
  | _, [] => some []
  | 0, _ :: _ => none
  | steps + 1, bs =>
    match key? bs with
    | none => none
    | some ((number, kind), bs) =>
      match value? depth number kind bs with
      | none => none
      | some (value, bs) => (fieldsFrom depth steps bs).map ((number, value) :: ·)

/-- The fields of a message. Each field takes at least one byte, so their number is bounded by the
length. -/
def fields? (depth : Nat) (bs : List UInt8) : Option (List Field) :=
  fieldsFrom depth bs.length bs

end ItemCatalog.Wire
