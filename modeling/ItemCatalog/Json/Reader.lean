import ItemCatalog.Json.Basic

/-!
# Reading JSON

The grammar of JSON over bytes: one value with blanks around it and nothing after it. Repeated
member names, numbers of any size, nesting of any depth and strings that mean no text are all
read.
-/

namespace ItemCatalog.Json

/-- What a reader returns: a value and the bytes after it. -/
abbrev Read (α : Type) := Option (α × List UInt8)

/-- Space, tab, line feed and carriage return may stand between tokens. -/
def isSpace (b : UInt8) : Bool := b == 0x20 || b == 9 || b == 10 || b == 13

/-- Bytes from the next token on. -/
def skip (bs : List UInt8) : List UInt8 := bs.dropWhile isSpace

/-- A decimal digit. -/
def isDigit (b : UInt8) : Bool := 0x30 ≤ b && b ≤ 0x39

/-- The value of a hexadecimal digit. -/
def hexValue? (b : UInt8) : Option Nat := Text.Hex.value? (Char.ofNat b.toNat)

/-- The byte that a short escape stands for. -/
def shortEscape? (b : UInt8) : Option UInt8 :=
  if b = 0x22 ∨ b = 0x5C ∨ b = 0x2F then some b
  else if b = 0x62 then some 8
  else if b = 0x66 then some 12
  else if b = 0x6E then some 10
  else if b = 0x72 then some 13
  else if b = 0x74 then some 9
  else none

/-- The UTF-16 unit of four hexadecimal digits. -/
def unit? (a b c d : UInt8) : Option UInt16 := do
  let a ← hexValue? a
  let b ← hexValue? b
  let c ← hexValue? c
  let d ← hexValue? d
  pure (((a * 16 + b) * 16 + c) * 16 + d).toUInt16

/-- Puts a piece in front of those of the rest of a string. -/
def Read.push (p : Piece) (r : Read (List Piece)) : Read (List Piece) :=
  r.map fun (ps, rest) => (p :: ps, rest)

/-- The pieces of a string after its opening quote. -/
def readString : List UInt8 → Read (List Piece)
  | [] => none
  | 0x22 :: rest => some ([], rest)
  | 0x5C :: 0x75 :: a :: b :: c :: d :: rest =>
    match unit? a b c d with
    | some u => (readString rest).push (.unit u)
    | none => none
  | 0x5C :: e :: rest =>
    match shortEscape? e with
    | some b => (readString rest).push (.byte b)
    | none => none
  | b :: rest => if b < 0x20 || b == 0x5C then none else (readString rest).push (.byte b)

/-- One digit or more. -/
def readDigits (bs : List UInt8) : Read (List UInt8) :=
  match bs.span isDigit with
  | ([], _) => none
  | (ds, rest) => some (ds, rest)

/-- The whole part of a number: a zero alone, or digits that do not start with one. -/
def readWhole : List UInt8 → Read (List UInt8)
  | 0x30 :: rest =>
    match rest with
    | b :: _ => if isDigit b then none else some ([0x30], rest)
    | [] => some ([0x30], rest)
  | bs => readDigits bs

/-- The fraction of a number, which may be missing. -/
def readFraction : List UInt8 → Read (List UInt8)
  | 0x2E :: rest => (readDigits rest).map fun (ds, rest) => (0x2E :: ds, rest)
  | bs => some ([], bs)

/-- The exponent of a number, which may be missing. -/
def readExponent : List UInt8 → Read (List UInt8)
  | e :: rest =>
    if e == 0x65 || e == 0x45 then
      match rest with
      | s :: more =>
        if s == 0x2B || s == 0x2D then
          (readDigits more).map fun (ds, rest) => (e :: s :: ds, rest)
        else (readDigits rest).map fun (ds, rest) => (e :: ds, rest)
      | [] => none
    else some ([], e :: rest)
  | [] => some ([], [])

/-- A number without its sign. -/
def readUnsigned (bs : List UInt8) : Read (List UInt8) :=
  (readWhole bs).bind fun (whole, bs) =>
    (readFraction bs).bind fun (fraction, bs) =>
      (readExponent bs).map fun (exponent, bs) => (whole ++ fraction ++ exponent, bs)

/-- A number. -/
def readNumber : List UInt8 → Read (List UInt8)
  | 0x2D :: rest => (readUnsigned rest).map fun (ds, rest) => (0x2D :: ds, rest)
  | bs => readUnsigned bs

/-- Drops the bytes of a fixed word. -/
def readWord (word : List UInt8) (value : Json) (bs : List UInt8) : Read Json :=
  if word.isPrefixOf bs then some (value, bs.drop word.length) else none

mutual

/-- A value, read in at most `steps` steps. -/
def readValue : (steps : Nat) → List UInt8 → Read Json
  | 0, _ => none
  | steps + 1, bs =>
    match skip bs with
    | 0x22 :: rest => (readString rest).map fun (ps, rest) => (.string ps, rest)
    | 0x5B :: rest =>
      match skip rest with
      | 0x5D :: rest => some (.array [], rest)
      | _ => (readItems steps rest).map fun (items, rest) => (.array items, rest)
    | 0x7B :: rest =>
      match skip rest with
      | 0x7D :: rest => some (.object [], rest)
      | _ => (readMembers steps rest).map fun (members, rest) => (.object members, rest)
    | 0x6E :: rest => readWord [0x75, 0x6C, 0x6C] .null rest
    | 0x74 :: rest => readWord [0x72, 0x75, 0x65] (.bool true) rest
    | 0x66 :: rest => readWord [0x61, 0x6C, 0x73, 0x65] (.bool false) rest
    | bs => (readNumber bs).map fun (ds, rest) => (.number ds, rest)

/-- The items of an array that has at least one. -/
def readItems : (steps : Nat) → List UInt8 → Read (List Json)
  | 0, _ => none
  | steps + 1, bs =>
    match readValue steps bs with
    | none => none
    | some (item, rest) =>
      match skip rest with
      | 0x5D :: rest => some ([item], rest)
      | 0x2C :: rest => (readItems steps rest).map fun (items, rest) => (item :: items, rest)
      | _ => none

/-- The members of an object that has at least one. -/
def readMembers : (steps : Nat) → List UInt8 → Read (List (List Piece × Json))
  | 0, _ => none
  | steps + 1, bs =>
    match skip bs with
    | 0x22 :: rest =>
      match readString rest with
      | none => none
      | some (name, rest) =>
        match skip rest with
        | 0x3A :: rest =>
          match readValue steps rest with
          | none => none
          | some (value, rest) =>
            match skip rest with
            | 0x7D :: rest => some ([(name, value)], rest)
            | 0x2C :: rest =>
              (readMembers steps rest).map fun (ms, rest) => ((name, value) :: ms, rest)
            | _ => none
        | _ => none
    | _ => none

end

/-- Reads a whole text as one value. Each step of the reader takes at least one byte, so its
length bounds the steps. -/
def parse? (bs : List UInt8) : Option Json :=
  match readValue (2 * bs.length + 2) bs with
  | some (value, rest) => if (skip rest).isEmpty then some value else none
  | none => none

end ItemCatalog.Json
