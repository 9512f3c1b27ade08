import ItemCatalog.Text.Blank

/-!
# Item names

The rules that a name has to keep, in the order in which they are checked.
-/

namespace ItemCatalog.Name

/-- The greatest length of a name, in characters. -/
def maxLength : Nat := 100

/-- Whether a character may stand in a name. -/
def isAllowed (c : Char) : Bool :=
  c.isAlphanum || Text.isBlank c || c == '-' || c == '_' || c == '.'

/-- A rule about names, by what breaks it. -/
inductive Rule
  | blank
  | tooLong
  | badCharacter
deriving DecidableEq

/-- The wording of a broken rule. -/
def Rule.message : Rule → String
  | .blank => "Name is required and cannot be empty."
  | .tooLong => "Name cannot exceed 100 characters."
  | .badCharacter =>
    "Name contains invalid characters. " ++
      "Only letters, numbers, spaces, hyphens, underscores, and dots are allowed."

/-- The first rule that a name breaks, if any. -/
def broken? (name : String) : Option Rule :=
  if (Text.trim name).isEmpty then some .blank
  else if maxLength < name.length then some .tooLong
  else if name.toList.all isAllowed then none
  else some .badCharacter

end ItemCatalog.Name
