import ItemCatalog.Json.Basic

/-!
# Members of objects

How typed values are read out of an object: each member by one of its names, at most once, with a
`null` counting as a member that is not there.
-/

namespace ItemCatalog.Json

/-- The value of the only member that has one of these names, `null` if there is none. -/
def only? (members : List (String × Json)) (names : List String) : Option Json :=
  match members.filter fun m => names.contains m.1 with
  | [] => some .null
  | [(_, value)] => some value
  | _ => none

/-- A text that may be missing. -/
def optionalText? : Json → Option (Option String)
  | .null => some none
  | value => value.text?.map some

/-- A list of texts that may be missing. -/
def optionalTexts? : Json → Option (Option (List String))
  | .null => some none
  | value => value.texts?.map some

/-- One of several names: its text, or an object with a member of that name that is `null`. -/
def choice? : Json → Option String
  | .object [(name, .null)] => Piece.text? name
  | value => value.text?

/-- One of several names, or nothing. -/
def optionalChoice? : Json → Option (Option String)
  | .null => some none
  | value => value.choice?.map some

end ItemCatalog.Json
