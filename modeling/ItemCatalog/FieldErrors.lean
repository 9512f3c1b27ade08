import ItemCatalog.Json.Basic
import ItemCatalog.Ordered

/-!
# Errors by field

Which fields of a request are invalid, and why: the messages of each field in the order in which
they were found, the fields in ascending order.
-/

namespace ItemCatalog

/-- Messages by the field that they are about. -/
abbrev FieldErrors := Ordered (List String)

namespace FieldErrors

/-- No errors. -/
def empty : FieldErrors := Ordered.empty

/-- Adds a message after those that a field already has. -/
def add (errors : FieldErrors) (field message : String) : FieldErrors :=
  errors.alter field fun found => found.getD [] ++ [message]

/-- The errors that a list of fields and messages adds up to. -/
def ofList (adds : List (String × String)) : FieldErrors :=
  adds.foldl (fun errors a => errors.add a.1 a.2) empty

/-- Adds a message if there is one. -/
def addIf (errors : FieldErrors) (field : String) : Option String → FieldErrors
  | some message => errors.add field message
  | none => errors

/-- The errors as a JSON object of lists, without blanks. -/
def json (errors : FieldErrors) : String :=
  String.ofList <| Json.enclose '{' '}' <| errors.entries.map fun (field, messages) =>
    Json.quote field ++ ':' :: Json.enclose '[' ']' (messages.map Json.quote)

theorem get?_add (errors : FieldErrors) (field message k : String) :
    (errors.add field message).get? k =
      if k = field then some ((errors.get? field).getD [] ++ [message]) else errors.get? k := by
  rw [add, Ordered.get?_alter]

end FieldErrors
end ItemCatalog
