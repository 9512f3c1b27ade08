import ItemCatalog.Failure
import ItemCatalog.Message.Basic
import ItemCatalog.Name

/-!
# Checks of requests

Every check runs before storage is asked for anything. A request's errors are collected by field,
so that one failure describes all of them.
-/

namespace ItemCatalog

namespace Field

/-- The field of an item's name. -/
def name : String := "Name"

/-- The field of an item's identifier. -/
def id : String := "Id"

/-- The field of a page number. -/
def startPage : String := "StartPage"

/-- The field of a page size. -/
def pageSize : String := "PageSize"

end Field

/-- Reads an identifier out of a request's field: it may stand between blanks, and must be there,
well formed and not nil. -/
def Identifier.require (text field : String) : Except Failure Identifier :=
  let trimmed := Text.trim text
  if trimmed.isEmpty then
    .error (.invalidField field (field ++ " is required and cannot be empty."))
  else
    match Identifier.parse? trimmed with
    | none => .error (.invalidField field (field ++ " must be a valid GUID format."))
    | some id =>
      if id = .nil then .error (.invalidField field (field ++ " cannot be an empty GUID."))
      else .ok id

namespace ItemMessage

/-- What is wrong with the name, if anything. -/
def nameError? (m : ItemMessage) : Option String := (Name.broken? m.name).map Name.Rule.message

/-- What is wrong with the identifier of a creation: it must be empty. -/
def newIdError? (m : ItemMessage) : Option String :=
  if m.id.isEmpty then none else some "ID should not be provided for create requests."

/-- What is wrong with the shape of the identifier of an update. -/
def idError? (m : ItemMessage) : Option String :=
  if (Text.trim m.id).isEmpty then some "ID is required for update requests."
  else if (Identifier.parse? (Text.trim m.id)).isNone then some "ID must be a valid GUID format."
  else none

/-- Checks a creation: a well-formed name and no identifier. -/
def checkCreate (m : ItemMessage) : Except Failure Unit :=
  let errors := FieldErrors.empty.addIf Field.name m.nameError?
  (errors.addIf Field.id m.newIdError?).result

/-- Checks an update: a well-formed identifier and a well-formed name. -/
def checkUpdate (m : ItemMessage) : Except Failure Unit :=
  let errors := FieldErrors.empty.addIf Field.id m.idError?
  (errors.addIf Field.name m.nameError?).result

end ItemMessage

namespace PageQuery

/-- What is wrong with the page number, if anything. -/
def startPageError? (q : PageQuery) : Option String :=
  if q.startPage.toInt < 1 then some "StartPage must be greater than 0." else none

/-- What is wrong with the page size, if anything. -/
def pageSizeError? (q : PageQuery) : Option String :=
  if q.pageSize.toInt < 1 then some "PageSize must be greater than 0."
  else if maxRequestedPageSize.toInt < q.pageSize.toInt then some "PageSize cannot exceed 1000."
  else none

/-- Checks the numbers of a page query. Sizes that storage is never asked for are accepted here
and cut down later. -/
def check (q : PageQuery) : Except Failure Unit :=
  let errors := FieldErrors.empty.addIf Field.startPage q.startPageError?
  (errors.addIf Field.pageSize q.pageSizeError?).result

/-- The window that a query asks for. -/
def window (q : PageQuery) : Window := .clamp q.startPage q.pageSize

end PageQuery
end ItemCatalog
