import ItemCatalog.Text.Ascii

/-!
# Operations

The four classes of calls, their names, and the class that a method's name stands for.
-/

namespace ItemCatalog

/-- What a call does to the catalogue. -/
inductive Operation
  | create
  | read
  | update
  | delete
deriving DecidableEq

namespace Operation

/-- Every operation. -/
def all : List Operation := [create, read, update, delete]

/-- The name used for permissions, in the log and as a metric label. -/
def name : Operation → String
  | create => "create"
  | read => "read"
  | update => "update"
  | delete => "delete"

/-- The capitalised name that a failure's metadata carries. -/
def label : Operation → String
  | create => "Create"
  | read => "Read"
  | update => "Update"
  | delete => "Delete"

/-- The operation of a given name, in any ASCII case. -/
def parse? (s : String) : Option Operation := all.find? fun op => op.name == Text.lower s

/-- The wording of a failed `parse?`. -/
def unknownMessage (s : String) : String := "unknown operation: " ++ s

/-- The words that a method's name may start with, and the operation each stands for. -/
def verbs : List (String × Operation) :=
  [("create", create), ("get", read), ("list", read), ("find", read), ("update", update),
    ("patch", update), ("delete", delete), ("remove", delete)]

/-- The last segment of a method path, such as `GetItem` in `/package.Service/GetItem`. -/
def methodName (path : String) : String := String.ofList (Text.afterLast '/' path.toList)

/-- The operation a method name stands for: that of the verb it starts with in any ASCII case, and
reading for every other name. -/
def ofMethodName (name : String) : Operation :=
  match verbs.find? fun v => v.1.toList.isPrefixOf (Text.lower name).toList with
  | some v => v.2
  | none => read

/-- The operation that a method path stands for. -/
def ofMethod (path : String) : Operation := ofMethodName (methodName path)

end Operation
end ItemCatalog
