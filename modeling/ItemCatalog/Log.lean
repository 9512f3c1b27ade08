/-!
# The log

Events and spans with their fields. What is written to the log is data; where it goes is not
decided here.
-/

namespace ItemCatalog.Log

/-- How serious an event is. -/
inductive Level
  | debug
  | info
  | warn
  | error
deriving DecidableEq

/-- A named value of an entry. -/
abbrev Field := String × String

/-- An event that happened, or a span of work that began. -/
inductive Entry
  | event (level : Level) (message : String) (fields : List Field)
  | span (name : String) (fields : List Field)
deriving DecidableEq

end ItemCatalog.Log
