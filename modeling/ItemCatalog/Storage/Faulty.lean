import ItemCatalog.Storage.Basic

/-!
# Stores that fail

Stores that behave like another one except in one respect: they cannot be reached, they refuse
writes, they forget to say what they wrote, or somebody else gets in between a read and a write.
-/

namespace ItemCatalog.Storage.Backend
variable {σ : Type}

/-- The store that fails every time it is asked for something. -/
def unreachable (error : Error) : Backend σ where
  find _ s := (.error error, s)
  page _ s := (.error error, s)
  commit _ _ s := (.error error, s)
  count s := (.error error, s)

/-- A store that can be read only. -/
def readOnly (b : Backend σ) (error : Error) : Backend σ :=
  { b with commit := fun _ _ s => (.error error, s) }

/-- A store that commits and does not say what. -/
def forgetful (b : Backend σ) : Backend σ :=
  { b with
    commit := fun now staged s =>
      match b.commit now staged s with
      | (.ok _, s) => (.ok [], s)
      | failed => failed }

/-- A store whose state says whether a rival is still to come. The rival makes a change of its own
to the first item that anybody finds, right after it was found. -/
def contested (b : Backend σ) (now : Instant) (rival : Item → Change) : Backend (Bool × σ) where
  find id := fun (isDue, s) =>
    match b.find id s with
    | (.ok (some item), s) =>
      (.ok (some item), false, if isDue then (b.commit now [rival item] s).2 else s)
    | (answer, s) => (answer, isDue, s)
  page window := fun (isDue, s) => ((b.page window s).1, isDue, (b.page window s).2)
  commit now staged := fun (isDue, s) =>
    ((b.commit now staged s).1, isDue, (b.commit now staged s).2)
  count := fun (isDue, s) => ((b.count s).1, isDue, (b.count s).2)

end ItemCatalog.Storage.Backend
