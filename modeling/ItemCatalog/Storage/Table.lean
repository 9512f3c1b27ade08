import ItemCatalog.Assoc
import ItemCatalog.Storage.Basic

/-!
# The table

Items by identifier, kept by the process itself. A commit checks every staged change against the
table as it stands, and only if all of them pass applies them one after another. Main statements:
a failed commit leaves the table as it was, and it fails for the first change that does not pass.
-/

namespace ItemCatalog.Storage

/-- Stored items by their identifiers. The order of the entries means nothing. -/
abbrev Table := Assoc Identifier Item

namespace Table

/-- The table without items. -/
def empty : Table := Assoc.empty

/-- Whether a change still applies: an insertion to an identifier that is not taken, an update or
a deletion to the version that the item was read at. -/
def accepts (t : Table) : Change → Bool
  | .insert id _ => (t.get? id).isNone
  | .update item => (t.get? item.id).map Item.version == some item.version
  | .delete item => (t.get? item.id).map Item.version == some item.version

/-- Applies a change at a given time. -/
def apply (t : Table) (now : Instant) : Change → Table
  | .insert id name => t.insert id (.created id name now)
  | .update item => t.insert item.id (item.updated now)
  | .delete item => t.erase item.id

/-- What is stored for a change, if anything. -/
def written? (now : Instant) : Change → Option Item
  | .insert id name => some (.created id name now)
  | .update item => some (item.updated now)
  | .delete _ => none

/-- Commits staged changes at a given time. -/
def commit (t : Table) (now : Instant) (staged : List Change) :
    Except Error (List Item) × Table :=
  match staged.find? fun c => !t.accepts c with
  | some c => (.error (.conflict c.id), t)
  | none => (.ok (staged.filterMap (written? now)), staged.foldl (fun t c => t.apply now c) t)

/-- Every item in the order of listing. -/
def listed (t : Table) : List Item := t.values.mergeSort Item.listedBefore

/-- The items that a window shows, and the number of all items. -/
def page (t : Table) (window : Window) : Page Item := ⟨window.slice t.listed, t.size⟩

/-- The table as a store. -/
def backend : Backend Table where
  find id t := (.ok (t.get? id), t)
  page window t := (.ok (t.page window), t)
  commit now staged t := t.commit now staged
  count t := (.ok t.size, t)

theorem commit_eq_of_find? {t : Table} {now : Instant} {staged : List Change} {c : Change}
    (h : (staged.find? fun c => !t.accepts c) = some c) :
    t.commit now staged = (.error (.conflict c.id), t) := by
  rw [commit, h]

theorem commit_eq_of_all {t : Table} {now : Instant} {staged : List Change}
    (h : ∀ c ∈ staged, t.accepts c = true) :
    t.commit now staged =
      (.ok (staged.filterMap (written? now)), staged.foldl (fun t c => t.apply now c) t) := by
  have hn : (staged.find? fun c => !t.accepts c) = none :=
    List.find?_eq_none.2 fun c hc => by simp [h c hc]
  rw [commit, hn]

end Table
end ItemCatalog.Storage
