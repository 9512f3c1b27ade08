/-!
# ASCII case and separators

Lower case for the 26 ASCII letters, every other character left alone, and equality up to it; what
stands before and after the last separator of a text.
-/

namespace ItemCatalog.Text

/-- A text with its ASCII letters in lower case. -/
def lower (s : String) : String := String.ofList (s.toList.map Char.toLower)

@[simp] theorem toList_lower (s : String) : (lower s).toList = s.toList.map Char.toLower := by
  simp [lower]

/-- Whether two texts are equal up to the case of ASCII letters. -/
def equalIgnoringCase (s t : String) : Bool := lower s == lower t

/-- The characters after the last `stop`, all of them if there is none. -/
def afterLast (stop : Char) (cs : List Char) : List Char :=
  (cs.reverse.takeWhile (· != stop)).reverse

/-- The characters before the last `stop` and those after it, if there is one. -/
def splitLast? (stop : Char) : List Char → Option (List Char × List Char)
  | [] => none
  | c :: cs =>
    match splitLast? stop cs with
    | some (before, after) => some (c :: before, after)
    | none => if c = stop then some ([], cs) else none

theorem afterLast_append (stop : Char) (xs ys : List Char) (h : stop ∉ ys) :
    afterLast stop (xs ++ stop :: ys) = ys := by
  have hy : ∀ c ∈ ys.reverse, (c != stop) = true := by
    intro c hc
    simp only [List.mem_reverse] at hc
    simpa using fun e : c = stop => h (e ▸ hc)
  rw [afterLast, List.reverse_append, List.reverse_cons, List.append_assoc,
    List.takeWhile_append_of_pos hy]
  simp

end ItemCatalog.Text
