import ItemCatalog.Method
import ItemCatalog.Proofs.Text.Ascii

/-!
# Operations by the paths of methods

The operation of a call is taken from the last segment of its path: from the verb that the segment
starts with, in any case. No verb is the beginning of another, so a segment starts with one of them
at the most (`verb_unique`), and it does not matter which of them is tried first
(`ofVerbs_of_perm`). Main statement: `inferred_from_segment`, which says for every path what its
operation is, and what it depends on.

## Main definitions

* `Operation.IsLastSegment`: a segment is what follows the last slash of a path.
* `Operation.ofVerbs`: the operation of a name when verbs are tried in a given order.
-/

namespace ItemCatalog.Operation
variable {path segment name : String} {order : List (String × Operation)} {v w : String × Operation}

/-! ## Segments -/

/-- Whether a segment is the part of a path after its last slash, or all of a path without one. -/
def IsLastSegment (path segment : String) : Prop :=
  '/' ∉ segment.toList ∧ (path = segment ∨ ∃ before, path = before ++ "/" ++ segment)

theorem isLastSegment_iff : IsLastSegment path segment ↔ methodName path = segment := by
  have hpath (before : List Char) : path = String.ofList before ++ "/" ++ segment ↔
      path.toList = before ++ '/' :: segment.toList := by
    rw [← String.toList_inj, String.toList_append, String.toList_append, String.toList_ofList,
      List.append_assoc]
    rfl
  rw [methodName, ← String.toList_inj, String.toList_ofList, Text.afterLast_eq_iff, IsLastSegment,
    ← String.toList_inj]
  refine and_congr_right fun _ => or_congr_right ⟨?_, ?_⟩
  · rintro ⟨before, h⟩
    refine ⟨before.toList, (hpath before.toList).1 ?_⟩
    rw [h, String.ofList_toList]
  · rintro ⟨before, h⟩
    exact ⟨String.ofList before, (hpath before).2 h⟩

theorem isLastSegment_methodName (path : String) : IsLastSegment path (methodName path) :=
  isLastSegment_iff.2 rfl

/-- The operation of a path is that of its last segment. -/
theorem IsLastSegment.ofMethod_eq (h : IsLastSegment path segment) :
    ofMethod path = ofMethodName segment := by
  rw [ofMethod, isLastSegment_iff.1 h]

/-- A name without a slash is a path of itself. -/
theorem isLastSegment_self (h : '/' ∉ name.toList) : IsLastSegment name name := ⟨h, .inl rfl⟩

theorem isLastSegment_methodPath (h : '/' ∉ name.toList) : IsLastSegment (methodPath name) name :=
  ⟨h, .inr ⟨"/" ++ serviceName, rfl⟩⟩

theorem lower_methodName (path : String) :
    Text.lower (methodName path) = methodName (Text.lower path) := by
  rw [methodName, methodName, Text.toList_lower, Text.afterLast_map_toLower (by decide), Text.lower,
    String.toList_ofList]

/-! ## Verbs -/

theorem ofMethodName_congr {name name' : String} (h : Text.lower name = Text.lower name') :
    ofMethodName name = ofMethodName name' := by
  rw [ofMethodName, ofMethodName, h]

/-- A name starts with one verb at the most. -/
theorem verb_unique (hv : v ∈ verbs) (hw : w ∈ verbs) (hvname : Text.StartsWith v.1 name)
    (hwname : Text.StartsWith w.1 name) : v = w := by
  have hfree : ∀ v ∈ verbs, ∀ w ∈ verbs, v.1.toList <+: w.1.toList → v = w := by decide +kernel
  rw [Text.startsWith_iff] at hvname hwname
  rcases List.prefix_or_prefix_of_prefix hvname hwname with h | h
  · exact hfree v hv w hw h
  · exact (hfree w hw v hv h).symm

/-- The operation of a name when verbs are tried in a given order: that of the first one that the
name starts with, and reading if there is none. -/
def ofVerbs (order : List (String × Operation)) (name : String) : Operation :=
  match order.find? fun v => v.1.toList.isPrefixOf (Text.lower name).toList with
  | some v => v.2
  | none => read

theorem ofVerbs_verbs (name : String) : ofVerbs verbs name = ofMethodName name := rfl

theorem ofVerbs_of_startsWith (horder : order ⊆ verbs) (hv : v ∈ order)
    (hname : Text.StartsWith v.1 name) : ofVerbs order name = v.2 := by
  rw [ofVerbs]
  split
  · next w hfind =>
    have hw := List.find?_some hfind
    rw [List.isPrefixOf_iff_prefix, ← Text.startsWith_iff] at hw
    rw [verb_unique (horder (List.mem_of_find?_eq_some hfind)) (horder hv) hw hname]
  · next hfind =>
    have hnot := List.find?_eq_none.1 hfind v hv
    rw [List.isPrefixOf_iff_prefix, ← Text.startsWith_iff] at hnot
    exact absurd hname hnot

theorem ofVerbs_of_not_startsWith (h : ∀ v ∈ order, ¬Text.StartsWith v.1 name) :
    ofVerbs order name = read := by
  rw [ofVerbs, List.find?_eq_none.2]
  intro v hv
  rw [List.isPrefixOf_iff_prefix, ← Text.startsWith_iff]
  exact h v hv

/-- The order in which the verbs are tried makes no difference. -/
theorem ofVerbs_of_perm (h : order.Perm verbs) (name : String) :
    ofVerbs order name = ofMethodName name := by
  rw [← ofVerbs_verbs]
  by_cases hsome : ∃ v ∈ order, Text.StartsWith v.1 name
  · obtain ⟨v, hv, hname⟩ := hsome
    rw [ofVerbs_of_startsWith h.subset hv hname,
      ofVerbs_of_startsWith (List.Subset.refl verbs) (h.subset hv) hname]
  · rw [ofVerbs_of_not_startsWith fun v hv hname => hsome ⟨v, hv, hname⟩,
      ofVerbs_of_not_startsWith fun v hv hname => hsome ⟨v, h.symm.subset hv, hname⟩]

/-- A name stands for an operation other than reading just if it starts with a verb of it. -/
theorem ofMethodName_eq_iff {op : Operation} (hop : op ≠ read) :
    ofMethodName name = op ↔ ∃ v ∈ verbs, v.2 = op ∧ Text.StartsWith v.1 name := by
  rw [← ofVerbs_verbs]
  constructor
  · rintro rfl
    by_contra hnone
    refine hop (ofVerbs_of_not_startsWith fun v hv hname => hnone ⟨v, hv, ?_, hname⟩)
    exact (ofVerbs_of_startsWith (List.Subset.refl verbs) hv hname).symm
  · rintro ⟨v, hv, rfl, hname⟩
    exact ofVerbs_of_startsWith (List.Subset.refl verbs) hv hname

theorem ofMethodName_eq_create_iff :
    ofMethodName name = create ↔ Text.StartsWith "create" name := by
  rw [ofMethodName_eq_iff (by decide)]
  simp [verbs]

theorem ofMethodName_eq_update_iff :
    ofMethodName name = update ↔ Text.StartsWith "update" name ∨ Text.StartsWith "patch" name := by
  rw [ofMethodName_eq_iff (by decide)]
  simp [verbs]

theorem ofMethodName_eq_delete_iff :
    ofMethodName name = delete ↔ Text.StartsWith "delete" name ∨ Text.StartsWith "remove" name := by
  rw [ofMethodName_eq_iff (by decide)]
  simp [verbs]

theorem ofMethodName_eq_read_iff :
    ofMethodName name = read ↔
      ∀ verb ∈ ["create", "update", "patch", "delete", "remove"], ¬Text.StartsWith verb name := by
  have hverbs : ofMethodName name = read ↔
      ∀ v ∈ verbs, v.2 ≠ read → ¬Text.StartsWith v.1 name := by
    constructor
    · rintro hread v hv hop hname
      rw [(ofMethodName_eq_iff hop).2 ⟨v, hv, rfl, hname⟩] at hread
      exact hop hread
    · intro h
      by_contra hop
      obtain ⟨v, hv, hvop, hname⟩ := (ofMethodName_eq_iff hop).1 rfl
      exact h v hv (hvop ▸ hop) hname
  rw [hverbs]
  simp [verbs]

/-! ## Paths -/

/-- Every path has one last segment, and its operation is that of the verb which the segment starts
with in any ASCII case: creating for `create`, updating for `update` and `patch`, deleting for
`delete` and `remove`, and reading for everything else, an empty path as well. So the operation
depends on nothing but that segment up to case; it is that of the name of the method that a call
knows, which for a method of the service is the name that its path was made from. No segment starts
with verbs of two operations, so they may be tried in any order. -/
theorem inferred_from_segment :
    (∀ path, IsLastSegment path (methodName path)) ∧
    (∀ path segment, IsLastSegment path segment →
      (ofMethod path = create ↔ Text.StartsWith "create" segment) ∧
      (ofMethod path = update ↔
        Text.StartsWith "update" segment ∨ Text.StartsWith "patch" segment) ∧
      (ofMethod path = delete ↔
        Text.StartsWith "delete" segment ∨ Text.StartsWith "remove" segment) ∧
      (ofMethod path = read ↔
        ∀ verb ∈ ["create", "update", "patch", "delete", "remove"],
          ¬Text.StartsWith verb segment) ∧
      ∀ order, order.Perm verbs → ofMethod path = ofVerbs order segment) ∧
    ofMethod "" = read ∧
    (∀ path path' segment segment', IsLastSegment path segment → IsLastSegment path' segment' →
      Text.lower segment = Text.lower segment' → ofMethod path = ofMethod path') ∧
    (∀ path path', Text.lower path = Text.lower path' → ofMethod path = ofMethod path') ∧
    (∀ path metadata id, let call := Call.start path metadata id
      call.operation = ofMethod path ∧ ofMethod call.methodName = ofMethod path) ∧
    (∀ name, '/' ∉ name.toList → ofMethod (methodPath name) = ofMethod name) ∧
    ∀ segment, ∀ v ∈ verbs, ∀ w ∈ verbs, Text.StartsWith v.1 segment →
      Text.StartsWith w.1 segment → v.2 = w.2 := by
  refine ⟨isLastSegment_methodName, ?verbs, by decide +kernel, ?segment, ?case, ?call, ?name,
    fun segment v hv w hw hvs hws => congrArg _ (verb_unique hv hw hvs hws)⟩
  case verbs =>
    intro path segment h
    rw [h.ofMethod_eq]
    refine ⟨ofMethodName_eq_create_iff, ofMethodName_eq_update_iff, ofMethodName_eq_delete_iff,
      ofMethodName_eq_read_iff, fun order horder => (ofVerbs_of_perm horder segment).symm⟩
  case segment =>
    intro path path' segment segment' h h' hlower
    rw [h.ofMethod_eq, h'.ofMethod_eq, ofMethodName_congr hlower]
  case case =>
    intro path path' hlower
    rw [ofMethod, ofMethod]
    apply ofMethodName_congr
    rw [lower_methodName, lower_methodName, hlower]
  case call =>
    intro path metadata id call
    have hsegment := isLastSegment_methodName path
    refine ⟨Call.operation_start path metadata id, ?_⟩
    rw [Call.methodName_start, (isLastSegment_self hsegment.1).ofMethod_eq, hsegment.ofMethod_eq]
  case name =>
    intro name h
    rw [(isLastSegment_methodPath h).ofMethod_eq, (isLastSegment_self h).ofMethod_eq]

/-- What stands in front of the last slash does not count, nor does case, nor the order of the
verbs. -/
theorem patch_inferred :
    let path := "/create.v1/remove/PatchWork"
    IsLastSegment path "PatchWork" ∧ ofMethod path = update ∧
      ofVerbs verbs.reverse "PatchWork" = update ∧ ofMethod "/pATCHwORK" = update ∧
      ofMethod (methodPath "PatchWork") = update := by
  intro path
  obtain ⟨-, hverbs, -, hsegment, -, -, hname, -⟩ := inferred_from_segment
  have hlast : IsLastSegment path "PatchWork" := ⟨by decide, .inr ⟨"/create.v1/remove", rfl⟩⟩
  have hshort : IsLastSegment "/pATCHwORK" "pATCHwORK" := ⟨by decide, .inr ⟨"", rfl⟩⟩
  have hself : IsLastSegment "PatchWork" "PatchWork" := isLastSegment_self (by decide)
  obtain ⟨-, hupdate, -, -, horder⟩ := hverbs path "PatchWork" hlast
  have hop : ofMethod path = update := hupdate.2 (.inr ⟨"Patch", "Work", rfl, by decide⟩)
  refine ⟨hlast, hop, ?_, ?_, ?_⟩
  · rw [← horder verbs.reverse verbs.reverse_perm, hop]
  · rw [← hop]
    exact hsegment _ _ _ _ hshort hlast (by decide)
  · rw [hname "PatchWork" (by decide), ← hop]
    exact hsegment _ _ _ _ hself hlast rfl

end ItemCatalog.Operation
