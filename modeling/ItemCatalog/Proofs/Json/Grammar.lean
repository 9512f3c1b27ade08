import ItemCatalog.Proofs.Json.Words

/-!
# The grammar of JSON

What values are spelled as, without regard to how they are read: any blanks, any escapes, any order
of members. Main statement: the reader takes a text for a value exactly if the text is a spelling of
it (`parse?_eq_some_iff`). So no text spells two values.

## Main definitions

* `Node`: a value, the items of an array, or the members of an object.
* `Spells`: the spellings of a node.
* `IsText`: the texts that hold one value.
* `Node.Taken`: a node is read within some steps from the front of bytes, with others left.
-/

namespace ItemCatalog.Json
variable {bs rest : List UInt8}

/-- What the grammar describes: a value, or what stands in an array or an object from its first
item or member to its closing bracket. -/
inductive Node
  | value (v : Json)
  | items (vs : List Json)
  | members (ms : List (List Piece × Json))

/-- A node is spelled as these bytes, with any blanks before it. -/
inductive Spells : Node → List UInt8 → Prop
  | space {node : Node} {b : UInt8} {bs : List UInt8} (hspace : isSpace b = true)
    (h : Spells node bs) : Spells node (b :: bs)
  | null : Spells (.value .null) [0x6E, 0x75, 0x6C, 0x6C]
  | yes : Spells (.value (.bool true)) [0x74, 0x72, 0x75, 0x65]
  | no : Spells (.value (.bool false)) [0x66, 0x61, 0x6C, 0x73, 0x65]
  | number {ds : List UInt8} (h : IsNumber ds) : Spells (.value (.number ds)) ds
  | string {ps : List Piece} {bs : List UInt8} (h : Quoted ps bs) :
    Spells (.value (.string ps)) (0x22 :: bs)
  | noItems {s : List UInt8} (hs : AreSpaces s) :
    Spells (.value (.array [])) (0x5B :: (s ++ [0x5D]))
  | array {vs : List Json} {bs : List UInt8} (h : Spells (.items vs) bs) :
    Spells (.value (.array vs)) (0x5B :: bs)
  | noMembers {s : List UInt8} (hs : AreSpaces s) :
    Spells (.value (.object [])) (0x7B :: (s ++ [0x7D]))
  | object {ms : List (List Piece × Json)} {bs : List UInt8} (h : Spells (.members ms) bs) :
    Spells (.value (.object ms)) (0x7B :: bs)
  | lastItem {v : Json} {bs s : List UInt8} (h : Spells (.value v) bs) (hs : AreSpaces s) :
    Spells (.items [v]) (bs ++ s ++ [0x5D])
  | item {v : Json} {vs : List Json} {bs s more : List UInt8} (h : Spells (.value v) bs)
    (hs : AreSpaces s) (hmore : Spells (.items vs) more) :
    Spells (.items (v :: vs)) (bs ++ s ++ 0x2C :: more)
  | lastMember {ps : List Piece} {v : Json} {name s bs t : List UInt8} (hname : Quoted ps name)
    (hs : AreSpaces s) (h : Spells (.value v) bs) (ht : AreSpaces t) :
    Spells (.members [(ps, v)]) (0x22 :: (name ++ s ++ 0x3A :: (bs ++ t ++ [0x7D])))
  | member {ps : List Piece} {v : Json} {ms : List (List Piece × Json)}
    {name s bs t more : List UInt8} (hname : Quoted ps name) (hs : AreSpaces s)
    (h : Spells (.value v) bs) (ht : AreSpaces t) (hmore : Spells (.members ms) more) :
    Spells (.members ((ps, v) :: ms)) (0x22 :: (name ++ s ++ 0x3A :: (bs ++ t ++ 0x2C :: more)))

/-- A text holds one value, with any blanks around it. -/
def IsText (v : Json) (text : List UInt8) : Prop :=
  ∃ bs s, Spells (.value v) bs ∧ AreSpaces s ∧ text = bs ++ s

theorem Spells.spaces {node : Node} {s : List UInt8} (hs : AreSpaces s) (h : Spells node bs) :
    Spells node (s ++ bs) := by
  induction s with
  | nil => exact h
  | cons b s ih =>
    exact .space (hs b List.mem_cons_self) (ih fun c hc => hs c (List.mem_cons_of_mem b hc))

/-! ## What is read is a spelling -/

theorem readWord_sound {word : List UInt8} {value v : Json}
    (h : readWord word value bs = some (v, rest)) : v = value ∧ bs = word ++ rest := by
  unfold readWord at h
  split at h
  · rename_i hword
    obtain ⟨more, rfl⟩ := List.isPrefixOf_iff_prefix.mp hword
    cases h
    exact ⟨rfl, by rw [List.drop_left]⟩
  · cases h

/-- Within some steps only spellings are read. -/
structure Sound (steps : Nat) : Prop where
  value : ∀ {bs v rest}, readValue steps bs = some (v, rest) →
    ∃ text, Spells (.value v) text ∧ bs = text ++ rest
  items : ∀ {bs vs rest}, readItems steps bs = some (vs, rest) →
    ∃ text, Spells (.items vs) text ∧ bs = text ++ rest
  members : ∀ {bs ms rest}, readMembers steps bs = some (ms, rest) →
    ∃ text, Spells (.members ms) text ∧ bs = text ++ rest

namespace Sound
variable {steps : Nat}

theorem zero : Sound 0 := ⟨nofun, nofun, nofun⟩

/-- Spaces before a spelling belong to it. -/
theorem of_skip {node : Node} (h : ∃ text, Spells node text ∧ skip bs = text ++ rest) :
    ∃ text, Spells node text ∧ bs = text ++ rest := by
  obtain ⟨text, htext, hskip⟩ := h
  obtain ⟨s, hs, hbs⟩ := exists_spaces bs
  exact ⟨s ++ text, htext.spaces hs, by rw [hbs, hskip, List.append_assoc]⟩

theorem readValue_sound (ih : Sound steps) {v : Json}
    (h : readValue (steps + 1) bs = some (v, rest)) :
    ∃ text, Spells (.value v) text ∧ bs = text ++ rest := by
  refine of_skip ?_
  rw [readValue] at h
  split at h
  · rename_i more hskip
    obtain ⟨⟨ps, _⟩, hread, heq⟩ := Option.map_eq_some_iff.mp h
    cases heq
    obtain ⟨word, hword, rfl⟩ := readString_sound hread
    exact ⟨_, .string hword, hskip⟩
  · rename_i more hskip
    split at h
    · rename_i close
      cases h
      obtain ⟨s, hs, hmore⟩ := exists_spaces more
      exact ⟨_, .noItems hs, by
        rw [hskip, hmore, close, List.cons_append, List.append_assoc, List.singleton_append]⟩
    · obtain ⟨⟨vs, _⟩, hread, heq⟩ := Option.map_eq_some_iff.mp h
      cases heq
      obtain ⟨text, htext, rfl⟩ := ih.items hread
      exact ⟨_, .array htext, hskip⟩
  · rename_i more hskip
    split at h
    · rename_i close
      cases h
      obtain ⟨s, hs, hmore⟩ := exists_spaces more
      exact ⟨_, .noMembers hs, by
        rw [hskip, hmore, close, List.cons_append, List.append_assoc, List.singleton_append]⟩
    · obtain ⟨⟨ms, _⟩, hread, heq⟩ := Option.map_eq_some_iff.mp h
      cases heq
      obtain ⟨text, htext, rfl⟩ := ih.members hread
      exact ⟨_, .object htext, hskip⟩
  · rename_i more hskip
    obtain ⟨rfl, rfl⟩ := readWord_sound h
    exact ⟨_, .null, hskip⟩
  · rename_i more hskip
    obtain ⟨rfl, rfl⟩ := readWord_sound h
    exact ⟨_, .yes, hskip⟩
  · rename_i more hskip
    obtain ⟨rfl, rfl⟩ := readWord_sound h
    exact ⟨_, .no, hskip⟩
  · obtain ⟨⟨ds, _⟩, hread, heq⟩ := Option.map_eq_some_iff.mp h
    cases heq
    obtain ⟨hds, hskip⟩ := readNumber_sound hread
    exact ⟨_, .number hds, hskip⟩

theorem readItems_sound (ih : Sound steps) {vs : List Json}
    (h : readItems (steps + 1) bs = some (vs, rest)) :
    ∃ text, Spells (.items vs) text ∧ bs = text ++ rest := by
  rw [readItems] at h
  split at h
  · cases h
  · rename_i v more hvalue
    obtain ⟨text, htext, rfl⟩ := ih.value hvalue
    obtain ⟨s, hs, hmore⟩ := exists_spaces more
    split at h
    · rename_i close
      cases h
      exact ⟨_, .lastItem htext hs, by
        rw [hmore, close]
        simp only [List.append_assoc, List.singleton_append]⟩
    · rename_i comma
      obtain ⟨⟨vs, _⟩, hread, heq⟩ := Option.map_eq_some_iff.mp h
      cases heq
      obtain ⟨text', htext', rfl⟩ := ih.items hread
      exact ⟨_, .item htext hs htext', by
        rw [hmore, comma]
        simp only [List.append_assoc, List.cons_append]⟩
    · cases h

theorem readMembers_sound (ih : Sound steps) {ms : List (List Piece × Json)}
    (h : readMembers (steps + 1) bs = some (ms, rest)) :
    ∃ text, Spells (.members ms) text ∧ bs = text ++ rest := by
  refine of_skip ?_
  rw [readMembers] at h
  split at h
  · rename_i quoted hskip
    split at h
    · cases h
    · rename_i ps afterName hread
      obtain ⟨name, hname, rfl⟩ := readString_sound hread
      obtain ⟨s, hs, hcolon⟩ := exists_spaces afterName
      split at h
      · rename_i afterColon colon
        split at h
        · cases h
        · rename_i v more hvalue
          obtain ⟨text, htext, rfl⟩ := ih.value hvalue
          obtain ⟨t, ht, hmore⟩ := exists_spaces more
          split at h
          · rename_i close
            cases h
            exact ⟨_, .lastMember hname hs htext ht, by
              rw [hskip, hcolon, colon, hmore, close]
              simp only [List.append_assoc, List.cons_append, List.nil_append]⟩
          · rename_i comma
            obtain ⟨⟨ms, _⟩, hread, heq⟩ := Option.map_eq_some_iff.mp h
            cases heq
            obtain ⟨text', htext', rfl⟩ := ih.members hread
            exact ⟨_, .member hname hs htext ht htext', by
              rw [hskip, hcolon, colon, hmore, comma]
              simp only [List.append_assoc, List.cons_append]⟩
          · cases h
      · cases h
  · cases h

end Sound

theorem sound (steps : Nat) : Sound steps := by
  induction steps with
  | zero => exact Sound.zero
  | succ steps ih => exact ⟨ih.readValue_sound, ih.readItems_sound, ih.readMembers_sound⟩

/-! ## Every spelling is read -/

/-- A node is read within some steps, and these bytes are left. -/
def Node.Taken (steps : Nat) (bs rest : List UInt8) : Node → Prop
  | .value v => readValue steps bs = some (v, rest)
  | .items vs => readItems steps bs = some (vs, rest)
  | .members ms => readMembers steps bs = some (ms, rest)

/-- Steps that suffice to read a node spelled as these bytes. -/
def Node.steps (bs : List UInt8) : Node → Nat
  | .value _ => 2 * bs.length
  | .items _ => 2 * bs.length + 1
  | .members _ => 2 * bs.length + 1

theorem skip_append_of_cons {b : UInt8} {tail : List UInt8} (h : skip bs = b :: tail)
    (rest : List UInt8) : skip (bs ++ rest) = b :: (tail ++ rest) := by
  rw [skip] at h
  rw [skip, List.dropWhile_append, h]
  rfl

/-- The first byte of a number is a digit or a sign. -/
theorem IsNumber.head {ds : List UInt8} (h : IsNumber ds) :
    ∃ d tail, ds = d :: tail ∧ (isDigit d = true ∨ d = 0x2D) := by
  cases h with
  | positive hds =>
    obtain ⟨d, tail, rfl, hd⟩ := hds.head
    exact ⟨d, tail, rfl, .inl hd⟩
  | negative => exact ⟨_, _, rfl, .inr rfl⟩

theorem isSpace_of_number {d : UInt8} (h : isDigit d = true ∨ d = 0x2D) : isSpace d = false := by
  rcases h with h | rfl
  · rw [← Bool.not_eq_true]
    intro hspace
    simp only [isSpace, Bool.or_eq_true, beq_iff_eq] at hspace
    rcases hspace with ((rfl | rfl) | rfl) | rfl <;> exact absurd h (by decide)
  · decide

/-- The first byte of a spelling that is no space is no closing bracket. -/
theorem Spells.exists_head {node : Node} (h : Spells node bs) :
    ∃ b tail, skip bs = b :: tail ∧ b ≠ 0x5D ∧ b ≠ 0x7D := by
  induction h with
  | space hspace _ ih => rwa [skip_cons_of_isSpace hspace]
  | number hds =>
    obtain ⟨d, tail, rfl, hd⟩ := hds.head
    refine ⟨d, tail, skip_cons_of_not (isSpace_of_number hd) tail, ?_, ?_⟩ <;>
    · rintro rfl
      exact absurd hd (by decide)
  | lastItem _ _ ih =>
    obtain ⟨b, tail, hskip, hb⟩ := ih
    exact ⟨b, _, by rw [List.append_assoc, skip_append_of_cons hskip], hb⟩
  | item _ _ _ ih =>
    obtain ⟨b, tail, hskip, hb⟩ := ih
    exact ⟨b, _, by rw [List.append_assoc, skip_append_of_cons hskip], hb⟩
  | _ => exact ⟨_, _, skip_cons_of_not (by decide) _, by decide, by decide⟩

theorem readWord_append (word : List UInt8) (v : Json) (rest : List UInt8) :
    readWord word v (word ++ rest) = some (v, rest) := by
  rw [readWord, if_pos (List.isPrefixOf_iff_prefix.mpr (List.prefix_append word rest)),
    List.drop_left]

/-- A space is read in front of any node. -/
theorem Node.Taken.space {node : Node} {steps : Nat} {b : UInt8} (hspace : isSpace b = true)
    (h : node.Taken steps bs rest) : node.Taken steps (b :: bs) rest := by
  have hskip := skip_cons_of_isSpace hspace bs
  have hvalue (steps : Nat) : readValue steps (b :: bs) = readValue steps bs := by
    cases steps with
    | zero => rfl
    | succ steps => rw [readValue, readValue, hskip]
  cases steps with
  | zero => cases node <;> cases h
  | succ steps =>
    cases node with
    | value v => exact (hvalue _).trans h
    | items vs =>
      rw [Node.Taken, readItems] at h ⊢
      rwa [hvalue]
    | members ms =>
      rw [Node.Taken, readMembers] at h ⊢
      rwa [hskip]

theorem readValue_number {ds : List UInt8} (h : IsNumber ds) (hrest : EndsNumber rest)
    (steps : Nat) : readValue (steps + 1) (ds ++ rest) = some (.number ds, rest) := by
  have hread := readNumber_append h hrest
  obtain ⟨d, tail, rfl, hd⟩ := h.head
  have hskip : skip (d :: tail ++ rest) = d :: tail ++ rest :=
    skip_cons_of_not (isSpace_of_number hd) _
  rw [readValue, hskip]
  split
  iterate 6
    · rename_i heq
      cases heq
      exact absurd hd (by decide)
  · rw [hread]
    rfl

/-- Bytes whose first one that is no space is a comma, a colon or a closing bracket do not go on
with a number. -/
theorem endsNumber_spaces {s : List UInt8} (hs : AreSpaces s) {b : UInt8}
    (hb : b = 0x2C ∨ b = 0x5D ∨ b = 0x7D) (bs : List UInt8) : EndsNumber (s ++ b :: bs) := by
  have hsign : ∀ c, isSpace c = true ∨ c = 0x2C ∨ c = 0x5D ∨ c = 0x7D →
      isDigit c = false ∧ c ≠ 0x2E ∧ c ≠ 0x65 ∧ c ≠ 0x45 := by
    intro c hc
    simp only [isSpace, Bool.or_eq_true, beq_iff_eq] at hc
    rcases hc with (((rfl | rfl) | rfl) | rfl) | rfl | rfl | rfl <;> decide
  cases s with
  | nil => exact ⟨by rintro c ⟨⟩; exact (hsign b (.inr hb)).1,
      by rintro c ⟨⟩; exact (hsign b (.inr hb)).2⟩
  | cons c s =>
    have hc := hsign c (.inl (hs c List.mem_cons_self))
    exact ⟨by rintro d ⟨⟩; exact hc.1, by rintro d ⟨⟩; exact hc.2⟩

theorem endsNumber_of_areSpaces {s : List UInt8} (hs : AreSpaces s) : EndsNumber s := by
  cases s with
  | nil => exact ⟨nofun, nofun⟩
  | cons c s =>
    have hc := hs c List.mem_cons_self
    simp only [isSpace, Bool.or_eq_true, beq_iff_eq] at hc
    constructor <;>
    · rintro d ⟨⟩
      rcases hc with ((rfl | rfl) | rfl) | rfl <;> decide

theorem Node.steps_mono (node : Node) {bs cs : List UInt8} (h : bs.length ≤ cs.length) :
    node.steps bs ≤ node.steps cs := by
  cases node <;> simp only [Node.steps] <;> omega

theorem Node.exists_succ {node : Node} (hbs : bs ≠ []) {steps : Nat}
    (hsteps : node.steps bs ≤ steps) : ∃ n, steps = n + 1 := by
  have hpos := List.length_pos_iff.mpr hbs
  refine Nat.exists_eq_succ_of_ne_zero fun hzero => ?_
  cases node <;> simp only [Node.steps] at hsteps <;> omega

theorem readValue_noItems {s : List UInt8} (hs : AreSpaces s) (steps : Nat) (rest : List UInt8) :
    readValue (steps + 1) (0x5B :: (s ++ 0x5D :: rest)) = some (.array [], rest) := by
  have hclose : skip (s ++ 0x5D :: rest) = 0x5D :: rest := skip_append hs _
  rw [readValue, skip_cons_of_not (by decide)]
  simp only [hclose]

theorem readValue_noMembers {s : List UInt8} (hs : AreSpaces s) (steps : Nat)
    (rest : List UInt8) :
    readValue (steps + 1) (0x7B :: (s ++ 0x7D :: rest)) = some (.object [], rest) := by
  have hclose : skip (s ++ 0x7D :: rest) = 0x7D :: rest := skip_append hs _
  rw [readValue, skip_cons_of_not (by decide)]
  simp only [hclose]

theorem readValue_array {vs : List Json} (h : Spells (.items vs) bs) {steps : Nat}
    (hitems : readItems steps (bs ++ rest) = some (vs, rest)) :
    readValue (steps + 1) (0x5B :: (bs ++ rest)) = some (.array vs, rest) := by
  obtain ⟨b, tail, hskip, hb, -⟩ := h.exists_head
  rw [readValue, skip_cons_of_not (by decide)]
  simp only [skip_append_of_cons hskip]
  split
  · rename_i heq
    exact absurd (List.cons.inj heq).1 hb
  · rw [hitems]
    rfl

theorem readValue_object {ms : List (List Piece × Json)} (h : Spells (.members ms) bs) {steps : Nat}
    (hmembers : readMembers steps (bs ++ rest) = some (ms, rest)) :
    readValue (steps + 1) (0x7B :: (bs ++ rest)) = some (.object ms, rest) := by
  obtain ⟨b, tail, hskip, -, hb⟩ := h.exists_head
  rw [readValue, skip_cons_of_not (by decide)]
  simp only [skip_append_of_cons hskip]
  split
  · rename_i heq
    exact absurd (List.cons.inj heq).1 hb
  · rw [hmembers]
    rfl

/-- A node is read from the front of any bytes that do not go on with a number. -/
theorem Spells.taken {node : Node} (h : Spells node bs) {steps : Nat}
    (hsteps : node.steps bs ≤ steps) (hrest : EndsNumber rest) :
    node.Taken steps (bs ++ rest) rest := by
  -- What is left after a part of the node starts with spaces and a comma or a bracket.
  induction h generalizing steps rest with
  | space hspace h ih =>
    exact .space hspace (ih ((Node.steps_mono _ (by simp)).trans hsteps) hrest)
  | null =>
    obtain ⟨n, rfl⟩ := Node.exists_succ (by simp) hsteps
    exact readWord_append _ _ _
  | yes =>
    obtain ⟨n, rfl⟩ := Node.exists_succ (by simp) hsteps
    exact readWord_append _ _ _
  | no =>
    obtain ⟨n, rfl⟩ := Node.exists_succ (by simp) hsteps
    exact readWord_append _ _ _
  | @number ds hds =>
    obtain ⟨d, tail, rfl, -⟩ := hds.head
    obtain ⟨n, rfl⟩ := Node.exists_succ (by simp) hsteps
    exact readValue_number hds hrest n
  | string hps =>
    obtain ⟨n, rfl⟩ := Node.exists_succ (by simp) hsteps
    change (readString (_ ++ rest)).map _ = _
    rw [readString_quoted hps]
    rfl
  | @noItems s hs =>
    obtain ⟨n, rfl⟩ := Node.exists_succ (by simp) hsteps
    have hread := readValue_noItems hs n rest
    rwa [Node.Taken, List.cons_append, List.append_assoc, List.singleton_append]
  | array h ih =>
    obtain ⟨n, rfl⟩ := Node.exists_succ (by simp) hsteps
    refine readValue_array h (ih ?_ hrest)
    simp only [Node.steps, List.length_cons] at hsteps ⊢
    omega
  | noMembers hs =>
    obtain ⟨n, rfl⟩ := Node.exists_succ (by simp) hsteps
    have hread := readValue_noMembers hs n rest
    rwa [Node.Taken, List.cons_append, List.append_assoc, List.singleton_append]
  | object h ih =>
    obtain ⟨n, rfl⟩ := Node.exists_succ (by simp) hsteps
    refine readValue_object h (ih ?_ hrest)
    simp only [Node.steps, List.length_cons] at hsteps ⊢
    omega
  | @lastItem v bs s h hs ih =>
    obtain ⟨n, rfl⟩ := Node.exists_succ (by simp) hsteps
    simp only [Node.steps, List.length_append, List.length_singleton] at hsteps ih
    have hvalue := ih (show _ ≤ n by omega) (endsNumber_spaces hs (b := 0x5D) (by simp) rest)
    simp only [Node.Taken] at hvalue
    simp only [Node.Taken, List.append_assoc, List.singleton_append, readItems, hvalue,
      skip_append hs, skip_cons_of_not (show isSpace 0x5D = false by decide)]
  | @item v vs bs s more h hs hmore ih ihmore =>
    obtain ⟨n, rfl⟩ := Node.exists_succ (by simp) hsteps
    simp only [Node.steps, List.length_append, List.length_cons] at hsteps ih ihmore
    have hvalue := ih (show _ ≤ n by omega)
      (endsNumber_spaces hs (b := 0x2C) (by simp) (more ++ rest))
    have hitems := ihmore (show _ ≤ n by omega) hrest
    simp only [Node.Taken] at hvalue hitems
    simp only [Node.Taken, List.append_assoc, List.cons_append, readItems, hvalue,
      skip_append hs, skip_cons_of_not (show isSpace 0x2C = false by decide), hitems,
      Option.map_some]
  | @lastMember ps v name s bs t hname hs h ht ih =>
    obtain ⟨n, rfl⟩ := Node.exists_succ (by simp) hsteps
    simp only [Node.steps, List.length_append, List.length_cons] at hsteps ih
    have hvalue := ih (show _ ≤ n by omega) (endsNumber_spaces ht (b := 0x7D) (by simp) rest)
    simp only [Node.Taken] at hvalue
    simp only [Node.Taken, List.append_assoc, List.cons_append, List.nil_append, readMembers,
      skip_cons_of_not (show isSpace 0x22 = false by decide), readString_quoted hname,
      skip_append hs, skip_cons_of_not (show isSpace 0x3A = false by decide), hvalue,
      skip_append ht, skip_cons_of_not (show isSpace 0x7D = false by decide)]
  | @member ps v ms name s bs t more hname hs h ht hmore ih ihmore =>
    obtain ⟨n, rfl⟩ := Node.exists_succ (by simp) hsteps
    simp only [Node.steps, List.length_append, List.length_cons] at hsteps ih ihmore
    have hvalue := ih (show _ ≤ n by omega)
      (endsNumber_spaces ht (b := 0x2C) (by simp) (more ++ rest))
    have hmembers := ihmore (show _ ≤ n by omega) hrest
    simp only [Node.Taken] at hvalue hmembers
    simp only [Node.Taken, List.append_assoc, List.cons_append, readMembers,
      skip_cons_of_not (show isSpace 0x22 = false by decide), readString_quoted hname,
      skip_append hs, skip_cons_of_not (show isSpace 0x3A = false by decide), hvalue,
      skip_append ht, skip_cons_of_not (show isSpace 0x2C = false by decide), hmembers,
      Option.map_some]

/-! ## Texts -/

/-- The reader takes a text for a value exactly if the text is a spelling of it. -/
theorem parse?_eq_some_iff {text : List UInt8} {v : Json} :
    parse? text = some v ↔ IsText v text := by
  constructor
  · intro h
    unfold parse? at h
    split at h
    · rename_i v' rest hread
      obtain ⟨bs, hbs, rfl⟩ := (sound _).value hread
      split at h
      · rename_i hend
        cases h
        exact ⟨bs, rest, hbs, skip_eq_nil_iff.mp (List.isEmpty_iff.mp hend), rfl⟩
      · cases h
    · cases h
  · rintro ⟨bs, s, hbs, hs, rfl⟩
    have hread : readValue (2 * (bs ++ s).length + 2) (bs ++ s) = some (v, s) := by
      refine hbs.taken ?_ (endsNumber_of_areSpaces hs)
      simp only [Node.steps, List.length_append]
      omega
    simp only [parse?, hread, skip_eq_nil_iff.mpr hs, List.isEmpty_nil, if_true]

/-- No text spells two values. -/
theorem IsText.unique {text : List UInt8} {v w : Json} (hv : IsText v text) (hw : IsText w text) :
    v = w := by
  rw [← parse?_eq_some_iff] at hv hw
  exact Option.some.inj (hv.symm.trans hw)

end ItemCatalog.Json
