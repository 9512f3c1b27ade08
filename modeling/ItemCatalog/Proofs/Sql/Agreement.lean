import ItemCatalog.Proofs.Sql.Ledger

/-!
# When a table and a server agree

One list of changes is committed to a table, which checks all of them before it applies any, and to
a server, which executes a statement for each in turn. Main statement: `commits_agree_iff`. The two
agree whenever no identifier is touched twice. If one is, they cannot both succeed, so they agree
only where both refuse, and report the same item.
-/

namespace ItemCatalog.Sql
open Storage (Change Error Table)

variable {σ : Type} {v : Server σ} {s : σ} {t : Table} {now : Instant} {staged : List Change}

/-- Two commits of the same changes end alike, on the table `t` and on a server with the same rows:
both succeed with the same items and leave the same rows; or both fail and leave the rows as they
were, and where one finds an item at another version than its change was staged for, both report a
conflict for that item. -/
def Agree (t : Table) (staged : List Change) (a : Except Error (List Item) × Table)
    (b : Except Error (List Item) × Relation) : Prop :=
  (∃ items, a.1 = .ok items ∧ b.1 = .ok items ∧ b.2 = a.2.get?) ∨
    ∃ e e', a.1 = .error e ∧ b.1 = .error e' ∧ a.2 = t ∧ b.2 = t.get? ∧
      (∀ id, e' = .conflict id → e = .conflict id) ∧
      ∀ c x, t.refused? staged = some c → c.item? = some x → e' = .conflict x.id

/-- What a commit leaves on a server, with its outcome. -/
def Server.commit (v : Server σ) (now : Instant) (staged : List Change) (s : σ) :
    Except Error (List Item) × Relation :=
  (((Sql.commit now staged).run v.respond s).1,
    v.committed ((Sql.commit now staged).run v.respond s).2)

/-- A change that is refused by the table at once and one that is refused by a server in its turn
give reports that agree: if either is an update or a deletion, the second is, and of the same
item. -/
def Alike (c d : Change) : Prop :=
  c.item?.isSome = true ∨ d.item?.isSome = true → d.item?.isSome = true ∧ d.id = c.id

theorem alike_refl (c : Change) : Alike c c := by
  intro h
  exact ⟨h.elim id id, rfl⟩

/-- Two failures agree just when the refused changes are alike. -/
theorem agree_error_iff {c d : Change} {e : Error} (hc : t.refused? staged = some c)
    (hd : Reports d e) :
    Agree t staged (.error (.conflict c.id), t) (.error e, t.get?) ↔ Alike c d := by
  constructor
  · rintro (⟨items, ha, _⟩ | ⟨_, _, ha, hb, _, _, hback, hforth⟩)
    · cases ha
    · cases ha
      cases hb
      cases hx : d.item? with
      | some x =>
        rw [Reports, hx] at hd
        have hid := hback d.id hd
        rw [Error.conflict.injEq] at hid
        intro _
        rw [hx]
        exact ⟨rfl, hid.symm⟩
      | none =>
        rw [Reports, hx] at hd
        obtain ⟨message, rfl⟩ := hd
        rintro (h | h)
        · obtain ⟨y, hy⟩ := Option.isSome_iff_exists.1 h
          cases hforth c y hc hy
        · rw [hx] at h
          cases h
  · intro hab
    refine Or.inr ⟨_, _, rfl, rfl, rfl, rfl, ?_, ?_⟩
    · intro id he
      cases hx : d.item? with
      | none =>
        rw [Reports, hx] at hd
        obtain ⟨message, rfl⟩ := hd
        cases he
      | some x =>
        rw [Reports, hx] at hd
        obtain ⟨_, hid⟩ := hab (Or.inr (by rw [hx]; rfl))
        rw [← hid, ← he, hd]
    · intro c' y hc' hy
      rw [hc, Option.some.injEq] at hc'
      subst hc'
      obtain ⟨hsome, hid⟩ := hab (Or.inl (by rw [hy]; rfl))
      obtain ⟨x, hx⟩ := Option.isSome_iff_exists.1 hsome
      rw [Reports, hx] at hd
      rw [hd, hid, Storage.Change.id_eq_of_item? hy]

/-! ## The four cases -/

/-- When nothing is refused and no identifier is touched twice, both succeed and agree. -/
theorem agree_of_nodup (hv : v.Executes) (hidle : v.idle s)
    (hrows : v.committed s = t.get?) (hnow : now.IsWhole)
    (hstored : ∀ k y, t.get? k = some y → y.createdAt.IsWhole)
    (hfits : ∀ c ∈ staged, fits c)
    (hread : ∀ x, .update x ∈ staged →
      (∃ r, t.get? x.id = some r ∧ x.IsRenaming r) ∨ t.IsPast x.id x.version)
    (hnodup : (staged.map Change.id).Nodup) (hc : t.refused? staged = none) :
    Agree t staged (t.commit now staged) (v.commit now staged s) := by
  have hread' : ∀ x, .update x ∈ staged →
      ∃ r, t.get? x.id = some r ∧ x.IsRenaming r ∧ r.createdAt.IsWhole := by
    intro x hx
    rcases hread x hx with ⟨r, hr, hren⟩ | hpast
    · exact ⟨r, hr, hren, hstored _ r hr⟩
    · -- A change of a past version would have been refused.
      have ha := Table.refused?_eq_none.1 hc (.update x) hx
      obtain ⟨y, hy, hver⟩ := (Table.accepts_of_item? (x := x) rfl).1 ha
      have := hpast y hy
      omega
  obtain ⟨s', hrun, hcommitted⟩ :=
    hv.run_commit_of_nodup hidle hrows hnow hfits hread' hnodup hc
  rw [Table.commit_eq_of_refused_none hc, Server.commit, hrun]
  exact Or.inl ⟨_, rfl, rfl, hcommitted⟩

section SameVersions
variable (hv : v.Executes) (hidle : v.idle s)
  (hsame : Relation.SameVersions (v.committed s) t) (hfits : ∀ c ∈ staged, fits c)
include hv hidle hsame hfits

/-- When only the server refuses a change, they do not agree. -/
theorem not_agree_of_refused_none {d : Change} (hc : t.refused? staged = none)
    (hd : t.refusedInTurn? now staged = some d) :
    ¬Agree t staged (t.commit now staged) (v.commit now staged s) := by
  obtain ⟨e, s', hrun, _, _⟩ := hv.run_commit_of_refused hidle hsame hfits hd
  rw [Table.commit_eq_of_refused_none hc, Server.commit, hrun]
  rintro (⟨_, _, hb, _⟩ | ⟨_, _, ha, _⟩)
  · cases hb
  · cases ha

/-- When only the table refuses a change, they do not agree. -/
theorem not_agree_of_refusedInTurn_none {c : Change} (hc : t.refused? staged = some c)
    (hd : t.refusedInTurn? now staged = none) :
    ¬Agree t staged (t.commit now staged) (v.commit now staged s) := by
  obtain ⟨items, s', hrun⟩ := hv.run_commit_of_none hidle hsame hfits hd
  rw [Table.commit_eq_of_refused hc, Server.commit, hrun]
  rintro (⟨_, ha, _⟩ | ⟨_, _, _, hb, _⟩)
  · cases ha
  · cases hb

/-- When both refuse a change, they agree just when the changes are alike. -/
theorem agree_iff_alike {c d : Change} (hrows : v.committed s = t.get?)
    (hc : t.refused? staged = some c) (hd : t.refusedInTurn? now staged = some d) :
    Agree t staged (t.commit now staged) (v.commit now staged s) ↔ Alike c d := by
  obtain ⟨e, s', hrun, hcommitted, hreports⟩ := hv.run_commit_of_refused hidle hsame hfits hd
  rw [Table.commit_eq_of_refused hc, Server.commit, hrun, hcommitted, hrows]
  exact agree_error_iff hc hreports

end SameVersions

/-! ## The exact condition -/

/-- A commit to a table and a commit of the same changes to a server with the same rows, between two
of its transactions and with columns that hold what the changes are about, agree just when no
identifier is touched twice, or each refuses a change and the two are alike. -/
theorem commits_agree_iff (hv : v.Executes) (hidle : v.idle s)
    (hrows : v.committed s = t.get?) (hnow : now.IsWhole)
    (hstored : ∀ k y, t.get? k = some y → y.createdAt.IsWhole)
    (hfits : ∀ c ∈ staged, fits c)
    (hread : ∀ x, .update x ∈ staged →
      (∃ r, t.get? x.id = some r ∧ x.IsRenaming r) ∨ t.IsPast x.id x.version) :
    Agree t staged (t.commit now staged) (v.commit now staged s) ↔
      (staged.map Change.id).Nodup ∨
        ∃ c d, t.refused? staged = some c ∧ t.refusedInTurn? now staged = some d ∧
          Alike c d := by
  have hsame : Relation.SameVersions (v.committed s) t := by
    intro k
    rw [hrows]
  cases hc : t.refused? staged with
  | none =>
    by_cases hnodup : (staged.map Change.id).Nodup
    · exact iff_of_true
        (agree_of_nodup hv hidle hrows hnow hstored hfits hread hnodup hc) (Or.inl hnodup)
    · obtain ⟨d, hd⟩ := Option.ne_none_iff_exists'.1
        (Table.refusedInTurn?_ne_none_of_repeated now hnodup hc)
      refine iff_of_false (not_agree_of_refused_none hv hidle hsame hfits hc hd) ?_
      rintro (h | ⟨_, _, h, _⟩)
      · exact hnodup h
      · cases h
  | some c =>
    cases hd : t.refusedInTurn? now staged with
    | none =>
      refine iff_of_false (not_agree_of_refusedInTurn_none hv hidle hsame hfits hc hd) ?_
      rintro (h | ⟨_, _, _, h, _⟩)
      · rw [Table.refusedInTurn?_eq_of_nodup h, hc] at hd
        cases hd
      · cases h
    | some d =>
      rw [agree_iff_alike hv hidle hsame hfits hrows hc hd]
      constructor
      · intro halike
        exact Or.inr ⟨c, d, rfl, rfl, halike⟩
      · rintro (h | ⟨_, _, hc', hd', halike⟩)
        · rw [Table.refusedInTurn?_eq_of_nodup h, hc, Option.some.injEq] at hd
          rw [← hd]
          exact alike_refl c
        · rw [Option.some.injEq] at hc' hd'
          rw [hc', hd']
          exact halike

/-! ## One item changed once, and twice -/

/-- A stored item. -/
private def kept : Item := .created ⟨1⟩ "a" (.ofMicros 0)

/-- A table of one item. -/
def single : Table := .insert .empty ⟨1⟩ kept

/-- An update of the item and an insertion. -/
def apart : List Change := [.update { kept with name := "b" }, .insert ⟨2⟩ "c"]

/-- Two updates of the item, both as it is stored. -/
def twice : List Change := [.update { kept with name := "b" }, .update { kept with name := "c" }]

theorem get?_single {k : Identifier} {y : Item} (h : single.get? k = some y) : y = kept := by
  rw [single, Assoc.get?_insert] at h
  split at h
  · exact (Option.some.inj h).symm
  · cases h

/-- Changes of two items, which a ledger and a table commit alike. -/
theorem agree_apart : Agree single apart (single.commit (.ofMicros 1) apart)
    (Ledger.server.commit (.ofMicros 1) apart ⟨single, .idle⟩) := by
  have hnodup : (apart.map Change.id).Nodup := by decide
  have hidle : Ledger.server.idle ⟨single, .idle⟩ := rfl
  refine (commits_agree_iff Ledger.executes hidle rfl ?_ ?_ ?_ ?_).2 (Or.inl hnodup)
  · exact ⟨by decide, by decide⟩
  · intro k y hy
    rw [get?_single hy]
    exact ⟨by decide, by decide⟩
  · intro c hc
    simp only [apart, List.mem_cons, List.not_mem_nil, or_false] at hc
    rcases hc with rfl | rfl
    · have hname : IsName "b" := by decide
      have hversions : IsVersion 1 ∧ IsVersion 2 := by decide
      exact ⟨hname, hversions⟩
    · have hname : IsName "c" := by decide
      exact hname
  · intro x hx
    simp only [apart, List.mem_cons, List.not_mem_nil, or_false, reduceCtorEq,
      Change.update.injEq] at hx
    subst hx
    exact Or.inl ⟨kept, rfl, rfl⟩

/-- Two updates of one item: the table takes both, the ledger neither. -/
theorem not_agree_twice : ¬Agree single twice (single.commit (.ofMicros 1) twice)
    (Ledger.server.commit (.ofMicros 1) twice ⟨single, .idle⟩) := by
  have htable : (single.commit (.ofMicros 1) twice).1.isOk = true := by decide +kernel
  have hledger : (Ledger.server.commit (.ofMicros 1) twice ⟨single, .idle⟩).1 =
      .error (.conflict ⟨1⟩) := by rfl
  rintro (⟨_, _, hb, _⟩ | ⟨_, _, ha, _⟩)
  · rw [hledger] at hb
    cases hb
  · rw [ha] at htable
    cases htable

end ItemCatalog.Sql
