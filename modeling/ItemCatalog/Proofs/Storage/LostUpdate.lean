import ItemCatalog.Proofs.Storage.History
import ItemCatalog.Sql.Statement

/-!
# No update is lost

Units of work race for the items of one table. A version of an item is written over by one commit
at the most; the others that staged a change of it fail and leave no trace. A commit that succeeds
has found every item that it writes over just as its unit of work had read it.
-/

namespace ItemCatalog.Storage.History
variable {κ : Type} [DecidableEq κ] {h : History κ}

/-! ## The record and the answer -/

/-- The outcome on record is the answer that the unit of work gets. -/
theorem outcome_record (now : Instant) (fresh : Identifier) (unit : κ) :
    (h.record now unit).outcome = (h.perform now fresh unit .commit).1 := rfl

/-- The table on record is the one that the next request finds. -/
theorem after_record (now : Instant) (fresh : Identifier) (unit : κ) :
    (h.record now unit).after = (h.perform now fresh unit .commit).2.table := rfl

/-! ## One winner -/

/-- In a list where no two members can both have a property, at most one has it. -/
theorem length_filter_le_one {α : Type} {p : α → Bool} {l : List α}
    (hl : l.Pairwise fun a b => ¬(p a = true ∧ p b = true)) : (l.filter p).length ≤ 1 := by
  induction l with
  | nil => simp
  | cons a rest ih =>
    obtain ⟨ha, hrest⟩ := List.pairwise_cons.1 hl
    by_cases hp : p a = true
    · have hnone : rest.filter p = [] := by
        rw [List.filter_eq_nil_iff]
        intro b hb hpb
        exact ha b hb ⟨hp, hpb⟩
      rw [List.filter_cons_of_pos hp, hnone]
      simp
    · rw [List.filter_cons_of_neg hp]
      exact ih hrest

/-- A version of an item is written over at most once. -/
theorem Inv.length_winners (hi : h.Inv) (id : Identifier) (version : Int) :
    (h.commits.filter fun c => c.writes id version && c.outcome.isOk).length ≤ 1 := by
  apply length_filter_le_one
  refine hi.once.imp ?_
  intro c d hcd hboth
  simp only [Bool.and_eq_true] at hboth
  obtain ⟨⟨hcw, hcok⟩, hdw, hdok⟩ := hboth
  exact hcd hcok hdok id version ⟨hcw, hdw⟩

/-- In every run of units of work over an empty table: of the commits that stage an update or a
deletion of an item at one version, at most one succeeds and the others fail with a conflict for
something that they staged; a commit that succeeds finds every item that it writes over stored
just as it was read; and a commit that fails leaves the table as it was. -/
theorem no_lost_update (hr : h.Reachable) :
    (∀ id version,
      (h.commits.filter fun c => c.writes id version && c.outcome.isOk).length ≤ 1 ∧
      ∀ c ∈ h.commits, c.writes id version = true → c.outcome.isOk = false →
        ∃ d ∈ c.staged, c.outcome = .error (.conflict d.id)) ∧
    (∀ c ∈ h.commits, c.outcome.isOk = true → ∀ d ∈ c.staged, ∀ x, d.item? = some x →
      (∃ r ∈ c.read, x.IsRenaming r) ∧
      ∀ r ∈ c.read, x.IsRenaming r → c.before.get? x.id = some r) ∧
    ∀ c ∈ h.commits, c.outcome.isOk = false → c.after = c.before := by
  have hi := inv_of_reachable hr
  refine ⟨?_, ?_, ?_⟩
  · intro id version
    refine ⟨hi.length_winners id version, ?_⟩
    intro c hc _ hfail
    cases ho : c.outcome with
    | ok written => rw [ho] at hfail; cases hfail
    | error e =>
      obtain ⟨_, d, hd, he⟩ := (hi.sound c hc).failed e ho
      exact ⟨d, hd, by rw [he]⟩
  · intro c hc hok
    exact (hi.sound c hc).current hok
  · intro c hc hfail
    cases ho : c.outcome with
    | ok written => rw [ho] at hfail; cases hfail
    | error e => exact ((hi.sound c hc).failed e ho).1

/-! ## Two writers -/

/-- The item over which two units of work race. -/
private def prize : Item := .created ⟨1⟩ "a" (.ofMicros 0)

/-- A unit of work inserts an item; it and another one then read it and commit an update each. -/
def race : List (Bool × Request) :=
  [(false, .save "a"), (false, .commit), (false, .find ⟨1⟩), (true, .find ⟨1⟩),
    (false, .update { prize with name := "b" }), (true, .update { prize with name := "c" }),
    (false, .commit), (true, .commit)]

/-- The history that requests lead to, at a clock that stands still. -/
def after (requests : List (Bool × Request)) : History Bool :=
  requests.foldl (fun h r => (h.perform (.ofMicros 0) ⟨1⟩ r.1 r.2).2) {}

theorem reachable_race : (after race).Reachable := by
  refine .step _ _ _ _ (.step _ _ _ _ (.step _ _ _ _ (.step _ _ _ _ (.step _ _ _ _
    (.step _ _ _ _ (.step _ _ _ _ (.step _ _ _ _ .start ?_) ?_) ?_) ?_) ?_) ?_) ?_) ?_
  · exact List.not_mem_nil
  · trivial
  · trivial
  · trivial
  · exact ⟨prize, by decide +kernel, rfl⟩
  · exact ⟨prize, by decide +kernel, rfl⟩
  · trivial
  · trivial

/-- Both updates are of the first version; one of them is lost, and it is refused. -/
theorem race_has_one_winner :
    ((after race).commits.filter fun c => c.writes ⟨1⟩ 1).length = 2 ∧
      ((after race).commits.filter fun c => c.writes ⟨1⟩ 1 && c.outcome.isOk).length ≤ 1 :=
  ⟨by decide +kernel, ((no_lost_update reachable_race).1 ⟨1⟩ 1).1⟩

end ItemCatalog.Storage.History
