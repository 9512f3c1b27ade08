import ItemCatalog.Proofs.Sql.Server
import ItemCatalog.Sql.Pool
import ItemCatalog.Sql.Script

/-!
# Transcripts of commits

What a commit says to a server that may reply anything, and what it makes of the replies. Its
statements are written down beforehand: the transaction begins, each staged change has its
statement, the transaction ends. Main statement: the statements are sent one after another as long
as each succeeds; after the first that does not, only a rollback follows, and the commit fails for
the reason that the reply gives (`commit_keeps_script`).

## Main definitions

* `Exchange`: a statement with the reply to it.
* `transcribing`: a server beside which a transcript is kept.
* `Along`: a transcript of statements that are sent up to the first that fails.
* `script`: the statements of a commit.
-/

namespace ItemCatalog.Sql
open Storage (Change Error)

/-! ## Exchanges -/

/-- A statement that was sent, with the reply to it. -/
structure Exchange where
  statement : Statement
  reply : statement.Answer

/-- Rows of which the first holds an item. -/
def HoldsItem (rows : List Row) (item : Item) : Prop :=
  ∃ row rest, rows = row :: rest ∧ row.item = .ok item

namespace Exchange

/-- Whether a statement did what it is there for: one that writes an item returned it, a deletion
deleted something, and any other was not refused. -/
def Succeeds : Exchange → Prop
  | ⟨.insert .., reply⟩ => ∃ rows item, reply = .ok rows ∧ HoldsItem rows item
  | ⟨.update .., reply⟩ => ∃ rows item, reply = .ok rows ∧ HoldsItem rows item
  | ⟨.delete .., reply⟩ => ∃ n : Nat, reply = .ok (n + 1)
  | ⟨_, reply⟩ => ∃ payload, reply = .ok payload

/-- The item that a statement wrote and returned. -/
def stored? : Exchange → Option Item
  | ⟨.insert .., .ok (row :: _)⟩ => row.item.toOption
  | ⟨.update .., .ok (row :: _)⟩ => row.item.toOption
  | _ => none

theorem stored?_insert {id : Identifier} {name : String} {now : Instant} {rows : List Row}
    {item : Item} (h : HoldsItem rows item) :
    stored? ⟨.insert id name now, .ok rows⟩ = some item := by
  obtain ⟨row, rest, rfl, hrow⟩ := h
  change row.item.toOption = some item
  rw [hrow]
  rfl

theorem stored?_update {id : Identifier} {name : String} {modified : Instant} {version : Int}
    {rows : List Row} {item : Item} (h : HoldsItem rows item) :
    stored? ⟨.update id name modified version, .ok rows⟩ = some item := by
  obtain ⟨row, rest, rfl, hrow⟩ := h
  change row.item.toOption = some item
  rw [hrow]
  rfl

/-- Whether an exchange is an update or a deletion, of the item with an identifier, that no row
matched. -/
def Unmatched : Exchange → Identifier → Prop
  | ⟨.update id .., reply⟩, k => reply = .ok [] ∧ k = id
  | ⟨.delete id _, reply⟩, k => reply = .ok (0 : Nat) ∧ k = id
  | _, _ => False

/-- Whether a failure is what an exchange means that did not succeed: a conflict where no row
matched, and a failure of the database in all other cases. -/
def Explains (x : Exchange) (e : Error) : Prop :=
  (∃ id, x.Unmatched id ∧ e = .conflict id) ∨
    (∀ id, ¬x.Unmatched id) ∧ ∃ message, e = .database message

end Exchange

/-- The statements of a transcript. -/
abbrev statements (xs : List Exchange) : List Statement := xs.map Exchange.statement

section
variable {σ : Type}

/-- A server beside which a transcript is kept. -/
def transcribing (respond : Program.Responder signature σ) :
    Program.Responder signature (σ × List Exchange) :=
  fun q s => ((respond q s.1).1, (respond q s.1).2, s.2 ++ [⟨q, (respond q s.1).1⟩])

end

/-- A transcript of statements that are sent one after another, up to the first that does not
succeed, with the failure that it means. -/
inductive Along : List Statement → List Exchange → Option Error → Prop
  | done : Along [] [] none
  | fails {x : Exchange} {e : Error} {rest : List Statement} (hx : ¬x.Succeeds)
      (he : x.Explains e) : Along (x.statement :: rest) [x] (some e)
  | goesOn {x : Exchange} {rest : List Statement} {xs : List Exchange} {e : Option Error}
      (hx : x.Succeeds) (h : Along rest xs e) : Along (x.statement :: rest) (x :: xs) e

namespace Along
variable {p q : List Statement} {xs ys : List Exchange} {e : Option Error}

/-- What is sent after statements that have all succeeded. -/
theorem append (h : Along p xs none) (h' : Along q ys e) : Along (p ++ q) (xs ++ ys) e := by
  generalize hn : (none : Option Error) = o at h
  induction h with
  | done => exact h'
  | fails _ _ => cases hn
  | goesOn hx _ ih => exact .goesOn hx (ih hn)

/-- Nothing is sent after a statement that has failed. -/
theorem append_right {e : Error} (h : Along p xs (some e)) (q : List Statement) :
    Along (p ++ q) xs (some e) := by
  generalize hs : some e = o at h
  induction h with
  | done => cases hs
  | fails hx he => exact .fails hx he
  | goesOn hx _ ih => exact .goesOn hx (ih hs)

/-- Without a failure everything was sent, and has succeeded. -/
theorem of_none (h : Along p xs none) : statements xs = p ∧ ∀ x ∈ xs, x.Succeeds := by
  generalize hn : (none : Option Error) = o at h
  induction h with
  | done => exact ⟨rfl, nofun⟩
  | fails _ _ => cases hn
  | goesOn hx _ ih =>
    obtain ⟨hrest, hall⟩ := ih hn
    exact ⟨congrArg (_ :: ·) hrest, List.forall_mem_cons.2 ⟨hx, hall⟩⟩

/-- With a failure everything was sent up to a statement that failed, and all before it has
succeeded. -/
theorem of_some {e : Error} (h : Along p xs (some e)) :
    ∃ good bad, xs = good ++ [bad] ∧ statements xs <+: p ∧ (∀ x ∈ good, x.Succeeds) ∧
      ¬bad.Succeeds ∧ bad.Explains e := by
  generalize hs : some e = o at h
  induction h with
  | done => cases hs
  | @fails x e rest hx he =>
    cases hs
    exact ⟨[], x, rfl, ⟨rest, rfl⟩, nofun, hx, he⟩
  | @goesOn x rest xs o hx _ ih =>
    obtain ⟨good, bad, rfl, hearlier, hgood, hbad, hexplains⟩ := ih hs
    refine ⟨x :: good, bad, rfl, ?_, List.forall_mem_cons.2 ⟨hx, hgood⟩, hbad, hexplains⟩
    exact (List.prefix_cons_inj x.statement).2 hearlier

end Along

/-! ## One statement -/

section Steps
variable {σ : Type} {respond : Program.Responder signature σ} {s : σ} {log : List Exchange}
  {now : Instant}

theorem firstItem?_cases (reply : Except String (List Row)) :
    (∃ rows item, reply = .ok rows ∧ HoldsItem rows item ∧ firstItem? reply = .ok (some item)) ∨
      (reply = .ok [] ∧ firstItem? reply = .ok none) ∨
      (∀ rows item, reply = .ok rows → ¬HoldsItem rows item) ∧ reply ≠ .ok [] ∧
        ∃ message, firstItem? reply = .error (.database message) := by
  match reply with
  | .error message => exact .inr (.inr ⟨nofun, nofun, _, rfl⟩)
  | .ok [] => exact .inr (.inl ⟨rfl, rfl⟩)
  | .ok (row :: rest) =>
    cases hrow : row.item with
    | ok item =>
      refine .inl ⟨_, item, rfl, ⟨row, rest, rfl, hrow⟩, ?_⟩
      rw [firstItem?, decode, hrow]
      rfl
    | error column =>
      refine .inr (.inr ⟨?_, nofun, ?_⟩)
      · rintro _ item ⟨⟩ ⟨_, _, ⟨⟩, hitem⟩
        rw [hrow] at hitem
        cases hitem
      · rw [firstItem?, decode, hrow]
        exact ⟨_, rfl⟩

theorem firstItem_of_firstItem? {reply : Except String (List Row)} {item : Item}
    (h : firstItem? reply = .ok (some item)) : firstItem reply = .ok item := by
  rw [firstItem, h]

theorem firstItem_of_none {reply : Except String (List Row)} (h : firstItem? reply = .ok none) :
    firstItem reply = .error noRow := by
  rw [firstItem, h]

theorem firstItem_of_error {reply : Except String (List Row)} {e : Error}
    (h : firstItem? reply = .error e) : firstItem reply = .error e := by
  rw [firstItem, h]

/-- What a commit makes of the reply to the statement of a change: the item that was stored, if the
statement succeeded, and else a failure that explains why it did not. -/
theorem outcomeOf_cases (now : Instant) (c : Change) (reply : (statementOf now c).Answer) :
    let x : Exchange := ⟨statementOf now c, reply⟩
    (outcomeOf now c reply = .ok x.stored? ∧ x.Succeeds) ∨
      ∃ e, outcomeOf now c reply = .error e ∧ ¬x.Succeeds ∧ x.Explains e := by
  cases c with
  | insert id name =>
    rcases firstItem?_cases reply with
      ⟨rows, item, rfl, hitem, hfirst⟩ | ⟨rfl, hfirst⟩ | ⟨hnot, hne, message, hfirst⟩
    · refine .inl ⟨?_, rows, item, rfl, hitem⟩
      simp only [outcomeOf, firstItem_of_firstItem? hfirst]
      exact congrArg Except.ok (Exchange.stored?_insert hitem).symm
    · refine .inr ⟨noRow, ?_, ?_, .inr ⟨fun _ h => h, _, rfl⟩⟩
      · simp only [outcomeOf, firstItem_of_none hfirst]
        rfl
      · rintro ⟨_, _, ⟨⟩, _, _, ⟨⟩, _⟩
    · refine .inr ⟨.database message, ?_, ?_, .inr ⟨fun _ h => h, _, rfl⟩⟩
      · simp only [outcomeOf, firstItem_of_error hfirst]
        rfl
      · rintro ⟨rows, item, hreply, hitem⟩
        exact hnot rows item hreply hitem
  | update item =>
    rcases firstItem?_cases reply with
      ⟨rows, stored, rfl, hitem, hfirst⟩ | ⟨rfl, hfirst⟩ | ⟨hnot, hne, message, hfirst⟩
    · refine .inl ⟨?_, rows, stored, rfl, hitem⟩
      simp only [outcomeOf, updated, hfirst]
      exact congrArg Except.ok (Exchange.stored?_update hitem).symm
    · refine .inr ⟨.conflict item.id, ?_, ?_, .inl ⟨item.id, ⟨rfl, rfl⟩, rfl⟩⟩
      · simp only [outcomeOf, updated, hfirst]
      · rintro ⟨_, _, ⟨⟩, _, _, ⟨⟩, _⟩
    · refine .inr ⟨.database message, ?_, ?_, .inr ⟨fun _ h => hne h.1, _, rfl⟩⟩
      · simp only [outcomeOf, updated, hfirst]
      · rintro ⟨rows, stored, hreply, hitem⟩
        exact hnot rows stored hreply hitem
  | delete item =>
    match reply with
    | .error message =>
      refine .inr ⟨serverError message, rfl, ?_, .inr ⟨?_, _, rfl⟩⟩
      · rintro ⟨n, ⟨⟩⟩
      · rintro id ⟨⟨⟩, _⟩
    | .ok n =>
      cases n with
      | zero =>
        refine .inr ⟨.conflict item.id, rfl, ?_, .inl ⟨item.id, ⟨rfl, rfl⟩, rfl⟩⟩
        rintro ⟨n, ⟨⟩⟩
      | succ n => exact .inl ⟨rfl, n, rfl⟩

/-- What is sent for a change, and what comes of it. -/
theorem run_write_cases (respond : Program.Responder signature σ) (now : Instant) (c : Change)
    (s : σ × List Exchange) :
    ∃ s' x, x.statement = statementOf now c ∧
      (((write now c).run (transcribing respond) s = (.ok x.stored?, s', s.2 ++ [x]) ∧
          x.Succeeds) ∨
        ∃ e, (write now c).run (transcribing respond) s = (.error e, s', s.2 ++ [x]) ∧
          ¬x.Succeeds ∧ x.Explains e) := by
  let reply := (respond (statementOf now c) s.1).1
  have hrun : (write now c).run (transcribing respond) s =
      (outcomeOf now c reply, (respond (statementOf now c) s.1).2,
        s.2 ++ [⟨statementOf now c, reply⟩]) := rfl
  refine ⟨(respond (statementOf now c) s.1).2, ⟨statementOf now c, reply⟩, rfl, ?_⟩
  rw [hrun]
  rcases outcomeOf_cases now c reply with ⟨hok, hx⟩ | ⟨e, herror, hx, he⟩
  · exact .inl ⟨by rw [hok], hx⟩
  · exact .inr ⟨e, by rw [herror], hx, he⟩

/-! ## Statements in turn -/

/-- What comes of a transcript: a failure, or the items that were stored. -/
def result (xs : List Exchange) : Option Error → Except Error (List Item)
  | none => .ok (xs.filterMap Exchange.stored?)
  | some e => .error e

/-- The statements of changes are sent in turn, up to the first that fails. -/
theorem run_writeAll_along (respond : Program.Responder signature σ) (now : Instant)
    (staged : List Change) (s : σ × List Exchange) :
    ∃ s' xs e, (writeAll now staged).run (transcribing respond) s = (result xs e, s', s.2 ++ xs) ∧
      Along (staged.map (statementOf now)) xs e := by
  induction staged generalizing s with
  | nil => exact ⟨s.1, [], none, by rw [List.append_nil]; rfl, .done⟩
  | cons c rest ih =>
    obtain ⟨s', x, hx, ⟨hrun, hsucceeds⟩ | ⟨e, hrun, hfails, hexplains⟩⟩ :=
      run_write_cases respond now c s
    · obtain ⟨s'', xs, e, hrest, halong⟩ := ih (s', s.2 ++ [x])
      refine ⟨s'', x :: xs, e, ?_, ?_⟩
      · rw [run_writeAll_cons, hrun]
        simp only [hrest, List.append_assoc, List.singleton_append]
        cases e with
        | none =>
          simp only [result, List.filterMap_cons]
          cases x.stored? <;> rfl
        | some e => rfl
      · rw [List.map_cons, ← hx]
        exact .goesOn hsucceeds halong
    · refine ⟨s', [x], some e, ?_, ?_⟩
      · rw [run_writeAll_cons, hrun]
        rfl
      · rw [List.map_cons, ← hx]
        exact .fails hfails hexplains

/-! ## Transactions -/

section Transactions
variable {α : Type} {body : Dialogue (Except Error α)} {message : String}

/-- A transaction that does not begin fails. -/
theorem run_transaction_of_not_begun (h : (respond .begin s).1 = .error message) :
    (transaction body).run respond s =
      (.error (serverError message), (respond .begin s).2) := by
  have hbegin : (send .begin).run respond s = (.error message, (respond .begin s).2) :=
    Prod.ext h rfl
  rw [transaction, Program.run_bind, hbegin]
  rfl

/-- A transaction whose end fails is left. -/
theorem run_conclude_of_error {a : α} (h : (respond .commit s).1 = .error message) :
    (conclude a).run respond s =
      (.error (serverError message), (respond .rollback (respond .commit s).2).2) := by
  have hcommit : (send .commit).run respond s = (.error message, (respond .commit s).2) :=
    Prod.ext h rfl
  rw [conclude, Program.run_bind, hcommit]
  rfl

end Transactions

/-- The statements of a commit. -/
def script (now : Instant) (staged : List Change) : List Statement :=
  .begin :: staged.map (statementOf now) ++ [.commit]

/-- What a commit of something sends: its script, if all of that succeeds, and else its script up to
the first statement that fails, and a rollback if the transaction had begun. -/
inductive Sent (now : Instant) (staged : List Change) :
    List Exchange → Except Error (List Item) → Prop
  | concluded {xs : List Exchange} (h : Along (script now staged) xs none) :
      Sent now staged xs (.ok (xs.filterMap Exchange.stored?))
  | broken {xs undo : List Exchange} {e : Error} (h : Along (script now staged) xs (some e))
      (hundo : statements undo = if xs.length = 1 then [] else [.rollback]) :
      Sent now staged (xs ++ undo) (.error e)

section Sending
variable {staged : List Change}

/-- A commit that cannot begin sends nothing else. -/
theorem sent_of_not_begun {message : String} (h : (respond .begin s).1 = .error message) :
    ∃ s' xs r, (transaction (writeAll now staged)).run (transcribing respond) (s, []) =
        (r, s', xs) ∧ Sent now staged xs r := by
  let opening : Exchange := ⟨.begin, (respond .begin s).1⟩
  have hrun : (transaction (writeAll now staged)).run (transcribing respond) (s, []) =
      (.error (serverError message), (respond .begin s).2, [opening] ++ []) :=
    run_transaction_of_not_begun h
  have hfails : ¬opening.Succeeds := by
    rintro ⟨payload, hpayload⟩
    cases h.symm.trans hpayload
  have halong : Along (script now staged) [opening] (some (serverError message)) :=
    .fails hfails (.inr ⟨fun _ hid => hid, _, rfl⟩)
  exact ⟨_, _, _, hrun, .broken halong rfl⟩

/-- A commit that has begun sends the statements of its changes, and then ends or undoes what it has
done. -/
theorem sent_of_begun (h : (respond .begin s).1 = .ok ()) :
    ∃ s' xs r, (transaction (writeAll now staged)).run (transcribing respond) (s, []) =
        (r, s', xs) ∧ Sent now staged xs r := by
  let opening : Exchange := ⟨.begin, (respond .begin s).1⟩
  obtain ⟨s', xs, e, hwritten, hchanges⟩ :=
    run_writeAll_along respond now staged ((respond .begin s).2, [opening])
  have hopen : opening.Succeeds := ⟨(), h⟩
  have hbegun :
      transcribing respond .begin (s, []) = (.ok (), (respond .begin s).2, [opening]) := by
    rw [← h]
    rfl
  have hrun : (transaction (writeAll now staged)).run (transcribing respond) (s, []) = _ :=
    run_transaction _ h
  rw [hbegun, hwritten] at hrun
  have halong : Along (.begin :: staged.map (statementOf now)) (opening :: xs) e :=
    .goesOn hopen hchanges
  cases e with
  | some e =>
    let undo : Exchange := ⟨.rollback, (respond .rollback s').1⟩
    refine ⟨_, (opening :: xs) ++ [undo], _, hrun, .broken (halong.append_right [.commit]) ?_⟩
    obtain ⟨good, bad, hxs, _⟩ := hchanges.of_some
    rw [if_neg (by simp [hxs])]
    rfl
  | none =>
    let ending : Exchange := ⟨.commit, (respond .commit s').1⟩
    cases hcommit : (respond .commit s').1 with
    | error message =>
      let undo : Exchange := ⟨.rollback, (respond .rollback (respond .commit s').2).1⟩
      have hfails : ¬ending.Succeeds := by
        rintro ⟨payload, hpayload⟩
        cases hcommit.symm.trans hpayload
      have hending : Along [.commit] [ending] (some (serverError message)) :=
        .fails hfails (.inr ⟨fun _ hid => hid, _, rfl⟩)
      have hleft : (transaction (writeAll now staged)).run (transcribing respond) (s, []) =
          (.error (serverError message), (respond .rollback (respond .commit s').2).2,
            opening :: xs ++ [ending] ++ [undo]) :=
        hrun.trans (run_conclude_of_error hcommit)
      refine ⟨_, _, _, hleft, .broken (halong.append hending) ?_⟩
      rw [if_neg (by simp)]
      rfl
    | ok payload =>
      have hsucceeds : ending.Succeeds := ⟨payload, hcommit⟩
      have hending : Along [.commit] [ending] none := .goesOn hsucceeds .done
      have hended : (transaction (writeAll now staged)).run (transcribing respond) (s, []) =
          (.ok (xs.filterMap Exchange.stored?), (respond .commit s').2,
            opening :: xs ++ [ending]) :=
        hrun.trans (run_conclude _ hcommit)
      have hitems : (opening :: xs ++ [ending]).filterMap Exchange.stored? =
          xs.filterMap Exchange.stored? := by
        rw [List.filterMap_append, List.filterMap_cons_none rfl, List.filterMap_cons_none rfl,
          List.filterMap_nil, List.append_nil]
      refine ⟨_, _, _, hended, ?_⟩
      rw [← hitems]
      exact .concluded (halong.append hending)

end Sending

theorem sent_of_run_commit (respond : Program.Responder signature σ) (now : Instant)
    {staged : List Change} (hne : staged ≠ []) (s : σ) :
    ∃ s' xs r, (commit now staged).run (transcribing respond) (s, []) = (r, s', xs) ∧
      Sent now staged xs r := by
  rw [commit_of_ne_nil hne]
  cases hbegin : (respond .begin s).1 with
  | error message => exact sent_of_not_begun hbegin
  | ok payload => exact sent_of_begun hbegin

end Steps

/-! ## Commits -/

section Commits
variable {now : Instant} {staged : List Change}

/-- The end of the transaction is the last statement of the script only. -/
theorem commit_mem_iff {p : List Statement} (h : p <+: script now staged) :
    .commit ∈ p ↔ p = script now staged := by
  obtain ⟨q, hq⟩ := h
  rcases List.eq_nil_or_concat q with rfl | ⟨q, x, rfl⟩
  · rw [List.append_nil] at hq
    refine iff_of_true ?_ hq
    rw [hq]
    exact List.mem_append_right _ List.mem_cons_self
  · rw [List.concat_eq_append, ← List.append_assoc] at hq
    have hp : .commit ∉ p ++ q := by
      rw [(List.append_inj' hq rfl).1]
      intro hmem
      rcases List.mem_cons.1 hmem with hmem | hmem
      · cases hmem
      · obtain ⟨c, _, hc⟩ := List.mem_map.1 hmem
        cases c <;> cases hc
    have hne : p ≠ script now staged := by
      rintro rfl
      have hlength := congrArg List.length hq
      simp only [List.length_append, List.length_singleton] at hlength
      omega
    exact iff_of_false (fun hmem => hp (List.mem_append_left q hmem)) hne

/-- Whether a transaction has begun and every change was carried out. -/
def AllDone (now : Instant) (staged : List Change) (xs : List Exchange) : Prop :=
  ∃ ys, ys <+: xs ∧ statements ys = .begin :: staged.map (statementOf now) ∧ ∀ y ∈ ys, y.Succeeds

variable {xs good undo : List Exchange} {bad : Exchange} {e : Error}

/-- The end of a transaction is sent just if every change was carried out: where all succeeds. -/
theorem commit_mem_iff_of_succeeds (h : statements xs = script now staged)
    (hall : ∀ x ∈ xs, x.Succeeds) : .commit ∈ statements xs ↔ AllDone now staged xs := by
  refine iff_of_true ((commit_mem_iff (h ▸ List.prefix_rfl)).2 h) ?_
  obtain ⟨ys, zs, rfl, hys, _⟩ := List.map_eq_append_iff.1 h
  exact ⟨ys, List.prefix_append ys zs, hys, fun y hy => hall y (List.mem_append_left zs hy)⟩

/-- The end of a transaction is sent just if every change was carried out: where a statement
fails. -/
theorem commit_mem_iff_of_fails (hearlier : statements (good ++ [bad]) <+: script now staged)
    (hgood : ∀ x ∈ good, x.Succeeds) (hbad : ¬bad.Succeeds)
    (hundo : .commit ∉ statements undo) :
    .commit ∈ statements (good ++ [bad] ++ undo) ↔ AllDone now staged (good ++ [bad] ++ undo) := by
  have hmem : .commit ∈ statements (good ++ [bad] ++ undo) ↔
      statements (good ++ [bad]) = script now staged := by
    rw [← commit_mem_iff hearlier, statements, List.map_append, List.mem_append]
    exact or_iff_left hundo
  rw [hmem]
  constructor
  · intro hscript
    rw [statements, List.map_append] at hscript
    refine ⟨good, ?_, (List.append_inj' hscript rfl).1, hgood⟩
    rw [List.append_assoc]
    exact List.prefix_append good _
  · rintro ⟨ys, hys, hstatements, hall⟩
    have hyg : ys <+: good := by
      rcases List.prefix_or_prefix_of_prefix hys (List.prefix_append (good ++ [bad]) undo) with
        h | h
      · rcases List.prefix_concat_iff.1 h with rfl | h
        · exact absurd (hall bad (List.mem_append_right good List.mem_cons_self)) hbad
        · exact h
      · exact absurd (hall bad (h.subset (List.mem_append_right good List.mem_cons_self))) hbad
    refine hearlier.eq_of_length (Nat.le_antisymm hearlier.length_le ?_)
    have hlength : ys.length = staged.length + 1 := by
      simpa using congrArg List.length hstatements
    have hle := hyg.length_le
    simp only [script, statements, List.length_append, List.length_cons, List.length_map,
      List.length_nil]
    omega

end Commits

/-- A commit of nothing sends nothing. Any other sends the statements of its script one after
another, as long as each succeeds, with exactly the values of its changes; nothing follows one that
does not succeed, except for a rollback if the transaction had begun. The end of the transaction is
sent just if every change was carried out. The commit succeeds just if everything did, and returns
what the statements stored, in order; an update or a deletion that no row matched is a conflict, and
any other failure one of the database. In every case nothing is left staged, so that another commit
sends nothing. -/
theorem commit_keeps_script {σ : Type} (respond : Program.Responder signature σ) (s : σ)
    (now later : Instant) (fresh : Identifier) (staged : List Change) :
    let store := Pool.backend (transcribing respond)
    let pool : Pool (σ × List Exchange) := { database := { server := (s, []) } }
    let done := store.respond now fresh .commit staged pool
    let answer : Except Error (List Item) := done.1
    let sent := done.2.2.database.server.2
    (staged = [] → sent = [] ∧ answer = .ok []) ∧
    (staged ≠ [] →
      ((∃ items, answer = .ok items) ↔ ∀ x ∈ sent, x.Succeeds) ∧
      (∀ items, answer = .ok items →
        statements sent = script now staged ∧ items = sent.filterMap Exchange.stored?) ∧
      (∀ e, answer = .error e → ∃ good bad undo, sent = good ++ [bad] ++ undo ∧
        statements (good ++ [bad]) <+: script now staged ∧
        (∀ x ∈ good, x.Succeeds) ∧ ¬bad.Succeeds ∧ bad.Explains e ∧
        statements undo = if good = [] then [] else [.rollback]) ∧
      (.commit ∈ statements sent ↔ AllDone now staged sent)) ∧
    (∀ id name, statementOf now (.insert id name) = .insert id name now) ∧
    (∀ x, statementOf now (.update x) = .update x.id x.name (now.latest x.createdAt) x.version) ∧
    (∀ x, statementOf now (.delete x) = .delete x.id x.version) ∧
    done.2.1 = [] ∧
      store.respond later fresh .commit done.2.1 done.2.2 = (.ok [], [], done.2.2) := by
  intro store pool done answer sent
  refine ⟨?empty, fun hne => ?filled, fun _ _ => rfl, fun _ => rfl, fun _ => rfl, rfl, rfl⟩
  case empty =>
    rintro rfl
    exact ⟨rfl, rfl⟩
  case filled =>
    obtain ⟨s', xs, r, hrun, hsent⟩ := sent_of_run_commit respond now hne s
    have hstore : store.commit now staged pool =
        pool.talk (transcribing respond) (commit now staged) := if_neg (by simpa using hne)
    have hanswer : answer = r := by
      change (store.commit now staged pool).1 = r
      rw [hstore]
      exact congrArg Prod.fst hrun
    have hxs : sent = xs := by
      change (store.commit now staged pool).2.database.server.2 = xs
      rw [hstore]
      exact congrArg (fun a => a.2.2) hrun
    rw [hanswer, hxs]
    cases hsent with
    | concluded h =>
      obtain ⟨hscript, hall⟩ := h.of_none
      refine ⟨iff_of_true ⟨_, rfl⟩ hall, ?_, nofun, commit_mem_iff_of_succeeds hscript hall⟩
      rintro _ ⟨⟩
      exact ⟨hscript, rfl⟩
    | @broken xs undo e h hundo =>
      obtain ⟨good, bad, rfl, hearlier, hgood, hbad, hexplains⟩ := h.of_some
      have hbroken : ¬∀ x ∈ good ++ [bad] ++ undo, x.Succeeds :=
        fun hall => hbad (hall bad (by simp))
      have hlength : (good ++ [bad]).length = 1 ↔ good = [] := by simp
      simp only [hlength] at hundo
      have hkept : .commit ∉ statements undo := by
        rw [hundo]
        split <;> simp
      refine ⟨iff_of_false nofun hbroken, nofun, ?_,
        commit_mem_iff_of_fails hearlier hgood hbad hkept⟩
      rintro _ ⟨⟩
      exact ⟨good, bad, undo, rfl, hearlier, hgood, hbad, hexplains, hundo⟩

/-- A lamp is stored, then an item is to be deleted that no row matches any more: the third change
is never sent, and the lamp is not kept. -/
theorem unmatched_deletion_undone :
    let now : Instant := ⟨5, 0⟩
    let lamp := Item.created ⟨7⟩ "Lamp" now
    let chair : Item := ⟨⟨8⟩, "Chair", ⟨1, 0⟩, none, 3⟩
    let staged : List Change := [.insert lamp.id lamp.name, .delete chair, .update lamp]
    let server : Script := { replies := [.rows [.ofItem lamp], .affected 0, .rows [.ofItem lamp]] }
    let done := (Pool.backend (transcribing Script.respond)).respond now .nil .commit staged
      { database := { server := (server, []) } }
    let sent := done.2.2.database.server.2
    staged ≠ [] ∧ done.1 = .error (.conflict chair.id) ∧
      statements sent = [.begin, .insert ⟨7⟩ "Lamp" now, .delete ⟨8⟩ 3, .rollback] ∧
      ¬AllDone now staged sent ∧
        ∃ bad ∈ sent, ¬bad.Succeeds ∧ bad.Explains (.conflict chair.id) := by
  intro now lamp chair staged server done sent
  have hne : staged ≠ [] := nofun
  have hanswer : done.1 = .error (.conflict chair.id) := rfl
  have hsent : statements sent = [.begin, .insert ⟨7⟩ "Lamp" now, .delete ⟨8⟩ 3, .rollback] := rfl
  obtain ⟨-, -, hbroken, hcommit⟩ :=
    (commit_keeps_script Script.respond server now now .nil staged).2.1 hne
  refine ⟨hne, hanswer, hsent, ?_, ?_⟩
  · refine mt hcommit.2 ?_
    change .commit ∉ statements sent
    rw [hsent]
    decide
  · obtain ⟨good, bad, undo, hbad, -, -, hfails, hexplains, -⟩ := hbroken _ hanswer
    refine ⟨bad, ?_, hfails, hexplains⟩
    rw [show sent = _ from hbad]
    simp

end ItemCatalog.Sql
