import ItemCatalog.Proofs.Service.Circumstances
import Mathlib.Logic.Function.Basic

/-!
# Programs that keep to a protocol

While a call is served, a book may be kept of what it asks, what it is answered and what it records.
A protocol says how the book is carried on, and by its state which questions a call may ask and
which answers storage may give it. `Serving.KeepsTo P Post s p` says that `p`, begun in state `s`,
asks only what it may ask, and ends in a state and with a value that satisfy `Post`, as long as
storage answers only as it may. Main statements: one program after another keeps to a protocol if
each of them does (`KeepsTo.bind`), remarks may be made at any time (`KeepsTo.annotated`), and a
program ends as the protocol says when it is served (`KeepsTo.run`).
-/

namespace ItemCatalog
open Storage (Request)

/-- What may be asked and answered while a book is kept of a call, by the state of the book. -/
structure Protocol (σ : Type) where
  /-- Whether a question may be asked. -/
  asks : σ → Effect → Prop
  /-- Whether storage may give an answer. -/
  answers : σ → (r : Request) → r.Answer → Prop := fun _ _ _ => True
  /-- The book once a request has been answered. -/
  serve : σ → (r : Request) → r.Answer → σ := fun s _ _ => s
  /-- The book once an event has been recorded. -/
  record : σ → Metrics.Event → σ := fun s _ => s

namespace Protocol
variable {σ : Type} (P : Protocol σ)

/-- Whether a question may be answered in a certain way. Only storage is bound. -/
def admits (s : σ) : (e : Effect) → e.Answer → Prop
  | .storage r, x => P.answers s r x
  | _, _ => True

/-- The book once a question has been answered. -/
def next (s : σ) : (e : Effect) → e.Answer → σ
  | .storage r, x => P.serve s r x
  | .record event, _ => P.record s event
  | _, _ => s

/-- Nothing is written about remarks. -/
theorem next_of_isRemark {e : Effect} (he : e.isRemark = true) (s : σ) (x : e.Answer) :
    P.next s e x = s := by
  cases e with
  | log entry => rfl
  | note mark => rfl
  | _ => cases he

/-- Whether at any time one may measure and record how long storage took, and make remarks, and
nothing is written about that. -/
structure Times (P : Protocol σ) : Prop where
  elapsed : ∀ s, P.asks s .elapsed
  database : ∀ s op d, P.asks s (.record (.database op d)) ∧ P.record s (.database op d) = s
  remark : ∀ s e, e.isRemark = true → P.asks s e

/-- Anything may be asked and answered, and nothing is written. -/
def free : Protocol Unit where
  asks _ _ := True

end Protocol

namespace Serving
variable {σ τ α β : Type} {P : Protocol σ} {Q : Protocol τ} {Post Post' : σ → α → Prop} {s : σ}
  {p q : Serving α}

/-- Whether a program that begins in a certain state keeps to a protocol, and ends in a state and
with a value that satisfy `Post`. -/
inductive KeepsTo (P : Protocol σ) (Post : σ → α → Prop) : σ → Serving α → Prop
  | done {s : σ} {a : α} : Post s a → KeepsTo P Post s (.done a)
  | ask {s : σ} {e : Effect} {k : e.Answer → Serving α} :
      P.asks s e → (∀ x, P.admits s e x → KeepsTo P Post (P.next s e x) (k x)) →
        KeepsTo P Post s (.ask e k)

/-! ## Beginning and end -/

theorem KeepsTo.post {a : α} (h : KeepsTo P Post s (.done a)) : Post s a := by
  cases h with
  | done h => exact h

theorem KeepsTo.asks {e : Effect} {k : e.Answer → Serving α} (h : KeepsTo P Post s (.ask e k)) :
    P.asks s e := by
  cases h with
  | ask he _ => exact he

/-- After an answer that may be given, a program keeps to its protocol as before. -/
theorem KeepsTo.resume {e : Effect} {k : e.Answer → Serving α} (h : KeepsTo P Post s (.ask e k))
    {x : e.Answer} (hx : P.admits s e x) : KeepsTo P Post (P.next s e x) (k x) := by
  cases h with
  | ask _ hk => exact hk x hx

/-! ## Ways to make programs -/

theorem KeepsTo.mono (h : KeepsTo P Post s p) (hpost : ∀ s a, Post s a → Post' s a) :
    KeepsTo P Post' s p := by
  induction h with
  | done h => exact .done (hpost _ _ h)
  | ask he _ ih => exact .ask he ih

/-- One program and then another keep to a protocol if the first does, and the second one does where
the first one ends. -/
theorem KeepsTo.bind {f : α → Serving β} {Post : σ → β → Prop}
    (h : KeepsTo P (fun s a => KeepsTo P Post s (f a)) s p) : KeepsTo P Post s (p >>= f) := by
  induction h with
  | done h => exact h
  | ask he _ ih => exact .ask he ih

/-- A program that asks what another protocol allows keeps to this one too, if that allows less and
the two books are kept in step. -/
theorem KeepsTo.simulate {R : τ → σ → Prop} {Post : τ → α → Prop} {b : τ}
    (h : KeepsTo Q Post b p) (hs : R b s)
    (hasks : ∀ b s e, R b s → Q.asks b e →
      P.asks s e ∧ ∀ x, P.admits s e x → Q.admits b e x ∧ R (Q.next b e x) (P.next s e x)) :
    KeepsTo P (fun s a => ∃ b, R b s ∧ Post b a) s p := by
  induction h generalizing s with
  | @done b a h => exact .done ⟨b, hs, h⟩
  | @ask b e k he _ ih =>
    obtain ⟨hs', hx⟩ := hasks b s e hs he
    exact .ask hs' fun x hadmit => ih x (hx x hadmit).1 (hx x hadmit).2

/-- Remarks may be made wherever they may be made anywhere. -/
theorem KeepsTo.annotated (h : KeepsTo P Post s q) (ht : P.Times) (hp : p.Annotates q) :
    KeepsTo P Post s p := by
  induction hp generalizing s with
  | done a => exact h
  | ask e _ ih => exact .ask h.asks fun x hx => ih x (h.resume hx)
  | @remark e he k q _ ih =>
    refine .ask (ht.remark s e he) fun x _ => ?_
    rw [P.next_of_isRemark he]
    exact ih x h

/-- Every program keeps to the protocol that allows everything. -/
theorem keepsTo_free (p : Serving α) : KeepsTo .free (fun _ _ => True) () p := by
  induction p with
  | done a => exact .done trivial
  | ask e k ih => exact .ask trivial fun x _ => ih x

/-! ## Single questions -/

section Questions
variable {f : Unit → Serving α}

/-- A request that is timed is answered as if it were not. -/
theorem keepsTo_timed_bind (ht : P.Times) {op : Operation} {r : Request} {f : r.Answer → Serving α}
    (hasks : P.asks s (.storage r))
    (h : ∀ x, P.answers s r x → KeepsTo P Post (P.serve s r x) (f x)) :
    KeepsTo P Post s (Serving.timed op r >>= f) := by
  refine .ask hasks fun x hx => .ask (ht.elapsed _) fun d _ => ?_
  obtain ⟨hrecord, hkept⟩ := ht.database (P.serve s r x) op d
  refine .ask hrecord fun _ _ => ?_
  change KeepsTo P Post (P.record (P.serve s r x) (.database op d)) (f x)
  rw [hkept]
  exact h x hx

theorem keepsTo_elapsed_bind {f : Nat → Serving α} (hasks : P.asks s .elapsed)
    (h : ∀ d, KeepsTo P Post s (f d)) : KeepsTo P Post s (Serving.elapsed >>= f) :=
  .ask hasks fun d _ => h d

theorem keepsTo_record_bind {event : Metrics.Event} (hasks : P.asks s (.record event))
    (h : KeepsTo P Post (P.record s event) (f ())) :
    KeepsTo P Post s (Serving.record event >>= f) :=
  .ask hasks fun _ _ => h

theorem keepsTo_log_bind {entry : Log.Entry} (hasks : P.asks s (.log entry))
    (h : KeepsTo P Post s (f ())) : KeepsTo P Post s (Serving.log entry >>= f) :=
  .ask hasks fun _ _ => h

end Questions

/-! ## Many programs -/

/-- If one of many programs goes on, and still keeps to the protocol, all of them do. -/
theorem KeepsTo.update {ι : Type} [DecidableEq ι] {Post : ι → σ → α → Prop} {books : ι → σ}
    {rest : ι → Serving α} (h : ∀ j, KeepsTo P (Post j) (books j) (rest j)) {i : ι}
    (hp : KeepsTo P (Post i) s p) (j : ι) :
    KeepsTo P (Post j) (Function.update books i s j) (Function.update rest i p j) := by
  by_cases hj : j = i
  · subst hj
    rwa [Function.update_self, Function.update_self]
  · rw [Function.update_of_ne hj, Function.update_of_ne hj]
    exact h j

/-! ## Runs -/

section Runs
open Service

/-- A call ends as the protocol says, if it may be told whatever storage tells it. -/
theorem KeepsTo.run (h : KeepsTo P Post s p) (c : Circumstances)
    (hanswers : ∀ s past r, P.answers s r (c.answer past r)) (t : Trail) :
    ∃ s', Post s' (c.run p t).1 := by
  induction h generalizing t with
  | @done s a h => exact ⟨s, h⟩
  | @ask s e k _ _ ih =>
    have hadmit : P.admits s e (c.respond e t).1 := by
      cases e with
      | storage r => exact hanswers s t.asked r
      | _ => exact trivial
    exact ih _ hadmit _

end Runs
end Serving
end ItemCatalog
