import ItemCatalog.Proofs.Service.Catalogue
import ItemCatalog.Proofs.Service.Circumstances

/-!
# Two calls side by side

Two programs resemble each other if they ask storage the same requests and record the same events,
durations aside, and their ends are related, as long as storage gives them the same answers or fails
both. What they log, draw, measure and note may be anything. Main statements: resemblance is kept by
sequencing (`Resembles.bind`), and programs that resemble each other, served where storage answers
alike, come to related ends with the same requests and the same metrics, durations aside
(`Resembles.run`).

## Main definitions

* `Request.Alike`: whether two answers differ in the reason of a failure at most.
* `Metrics.timeless`: metrics whose samples count, but not for how long they lasted.
* `Serving.Resembles`: programs that differ in nothing that storage or the metrics could show.
-/

namespace ItemCatalog

/-! ## Answers of storage -/

namespace Storage
variable {α : Type}

/-- Whether two answers are the same, but perhaps for the reason of a failure. -/
inductive Alike : Except Error α → Except Error α → Prop
  | ok (a : α) : Alike (.ok a) (.ok a)
  | failed (e e' : Error) : Alike (.error e) (.error e')

theorem Alike.refl (x : Except Error α) : Alike x x := by
  cases x with
  | ok a => exact .ok a
  | error e => exact .failed e e

theorem Alike.symm {x y : Except Error α} (h : Alike x y) : Alike y x := by
  cases h with
  | ok a => exact .ok a
  | failed e e' => exact .failed e' e

/-- Whether two answers to a request are alike. Nothing that is staged can fail. -/
def Request.Alike : (r : Request) → r.Answer → r.Answer → Prop
  | .start, x, y => x = y
  | .save _, x, y => x = y
  | .find _, x, y => Storage.Alike x y
  | .page _, x, y => Storage.Alike x y
  | .update _, x, y => x = y
  | .delete _, x, y => x = y
  | .commit, x, y => Storage.Alike x y
  | .count, x, y => Storage.Alike x y

theorem Request.Alike.refl (r : Request) (x : r.Answer) : r.Alike x x := by
  cases r with
  | start => exact Eq.refl x
  | save name => exact Eq.refl x
  | find id => exact Storage.Alike.refl x
  | page window => exact Storage.Alike.refl x
  | update item => exact Eq.refl x
  | delete item => exact Eq.refl x
  | commit => exact Storage.Alike.refl x
  | count => exact Storage.Alike.refl x

theorem Request.Alike.symm {r : Request} {x y : r.Answer} (h : r.Alike x y) : r.Alike y x := by
  cases r with
  | start => exact Eq.symm h
  | save name => exact Eq.symm h
  | find id => exact Storage.Alike.symm h
  | page window => exact Storage.Alike.symm h
  | update item => exact Eq.symm h
  | delete item => exact Eq.symm h
  | commit => exact Storage.Alike.symm h
  | count => exact Storage.Alike.symm h

end Storage

/-! ## Measured times -/

namespace Metrics

/-- An event without its duration. -/
def Event.timeless : Event → Event
  | .request method status _ => .request method status 0
  | .database operation _ => .database operation 0
  | .enter => .enter
  | .leave => .leave
  | .error method errorType => .error method errorType
  | .change operation => .change operation
  | .invalid method => .invalid method
  | .unauthorized operation reason => .unauthorized operation reason

/-- Metrics in which each sample counts, but not for how long it lasted. -/
def timeless (m : Metrics) : Metrics :=
  { m with samples := m.samples.map fun durations => durations.map fun _ => 0 }

theorem timeless_sample (m : Metrics) (s : Series) (duration : Nat) :
    (m.sample s duration).timeless = m.timeless.sample s 0 := by
  have hsamples : (m.sample s duration).timeless.samples = (m.timeless.sample s 0).samples := by
    refine Assoc.map_alter ?_ m.samples s
    intro durations
    cases durations with
    | none => rfl
    | some durations => exact List.map_append
  exact congrArg (fun samples => { m.timeless with samples := samples }) hsamples

/-- What an event does to metrics depends on its duration only in the durations. -/
theorem timeless_record (m : Metrics) (e : Event) :
    (m.record e).timeless = m.timeless.record e.timeless := by
  cases e with
  | enter => rfl
  | leave => rfl
  | request method status duration => exact timeless_sample _ _ duration
  | error method errorType => rfl
  | change operation => cases operation <;> rfl
  | database operation duration => exact timeless_sample _ _ duration
  | invalid method => rfl
  | unauthorized operation reason => rfl

end Metrics

namespace Service

theorem Trail.timeless_metrics (t : Trail) (m : Metrics) :
    (t.metrics m).timeless =
      (t.recorded.map Metrics.Event.timeless).foldl Metrics.record m.timeless := by
  rw [Trail.metrics, List.foldl_map]
  exact (List.foldl_hom Metrics.timeless fun m e => (Metrics.timeless_record m e).symm).symm

/-- Whether two trails show the same requests, and the same events but for their durations. -/
structure Trail.Like (t t' : Trail) : Prop where
  asked : t.asked = t'.asked
  recorded : t.recorded.map Metrics.Event.timeless = t'.recorded.map Metrics.Event.timeless

namespace Trail.Like
variable {t t' : Trail}

theorem refl : t.Like t := ⟨rfl, rfl⟩

theorem symm (h : t.Like t') : t'.Like t := ⟨h.asked.symm, h.recorded.symm⟩

theorem ask (h : t.Like t') (r : Storage.Request) : (t.ask r).Like (t'.ask r) :=
  ⟨congrArg (· ++ [r]) h.asked, h.recorded⟩

theorem record {e e' : Metrics.Event} (h : t.Like t') (he : e.timeless = e'.timeless) :
    (t.record e).Like (t'.record e') := by
  refine ⟨h.asked, ?_⟩
  rw [Trail.record, Trail.record, List.map_append, List.map_append, h.recorded, List.map_singleton,
    List.map_singleton, he]

/-- Like trails make like metrics of the same metrics. -/
theorem metrics (h : t.Like t') (m : Metrics) :
    (t.metrics m).timeless = (t'.metrics m).timeless := by
  rw [timeless_metrics, timeless_metrics, h.recorded]

end Trail.Like
end Service

/-! ## Programs -/

/-- Whether a question leaves nothing behind that storage or the metrics could show. -/
def Effect.isUnseen : Effect → Bool
  | .storage _ => false
  | .random => true
  | .elapsed => true
  | .record _ => false
  | .log _ => true
  | .note _ => true

theorem Effect.isUnseen_of_isRemark {e : Effect} (he : e.isRemark = true) : e.isUnseen = true := by
  cases e with
  | log entry => rfl
  | note mark => rfl
  | _ => cases he

namespace Serving
open Storage (Request)
variable {α β γ δ : Type} {R : α → β → Prop} {S : γ → δ → Prop} {p : Serving α} {q : Serving β}

/-- Whether two programs come to related ends with the same requests and the same events, durations
aside, if they get answers that are alike. -/
inductive Resembles (R : α → β → Prop) : Serving α → Serving β → Prop
  | done {a : α} {b : β} (h : R a b) : Resembles R (.done a) (.done b)
  | storage (r : Request) {k : r.Answer → Serving α} {l : r.Answer → Serving β} :
      (∀ x y, r.Alike x y → Resembles R (k x) (l y)) →
        Resembles R (.ask (.storage r) k) (.ask (.storage r) l)
  | record {e e' : Metrics.Event} (he : e.timeless = e'.timeless) {k : Unit → Serving α}
      {l : Unit → Serving β} :
      Resembles R (k ()) (l ()) → Resembles R (.ask (.record e) k) (.ask (.record e') l)
  | left {e : Effect} (he : e.isUnseen = true) {k : e.Answer → Serving α} {q : Serving β} :
      (∀ x, Resembles R (k x) q) → Resembles R (.ask e k) q
  | right {e : Effect} (he : e.isUnseen = true) {p : Serving α} {l : e.Answer → Serving β} :
      (∀ x, Resembles R p (l x)) → Resembles R p (.ask e l)

theorem Resembles.bind {f : α → Serving γ} {g : β → Serving δ} (h : Resembles R p q)
    (hf : ∀ a b, R a b → Resembles S (f a) (g b)) : Resembles S (p >>= f) (q >>= g) := by
  induction h with
  | done h => exact hf _ _ h
  | storage r _ ih => exact .storage r ih
  | record he _ ih => exact .record he ih
  | left he _ ih => exact .left he ih
  | right he _ ih => exact .right he ih

theorem Resembles.symm (h : Resembles R p q) : Resembles (fun b a => R a b) q p := by
  induction h with
  | done h => exact .done h
  | storage r _ ih => exact .storage r fun x y hxy => ih y x hxy.symm
  | record he _ ih => exact .record he.symm ih
  | left he _ ih => exact .right he ih
  | right he _ ih => exact .left he ih

/-- A program with remarks resembles what the program without them does. -/
theorem Annotates.resembles {p' : Serving α} (h : Annotates p p') (hq : Resembles R p' q) :
    Resembles R p q := by
  induction h generalizing q with
  | done a => exact hq
  | remark he _ ih => exact .left (Effect.isUnseen_of_isRemark he) fun x => ih x hq
  | @ask e k l _ ih =>
    -- The other program may do something unseen before it asks the same.
    generalize hp : (Program.ask (S := Effect.signature) e l) = p' at hq
    induction hq with
    | done _ => cases hp
    | storage r hl _ =>
      cases hp
      exact .storage r fun x y hxy => ih x (hl x y hxy)
    | record he hl _ =>
      cases hp
      exact .record he (ih () hl)
    | left he hl _ =>
      cases hp
      exact .left he fun x => ih x (hl x)
    | right he _ ihq => exact .right he fun x => ihq x hp

/-- Programs with remarks resemble each other if the programs without them do. -/
theorem Resembles.annotated {p' : Serving α} {q' : Serving β} (h : Resembles R p' q')
    (hp : Annotates p p') (hq : Annotates q q') : Resembles R p q :=
  (hq.resembles (hp.resembles h).symm).symm

/-! What two programs ask before something else. -/

theorem resembles_log_bind {entry entry' : Log.Entry} {f : Unit → Serving α} {g : Unit → Serving β}
    (h : Resembles R (f ()) (g ())) :
    Resembles R (Serving.log entry >>= f) (Serving.log entry' >>= g) :=
  .left rfl fun _ => .right rfl fun _ => h

theorem resembles_event_bind {level level' : Log.Level} {message message' : String}
    {fields fields' : List Log.Field} {f : Unit → Serving α} {g : Unit → Serving β}
    (h : Resembles R (f ()) (g ())) :
    Resembles R (Serving.event level message fields >>= f)
      (Serving.event level' message' fields' >>= g) :=
  resembles_log_bind h

theorem resembles_storage_bind {r : Request} {f : r.Answer → Serving α} {g : r.Answer → Serving β}
    (h : ∀ x y, r.Alike x y → Resembles R (f x) (g y)) :
    Resembles R (Serving.storage r >>= f) (Serving.storage r >>= g) :=
  .storage r h

theorem resembles_record_bind {e e' : Metrics.Event} (he : e.timeless = e'.timeless)
    {f : Unit → Serving α} {g : Unit → Serving β} (h : Resembles R (f ()) (g ())) :
    Resembles R (Serving.record e >>= f) (Serving.record e' >>= g) :=
  .record he h

theorem resembles_elapsed_bind {f : Nat → Serving α} {g : Nat → Serving β}
    (h : ∀ d d', Resembles R (f d) (g d')) :
    Resembles R (Serving.elapsed >>= f) (Serving.elapsed >>= g) :=
  .left rfl fun d => .right rfl fun d' => h d d'

theorem resembles_timed_bind {op : Operation} {r : Request} {f : r.Answer → Serving α}
    {g : r.Answer → Serving β} (h : ∀ x y, r.Alike x y → Resembles R (f x) (g y)) :
    Resembles R (Serving.timed op r >>= f) (Serving.timed op r >>= g) := by
  refine .storage r fun x y hxy => ?_
  refine .left rfl fun d => .right rfl fun d' => ?_
  have htimeless (d d' : Nat) :
      (Metrics.Event.database op d).timeless = (Metrics.Event.database op d').timeless := rfl
  exact .record (htimeless d d') (h x y hxy)

end Serving

/-! ## Runs -/

section Runs
open Service
variable {α β : Type} {R : α → β → Prop} {p : Serving α} {q : Serving β} {c c' : Circumstances}
  {t t' : Trail}

/-- Whether storage answers the same in two circumstances, but perhaps for the reasons of failures.
What is random and how long things take may be anything. -/
def Service.Circumstances.Alike (c c' : Circumstances) : Prop :=
  ∀ past (r : Storage.Request), r.Alike (c.answer past r) (c'.answer past r)

/-- A question that leaves nothing behind leaves a trail that is like the one before. -/
theorem Service.Trail.Like.unseen_left {e : Effect} (he : e.isUnseen = true) (h : t.Like t') :
    (c.respond e t).2.Like t' := by
  cases e with
  | storage r => cases he
  | random => exact ⟨h.asked, h.recorded⟩
  | elapsed => exact ⟨h.asked, h.recorded⟩
  | record event => cases he
  | log entry => exact h
  | note mark => exact h

/-- Programs that resemble each other, served where storage answers alike, leave like trails and
come to related ends. -/
theorem Serving.Resembles.run (h : p.Resembles R q) (halike : c.Alike c') (ht : t.Like t') :
    R (c.run p t).1 (c'.run q t').1 ∧ (c.run p t).2.Like (c'.run q t').2 := by
  induction h generalizing t t' with
  | done h => exact ⟨h, ht⟩
  | storage r _ ih =>
    have hanswers : r.Alike (c.answer t.asked r) (c'.answer t'.asked r) := by
      rw [ht.asked]
      exact halike t'.asked r
    exact ih _ _ hanswers (ht.ask r)
  | record he _ ih => exact ih (ht.record he)
  | left he _ ih => exact ih _ (ht.unseen_left he)
  | right he _ ih => exact ih _ (ht.symm.unseen_left he).symm

end Runs
end ItemCatalog
