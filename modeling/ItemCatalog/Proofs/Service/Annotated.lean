import ItemCatalog.Proofs.Service.Follows

/-!
# Programs with remarks

A program that serves a call says a good deal in the log on its way. `Serving.Annotates p q` says
that `p` is `q` with such remarks in between. Main statement: whatever the program without the
remarks follows, the one with them follows too (`Annotates.follows`). -/

namespace ItemCatalog

/-- Whether a question is a remark that changes nothing but the log or the trace of a call. -/
def Effect.isRemark : Effect → Bool
  | .storage _ => false
  | .random => false
  | .elapsed => false
  | .record _ => false
  | .log _ => true
  | .note _ => true

theorem Effect.isAside_of_isRemark {e : Effect} (he : e.isRemark = true) : e.isAside = true := by
  cases e with
  | log entry => rfl
  | note mark => rfl
  | _ => cases he

namespace Serving
variable {α β : Type} {p q r : Serving α}

/-- Whether a program is another one with remarks in between. -/
inductive Annotates : Serving α → Serving α → Prop
  | done (a : α) : Annotates (.done a) (.done a)
  | ask (e : Effect) {k l : e.Answer → Serving α} :
      (∀ x, Annotates (k x) (l x)) → Annotates (.ask e k) (.ask e l)
  | remark {e : Effect} (he : e.isRemark = true) {k : e.Answer → Serving α} {q : Serving α} :
      (∀ x, Annotates (k x) q) → Annotates (.ask e k) q

/-- What comes after the same may be annotated. -/
theorem annotates_bind (p : Serving α) {f g : α → Serving β} (h : ∀ a, Annotates (f a) (g a)) :
    Annotates (p >>= f) (p >>= g) := by
  induction p with
  | done a => exact h a
  | ask e k ih => exact .ask e ih

/-- A remark is made first. -/
theorem annotates_log {entry : Log.Entry} {f : Unit → Serving α} (h : Annotates (f ()) q) :
    Annotates (Serving.log entry >>= f) q :=
  .remark rfl fun _ => h

theorem annotates_event {level : Log.Level} {message : String} {fields : List Log.Field}
    {f : Unit → Serving α} (h : Annotates (f ()) q) :
    Annotates (Serving.event level message fields >>= f) q :=
  annotates_log h

theorem Annotates.follows (h : Annotates p q) (hq : Follows q r) : Follows p r := by
  induction h generalizing r with
  | done a => exact hq
  | remark he _ ih => exact .aside (Effect.isAside_of_isRemark he) fun x => ih x hq
  | ask e _ ih =>
    cases hq with
    | storage request hl => exact .storage request fun x => ih x (hl x)
    | aside he hl => exact .aside he fun x => ih x (hl x)

end Serving
end ItemCatalog
