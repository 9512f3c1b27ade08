/-!
# Programs that ask

A program is a tree: it is done, or it asks its surroundings a question and goes on with the
answer. What the questions mean is left to whoever runs it, so one program can be run against a
store, against a script, or step by step among others. Main statements: programs form a lawful
monad, and a run of one program after another is the run of the first and then of the second.
-/

namespace ItemCatalog

/-- What may be asked, and what kind of answer each question has. -/
structure Signature where
  Question : Type
  Answer : Question → Type

/-- A program that asks questions of a signature and ends with a value. -/
inductive Program (S : Signature) (α : Type) : Type
  | done (a : α)
  | ask (q : S.Question) (resume : S.Answer q → Program S α)

namespace Program
variable {S : Signature} {α β γ σ : Type}

/-- Runs a program and then the one made of its result. -/
def bind : Program S α → (α → Program S β) → Program S β
  | done a, f => f a
  | ask q resume, f => ask q fun x => (resume x).bind f

instance : Monad (Program S) where
  pure := done
  bind := bind

@[simp] theorem pure_eq (a : α) : (pure a : Program S α) = done a := rfl
@[simp] theorem done_bind (a : α) (f : α → Program S β) : (done a >>= f) = f a := rfl
@[simp] theorem ask_bind (q : S.Question) (resume : S.Answer q → Program S α)
    (f : α → Program S β) : (ask q resume >>= f) = ask q fun x => resume x >>= f := rfl

theorem bind_done (p : Program S α) : (p >>= done) = p := by
  induction p with
  | done a => rfl
  | ask q resume ih => exact congrArg (ask q) (funext ih)

theorem bind_assoc (p : Program S α) (f : α → Program S β) (g : β → Program S γ) :
    ((p >>= f) >>= g) = (p >>= fun a => f a >>= g) := by
  induction p with
  | done a => rfl
  | ask q resume ih => exact congrArg (ask q) (funext ih)

instance : LawfulMonad (Program S) :=
  LawfulMonad.mk' (Program S) (fun p => bind_done p) (fun _ _ => rfl) bind_assoc

/-- Asks one question and returns the answer. -/
def request (q : S.Question) : Program S (S.Answer q) := ask q done

/-- How surroundings with a state answer each question. -/
abbrev Responder (S : Signature) (σ : Type) := (q : S.Question) → σ → S.Answer q × σ

/-- Runs a program in surroundings that answer every question. -/
def run (respond : Responder S σ) : Program S α → σ → α × σ
  | done a, s => (a, s)
  | ask q resume, s => ((resume (respond q s).1).run respond) (respond q s).2

@[simp] theorem run_done (respond : Responder S σ) (a : α) (s : σ) :
    (done a).run respond s = (a, s) := rfl

@[simp] theorem run_ask (respond : Responder S σ) (q : S.Question)
    (resume : S.Answer q → Program S α) (s : σ) :
    (ask q resume).run respond s = (resume (respond q s).1).run respond (respond q s).2 := rfl

@[simp] theorem run_request (respond : Responder S σ) (q : S.Question) (s : σ) :
    (request q).run respond s = respond q s := rfl

@[simp] theorem run_bind (respond : Responder S σ) (p : Program S α) (f : α → Program S β)
    (s : σ) :
    (p >>= f).run respond s = (f (p.run respond s).1).run respond (p.run respond s).2 := by
  induction p generalizing s with
  | done a => rfl
  | ask q resume ih => simp only [ask_bind, run_ask, ih]

end Program
end ItemCatalog
