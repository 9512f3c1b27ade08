import ItemCatalog.Surroundings

/-!
# Programs that ask the same of storage

A program that serves a call also measures, records and logs. `Serving.Follows p q` says that `p`
asks storage just what `q` asks and ends with the same value, whatever it asks of others in between.
Main statements: a program follows at most one program that is done (`Returns.unique`), and in
equal surroundings it ends as the one that it follows and leaves the same store (`run_of_follows`).
-/

namespace ItemCatalog

/-- Whether a question is asked of neither storage nor chance. -/
def Effect.isAside : Effect → Bool
  | .storage _ => false
  | .random => false
  | .elapsed => true
  | .record _ => true
  | .log _ => true
  | .note _ => true

theorem Effect.nonempty_answer {e : Effect} (he : e.isAside = true) : Nonempty e.Answer := by
  cases e with
  | storage r => cases he
  | random => cases he
  | elapsed => exact ⟨(0 : Nat)⟩
  | record event => exact ⟨()⟩
  | log entry => exact ⟨()⟩
  | note mark => exact ⟨()⟩

theorem Effect.ne_storage {e : Effect} (he : e.isAside = true) (r : Storage.Request) :
    e ≠ .storage r := by
  rintro rfl
  cases he

namespace Serving
variable {α β : Type} {p q : Serving α} {a b : α}

/-- Whether a program asks storage what another asks, and ends with the same value. -/
inductive Follows : Serving α → Serving α → Prop
  | done (a : α) : Follows (.done a) (.done a)
  | storage (r : Storage.Request) {k l : r.Answer → Serving α} :
      (∀ x, Follows (k x) (l x)) → Follows (.ask (.storage r) k) (.ask (.storage r) l)
  | aside {e : Effect} (he : e.isAside = true) {k : e.Answer → Serving α} {q : Serving α} :
      (∀ x, Follows (k x) q) → Follows (.ask e k) q

/-- Whether a program only has to end, with a given value. -/
def Returns (p : Serving α) (a : α) : Prop := Follows p (.done a)

/-! ## What is followed -/

theorem Follows.bind (h : Follows p q) {f g : α → Serving β} (hf : ∀ a, Follows (f a) (g a)) :
    Follows (p >>= f) (q >>= g) := by
  induction h with
  | done a => exact hf a
  | storage r _ ih => exact .storage r ih
  | aside he _ ih => exact .aside he ih

/-- Storage is asked first, and how long that took is recorded. -/
theorem follows_timed {operation : Operation} {r : Storage.Request} {f g : r.Answer → Serving α}
    (hf : ∀ x, Follows (f x) (g x)) :
    Follows (Serving.timed operation r >>= f) (Serving.storage r >>= g) := by
  refine .storage r ?_
  intro x
  refine .aside rfl ?_
  intro n
  refine .aside rfl ?_
  intro _
  exact hf x

theorem follows_storage {r : Storage.Request} {f g : r.Answer → Serving α}
    (hf : ∀ x, Follows (f x) (g x)) :
    Follows (Serving.storage r >>= f) (Serving.storage r >>= g) :=
  .storage r hf

/-! ## What a program that follows can be -/

theorem Follows.eq_of_done (h : Follows (.done b) (.done a)) : b = a := by
  cases h
  rfl

/-- A program that only has to end asks storage for nothing. -/
theorem Returns.not_ask_storage {r : Storage.Request} {k : r.Answer → Serving α} :
    ¬Returns (.ask (.storage r) k) a := by
  intro h
  cases h with
  | aside he _ => cases he

/-- After an answer to a question that is not of storage, a program follows what it did. -/
theorem Follows.resume {e : Effect} {k : e.Answer → Serving α} (h : Follows (.ask e k) q)
    (he : ∀ r, e ≠ .storage r) (x : e.Answer) : Follows (k x) q := by
  cases h with
  | storage r _ => exact absurd rfl (he r)
  | aside _ hk => exact hk x

/-- A program that asks storage something does not ask it anything else. -/
theorem Follows.storage_inv {r s : Storage.Request} {k : r.Answer → Serving α}
    {l : s.Answer → Serving α} (h : Follows (.ask (.storage r) k) (.ask (.storage s) l)) :
    ∃ hr : r = s, ∀ x, Follows (k x) (l (hr ▸ x)) := by
  cases h with
  | storage _ hk => exact ⟨rfl, hk⟩
  | aside he _ => cases he

/-- A program that only has to end follows one that is done. -/
theorem Follows.eq_of_returns (h : Follows p q) (ha : Returns p a) : q = .done a := by
  induction h with
  | done b => rw [Follows.eq_of_done ha]
  | storage r _ _ => exact absurd ha Returns.not_ask_storage
  | aside he _ ih =>
    obtain ⟨x⟩ := Effect.nonempty_answer he
    exact ih x (ha.resume (Effect.ne_storage he) x)

/-- A program that is still to ask storage does not just end. -/
theorem Follows.not_returns {r : Storage.Request} {l : r.Answer → Serving α}
    (h : Follows p (.ask (.storage r) l)) : ¬Returns p a := by
  intro ha
  cases h.eq_of_returns ha

/-- A program ends with one value only. -/
theorem Returns.unique (ha : Returns p a) (hb : Returns p b) : a = b := by
  cases Follows.eq_of_returns ha hb
  rfl

/-- If a program only has to end after an answer that is not of storage, it did so before. -/
theorem Follows.returns_of_resume {e : Effect} {k : e.Answer → Serving α} (h : Follows (.ask e k) q)
    (he : ∀ r, e ≠ .storage r) {x : e.Answer} (ha : Returns (k x) a) : Returns (.ask e k) a := by
  rw [(h.resume he x).eq_of_returns ha] at h
  exact h

end Serving

/-! ## Runs -/

namespace Surroundings
variable {σ α : Type} {w w' : Surroundings σ}

/-- Whether surroundings are equal but for metrics, log and notes. -/
structure Alike (w w' : Surroundings σ) : Prop where
  store : w.store = w'.store
  staged : w.staged = w'.staged
  now : w.now = w'.now
  entropy : w.entropy = w'.entropy
  asked : w.asked = w'.asked

theorem Alike.refl (w : Surroundings σ) : Alike w w := ⟨rfl, rfl, rfl, rfl, rfl⟩

theorem Alike.trans {w'' : Surroundings σ} (h : Alike w w') (h' : Alike w' w'') : Alike w w'' :=
  ⟨h.store.trans h'.store, h.staged.trans h'.staged, h.now.trans h'.now,
    h.entropy.trans h'.entropy, h.asked.trans h'.asked⟩

theorem Alike.serve (h : Alike w w') (b : Storage.Backend σ) (r : Storage.Request) :
    (w.serve b r).1 = (w'.serve b r).1 ∧ Alike (w.serve b r).2 (w'.serve b r).2 := by
  obtain ⟨store, staged, now, entropy, metrics, log, notes, asked⟩ := w
  obtain ⟨store', staged', now', entropy', metrics', log', notes', asked'⟩ := w'
  obtain ⟨rfl, rfl, rfl, rfl, rfl⟩ := h
  cases r <;> exact ⟨rfl, rfl, rfl, rfl, rfl, rfl⟩

theorem alike_respond {e : Effect} (he : e.isAside = true) (b : Storage.Backend σ)
    (w : Surroundings σ) : Alike (respond b e w).2 w := by
  cases e with
  | storage r => cases he
  | random => cases he
  | elapsed => exact ⟨rfl, rfl, rfl, rfl, rfl⟩
  | record event => exact ⟨rfl, rfl, rfl, rfl, rfl⟩
  | log entry => exact ⟨rfl, rfl, rfl, rfl, rfl⟩
  | note mark => exact ⟨rfl, rfl, rfl, rfl, rfl⟩

theorem run_ask_storage (b : Storage.Backend σ) (r : Storage.Request)
    (k : r.Answer → Serving α) (w : Surroundings σ) :
    w.run b (.ask (.storage r) k) = (w.serve b r).2.run b (k (w.serve b r).1) := rfl

/-- A program ends as the one that it follows, in alike surroundings. -/
theorem run_of_follows {p q : Serving α} (h : p.Follows q) (b : Storage.Backend σ)
    (hw : Alike w w') :
    (w.run b p).1 = (w'.run b q).1 ∧ Alike (w.run b p).2 (w'.run b q).2 := by
  induction h generalizing w w' with
  | done a => exact ⟨rfl, hw⟩
  | storage r _ ih =>
    obtain ⟨hanswer, hserved⟩ := hw.serve b r
    rw [run_ask_storage, run_ask_storage, ← hanswer]
    exact ih (w.serve b r).1 hserved
  | @aside e he k q _ ih => exact ih _ ((alike_respond he b w).trans hw)

end Surroundings
end ItemCatalog
