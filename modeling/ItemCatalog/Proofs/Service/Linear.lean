import ItemCatalog.Proofs.Service.Standing
import ItemCatalog.Sql.Statement
import Mathlib.Data.List.Forall2

/-!
# Calls in flight as calls one after another

Main statement: `linearizable`. The calls that are over, taken in the order in which each last
touched the table, come to the same replies and the same table when they are served one after
another; and a call that this leaves out has changed nothing.
-/

namespace ItemCatalog.Service
open Storage (Change Request Table History)

variable {ι : Type} [DecidableEq ι] {calls : ι → Invocation} {w w' : World ι}

/-! ## How the order grows -/

namespace World

theorem mem_order {t : Touch ι} :
    t ∈ w.order ↔ t ∈ lastTouches w.touched ∧ t.lost = false ∧ w.Over t.call := by
  rw [order, List.mem_filter, counts_iff]

theorem order_congr (htouched : w'.touched = w.touched) (hover : ∀ k, w'.Over k ↔ w.Over k) :
    w'.order = w.order := by
  rw [order, order, htouched]
  apply List.filter_congr
  intro t _
  exact counts_congr (hover t.call)

/-- A touch of a call that was not over comes last in the order, if it counts. -/
theorem order_append {u : Touch ι} (htouched : w'.touched = w.touched ++ [u])
    (hover : ∀ k, k ≠ u.call → (w'.Over k ↔ w.Over k)) (hu : ¬w.Over u.call) :
    w'.order = w.order ++ [u].filter w'.counts := by
  rw [order, order, htouched, lastTouches_append, List.filter_append, List.filter_filter]
  congr 1
  apply List.filter_congr
  intro t _
  by_cases ht : t.call = u.call
  · have hcounts : w.counts t = false := by
      rw [Bool.eq_false_iff, ne_eq, counts_iff, ht]
      exact fun h => hu h.2
    simp [ht, hcounts]
  · simp [ht, counts_congr (hover t.call ht)]

/-- The calls of the order are served the same way after a step of a call that was not over. -/
theorem map_turn_congr {k : ι} (hk : ¬w.Over k) (hrandom : ∀ j, j ≠ k → w'.random j = w.random j) :
    w.order.map (w'.turn calls) = w.turns calls := by
  apply List.map_congr_left
  intro t ht
  have hne : t.call ≠ k := by
    rintro rfl
    exact hk (mem_order.1 ht).2.2
  rw [turn, turn, hrandom t.call hne]

theorem map_rest_congr {k : ι} (hk : ¬w.Over k) (hrest : ∀ j, j ≠ k → w'.rest j = w.rest j) :
    (w.order.map fun t => w'.rest t.call) = w.order.map fun t => w.rest t.call := by
  apply List.map_congr_left
  intro t ht
  apply hrest
  rintro rfl
  exact hk (mem_order.1 ht).2.2

end World

/-! ## The invariant -/

/-- What holds in every world that a run can lead to: the calls of the order, served one after
another, come to what they have come to in the run. -/
structure World.Inv (calls : ι → Invocation) (w : World ι) : Prop where
  reachable : w.history.Reachable
  stands : ∀ k, Stands w.history k (w.random k) (calls k).course (w.rest k)
  replies : List.Forall₂ Serving.Returns (w.order.map fun t => w.rest t.call)
    (replay (w.turns calls) .empty).1
  table : (replay (w.turns calls) .empty).2 = w.table
  chain : Chain .empty w.touched w.table
  idle : ∀ t ∈ w.touched, t.after = t.before ∨ t ∈ w.order

theorem World.inv_start (calls : ι → Invocation) : (World.start calls).Inv calls where
  reachable := .start
  stands k := .ahead (follows_course (calls k))
  replies := .nil
  table := rfl
  chain := rfl
  idle := nofun

/-! ### Answers that concern one call -/

theorem World.Inv.goOn (hi : w.Inv calls) {k : ι} {e : Effect} {resume : e.Answer → Serving Reply}
    (hrest : w.rest k = .ask e resume) (he : ∀ r, e ≠ .storage r) (x : e.Answer) :
    (w.goOn k (resume x)).Inv calls := by
  have hk := hi.stands k
  rw [hrest] at hk
  have hreturns : ∀ j a, ((w.goOn k (resume x)).rest j).Returns a ↔ (w.rest j).Returns a := by
    intro j a
    by_cases hj : j = k
    · subst hj
      simp only [World.goOn, Function.update_self, hrest]
      obtain ⟨q, hq⟩ := hk.follows
      exact ⟨hq.returns_of_resume he, fun ha => ha.resume he x⟩
    · simp only [World.goOn, Function.update_of_ne hj]
  have horder : (w.goOn k (resume x)).order = w.order :=
    World.order_congr rfl fun j => exists_congr (hreturns j)
  have hturns : (w.goOn k (resume x)).turns calls = w.turns calls := by
    rw [World.turns, horder]
    rfl
  constructor
  · exact hi.reachable
  · intro j
    by_cases hj : j = k
    · subst hj
      simp only [World.goOn, Function.update_self]
      exact hk.resume he x
    · simp only [World.goOn, Function.update_of_ne hj]
      exact hi.stands j
  · rw [hturns, horder, List.forall₂_map_left_iff]
    exact (List.forall₂_map_left_iff.1 hi.replies).imp fun t a ha => (hreturns t.call a).2 ha
  · rw [hturns]
    exact hi.table
  · exact hi.chain
  · intro t ht
    rw [horder]
    exact hi.idle t ht

/-! ### Answers of storage -/

section Serve
variable {e : Tick ι} {r : Request} {resume : r.Answer → Serving Reply}

theorem World.rest_serve_of_ne {j : ι} (hj : j ≠ e.call) :
    (w.serve e r resume).rest j = w.rest j := by
  simp only [World.serve, Function.update_of_ne hj]

theorem World.random_serve_of_ne {j : ι} (hj : j ≠ e.call) :
    (w.serve e r resume).random j = w.random j := by
  simp only [World.serve]
  split
  · exact Function.update_of_ne hj _ _
  · rfl

theorem World.over_serve_of_ne {j : ι} (hj : j ≠ e.call) :
    (w.serve e r resume).Over j ↔ w.Over j := by
  rw [World.Over, World.Over, World.rest_serve_of_ne hj]

omit [DecidableEq ι] in
theorem World.not_over_of_rest (hrest : w.rest e.call = .ask (.storage r) resume) :
    ¬w.Over e.call := by
  rintro ⟨a, ha⟩
  rw [hrest] at ha
  exact Serving.Returns.not_ask_storage ha

theorem World.Inv.advances (hi : w.Inv calls) (hrest : w.rest e.call = .ask (.storage r) resume) :
    Advances w.history e.call e.now (w.random e.call) e.random (calls e.call).course r resume := by
  have hs := hi.stands e.call
  rw [hrest] at hs
  exact hs.advances (History.inv_of_reachable hi.reachable) e.now e.random

/-- What an answer of storage does to the history and to the standings. -/
theorem World.Inv.serve_stands (hi : w.Inv calls)
    (hrest : w.rest e.call = .ask (.storage r) resume) (j : ι) :
    Stands (w.serve e r resume).history j ((w.serve e r resume).random j) (calls j).course
      ((w.serve e r resume).rest j) := by
  by_cases hj : j = e.call
  · subst hj
    have h := (hi.advances hrest).stands
    have hrandom : (w.serve e r resume).random e.call =
        if r.draws then e.random else w.random e.call := by
      simp only [World.serve]
      split
      · exact Function.update_self _ _ _
      · rfl
    rw [hrandom]
    simpa only [World.serve, Function.update_self] using h
  · rw [World.random_serve_of_ne hj, World.rest_serve_of_ne hj]
    refine (hi.stands j).congr ?_ fun y hy => mem_readBy_perform hy
    change (w.history.perform e.now (.ofRandom e.random) e.call r).2.staged j = _
    rw [History.staged_perform, if_neg hj]

theorem World.Inv.serve_reachable (hi : w.Inv calls)
    (hrest : w.rest e.call = .ask (.storage r) resume) (hfresh : w.Fresh e) :
    (w.serve e r resume).history.Reachable := by
  refine .step _ _ _ _ hi.reachable ((hi.advances hrest).permitted ?_)
  intro hdraws
  apply hfresh
  rw [World.draws, hrest]
  exact hdraws

/-- The touch that an answer of storage leaves, if the request reaches the table. -/
def World.touch (w : World ι) (e : Tick ι) (r : Request) : Touch ι where
  call := e.call
  now := e.now
  lost := lost r (w.history.perform e.now (.ofRandom e.random) e.call r).1
  before := w.table
  after := (w.history.perform e.now (.ofRandom e.random) e.call r).2.table

theorem World.touched_serve :
    (w.serve e r resume).touched =
      if touches r then w.touched ++ [w.touch e r] else w.touched := rfl

theorem World.Inv.serve_chain (hi : w.Inv calls)
    (hrest : w.rest e.call = .ask (.storage r) resume) :
    Chain .empty (w.serve e r resume).touched (w.serve e r resume).table := by
  rw [World.touched_serve]
  by_cases ht : touches r = true
  · rw [if_pos ht]
    exact chain_append hi.chain rfl
  · rw [if_neg ht]
    have htable : (w.serve e r resume).table = w.table := by
      cases (hi.advances hrest).progress with
      | more htable _ => exact htable
      | lost htouched _ _ => exact absurd htouched ht
      | settled a htouched _ _ _ => exact absurd htouched ht
    rw [htable]
    exact hi.chain

/-- A request that counts for nothing in the order, and leaves the table, keeps the invariant. -/
theorem World.Inv.serve_of_order_eq (hi : w.Inv calls)
    (hrest : w.rest e.call = .ask (.storage r) resume) (hfresh : w.Fresh e)
    (horder : (w.serve e r resume).order = w.order)
    (htable : (w.serve e r resume).table = w.table) : (w.serve e r resume).Inv calls := by
  have hnot := World.not_over_of_rest hrest
  have hturns : (w.serve e r resume).turns calls = w.turns calls := by
    rw [World.turns, horder]
    exact World.map_turn_congr hnot fun j hj => World.random_serve_of_ne hj
  constructor
  · exact hi.serve_reachable hrest hfresh
  · exact hi.serve_stands hrest
  · rw [hturns, horder, World.map_rest_congr hnot fun j hj => World.rest_serve_of_ne hj]
    exact hi.replies
  · rw [hturns, hi.table, htable]
  · exact hi.serve_chain hrest
  · intro t ht
    rw [horder]
    rw [World.touched_serve] at ht
    split at ht
    · rcases List.mem_append.1 ht with ht | ht
      · exact hi.idle t ht
      · rw [List.mem_singleton.1 ht]
        exact Or.inl htable
    · exact hi.idle t ht

theorem World.random_serve_of_touches (ht : touches r = true) :
    (w.serve e r resume).random = w.random := by
  have hdraws : r.draws = false := by
    cases r with
    | save name => cases ht
    | _ => rfl
  simp only [World.serve, hdraws, Bool.false_eq_true, if_false]

/-- A call that comes last in the order is served last, over the table that it has found. -/
theorem World.Inv.replay_settled (hi : w.Inv calls)
    (hrest : w.rest e.call = .ask (.storage r) resume) (ht : touches r = true) {a : Reply}
    (horder : (w.serve e r resume).order = w.order ++ [w.touch e r])
    (hresult : (calls e.call).course.result w.table e.now (.ofRandom (w.random e.call)) =
      (a, (w.serve e r resume).table)) :
    replay ((w.serve e r resume).turns calls) .empty =
      ((replay (w.turns calls) .empty).1 ++ [a], (w.serve e r resume).table) := by
  have hturns : (w.serve e r resume).turns calls =
      w.turns calls ++ [(w.serve e r resume).turn calls (w.touch e r)] := by
    rw [World.turns, horder, List.map_append, List.map_singleton]
    rw [World.map_turn_congr (World.not_over_of_rest hrest)
      fun j hj => World.random_serve_of_ne hj]
  have hown : ((w.serve e r resume).turn calls (w.touch e r)).result w.table =
      (a, (w.serve e r resume).table) := by
    rw [World.turn, World.random_serve_of_touches ht]
    exact hresult
  obtain ⟨hreply, hafter, _⟩ :=
    ((w.serve e r resume).turn calls (w.touch e r)).serve_eq w.table
  rw [hturns, replay_concat, hi.table, hreply, hafter, hown]

/-- A request that ends a call at its place in the order keeps the invariant. -/
theorem World.Inv.serve_of_settled (hi : w.Inv calls)
    (hrest : w.rest e.call = .ask (.storage r) resume) (hfresh : w.Fresh e)
    (ht : touches r = true) {a : Reply}
    (horder : (w.serve e r resume).order = w.order ++ [w.touch e r])
    (ha : ((w.serve e r resume).rest e.call).Returns a)
    (hresult : (calls e.call).course.result w.table e.now (.ofRandom (w.random e.call)) =
      (a, (w.serve e r resume).table)) :
    (w.serve e r resume).Inv calls := by
  have hreplay := hi.replay_settled hrest ht horder hresult
  constructor
  · exact hi.serve_reachable hrest hfresh
  · exact hi.serve_stands hrest
  · rw [hreplay, horder, List.map_append, World.map_rest_congr (World.not_over_of_rest hrest)
      fun j hj => World.rest_serve_of_ne hj]
    exact List.rel_append hi.replies (.cons ha .nil)
  · rw [hreplay]
  · exact hi.serve_chain hrest
  · intro t hmem
    rw [horder]
    rw [World.touched_serve, if_pos ht] at hmem
    rcases List.mem_append.1 hmem with hmem | hmem
    · rcases hi.idle t hmem with hidle | hin
      · exact Or.inl hidle
      · exact Or.inr (List.mem_append_left _ hin)
    · exact Or.inr (List.mem_append_right _ hmem)

/-- The touch of a request counts in the order or is left out of it. -/
theorem World.order_serve (hrest : w.rest e.call = .ask (.storage r) resume)
    (ht : touches r = true) : (w.serve e r resume).order =
      w.order ++ [w.touch e r].filter (w.serve e r resume).counts := by
  refine World.order_append ?_ (fun j hj => World.over_serve_of_ne hj)
    (World.not_over_of_rest hrest)
  rw [World.touched_serve, if_pos ht]

/-- A call that has more to ask is not in the order, and a commit that was lost neither. -/
theorem World.order_serve_eq (hrest : w.rest e.call = .ask (.storage r) resume)
    (h : ¬(w.serve e r resume).Over e.call ∨ touches r = true ∧ (w.touch e r).lost = true) :
    (w.serve e r resume).order = w.order := by
  by_cases ht : touches r = true
  · rw [World.order_serve hrest ht, List.filter_cons_of_neg, List.filter_nil, List.append_nil]
    rw [World.counts_iff]
    rintro ⟨hlost, hover⟩
    rcases h with hnot | ⟨_, hlost'⟩
    · exact hnot hover
    · exact Bool.noConfusion (hlost'.symm.trans hlost)
  · refine World.order_congr ?_ ?_
    · rw [World.touched_serve, if_neg ht]
    · intro j
      by_cases hj : j = e.call
      · rw [hj]
        exact iff_of_false (h.resolve_right fun h => ht h.1) (World.not_over_of_rest hrest)
      · exact World.over_serve_of_ne hj

/-- Every answer of storage keeps the invariant. -/
theorem World.Inv.serve (hi : w.Inv calls) (hrest : w.rest e.call = .ask (.storage r) resume)
    (hfresh : w.Fresh e) : (w.serve e r resume).Inv calls := by
  have hself : (w.serve e r resume).rest e.call =
      resume (w.history.perform e.now (.ofRandom e.random) e.call r).1 := by
    simp only [World.serve, Function.update_self]
  cases (hi.advances hrest).progress with
  | more htable hmore =>
    refine hi.serve_of_order_eq hrest hfresh (World.order_serve_eq hrest (Or.inl ?_)) htable
    rintro ⟨a, ha⟩
    rw [hself] at ha
    exact hmore a ha
  | lost ht hlost htable =>
    exact hi.serve_of_order_eq hrest hfresh (World.order_serve_eq hrest (Or.inr ⟨ht, hlost⟩)) htable
  | settled a ht hlost ha hresult =>
    rw [← hself] at ha
    refine hi.serve_of_settled hrest hfresh ht ?_ ha hresult
    rw [World.order_serve hrest ht, List.filter_cons_of_pos, List.filter_nil]
    rw [World.counts_iff]
    exact ⟨hlost, a, ha⟩

end Serve

/-! ### Runs -/

theorem World.Inv.tick (hi : w.Inv calls) (e : Tick ι) (hfresh : w.Fresh e) :
    (w.tick e).Inv calls := by
  unfold World.tick
  split
  · exact hi
  · next r resume hrest => exact hi.serve hrest hfresh
  · next resume hrest => exact hi.goOn hrest nofun e.random
  · next resume hrest => exact hi.goOn hrest nofun e.nanos
  · next resume hrest => exact hi.goOn hrest nofun ()
  · next resume hrest => exact hi.goOn hrest nofun ()
  · next resume hrest => exact hi.goOn hrest nofun ()

/-- The invariant holds in every world that a run can lead to. -/
theorem inv_of_reachable (hr : Reachable calls w) : w.Inv calls := by
  induction hr with
  | start => exact World.inv_start calls
  | tick e _ hfresh ih => exact ih.tick e hfresh

/-- In every run of calls over an empty table, the calls that are over, without those that never
touched the table and those whose commit ended in a conflict, come to the same replies and leave
the same table when they are served one after another by their last touches, each at the time and
with the identifier that it had. The table goes from one touch to the next, and the touches of all
other calls leave it as it was. -/
theorem linearizable (hr : Reachable calls w) :
    List.Forall₂ Serving.Returns (w.order.map fun t => w.rest t.call)
      (replay (w.turns calls) .empty).1 ∧
    (replay (w.turns calls) .empty).2 = w.table ∧
    Chain .empty w.touched w.table ∧
    ∀ t ∈ w.touched, (∀ u ∈ w.order, u.call ≠ t.call) → t.after = t.before := by
  have hi := inv_of_reachable hr
  refine ⟨hi.replies, hi.table, hi.chain, ?_⟩
  intro t ht hleft
  rcases hi.idle t ht with hidle | hmem
  · exact hidle
  · exact absurd rfl (hleft t hmem)

/-! ## A contest -/

instance (w : World ι) (e : Tick ι) : Decidable (w.Fresh e) := inferInstanceAs (Decidable (_ → _))

/-- Whether ticks one after another draw no identifier twice. -/
def World.allFresh : List (Tick ι) → World ι → Bool
  | [], _ => true
  | e :: rest, w => decide (w.Fresh e) && allFresh rest (w.tick e)

theorem Reachable.foldl {ticks : List (Tick ι)} (hr : Reachable calls w)
    (hfresh : w.allFresh ticks = true) : Reachable calls (ticks.foldl World.tick w) := by
  induction ticks generalizing w with
  | nil => exact hr
  | cons e rest ih =>
    simp only [World.allFresh, Bool.and_eq_true, decide_eq_true_eq] at hfresh
    exact ih (hr.tick e hfresh.1) hfresh.2

/-- A call that creates an item, and two that give it different names. -/
def contenders (k : Fin 3) : Invocation :=
  let call : Call := .start "" .empty .nil
  let id := (Identifier.ofRandom 1).text
  match k with
  | 0 => ⟨.createItem, call, ({ name := "a" } : ItemMessage)⟩
  | 1 => ⟨.updateItem, call, ({ id := id, name := "b" } : ItemMessage)⟩
  | 2 => ⟨.updateItem, call, ({ id := id, name := "c" } : ItemMessage)⟩

/-- The item is created; then the two others take turns. -/
def contestTicks : List (Tick (Fin 3)) :=
  (List.replicate 9 0 ++ (List.replicate 12 [1, 2]).flatten : List (Fin 3)).map fun k =>
    ⟨k, .ofMicros 0, 1, 0⟩

/-- The world at the end of the contest. -/
def contest : World (Fin 3) := contestTicks.foldl World.tick (.start contenders)

theorem reachable_contest : Reachable contenders contest :=
  Reachable.start.foldl (by decide +kernel)

/-- Both read the item before either commits. The second commit is lost, and the calls that are left
come to the same table one after another. -/
theorem contest_linearizable :
    (contest.touched.map fun t => (t.call, t.lost)) =
        [(0, false), (1, false), (2, false), (1, false), (2, true)] ∧
      (replay (contest.turns contenders) .empty).2 = contest.table :=
  ⟨by decide +kernel, (linearizable reachable_contest).2.1⟩

end ItemCatalog.Service
