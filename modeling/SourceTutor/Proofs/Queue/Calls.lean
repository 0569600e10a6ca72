import SourceTutor.Proofs.Queue.Sweep

/-!
# What a run asks of the world

A scheduler works on an item, saves the queue or pauses. `Call` is such a request together with the
world at which it is made, and so with the time, whatever clock the world has. A scheduler that
takes note of its calls does the same as one that does not (`Scheduler.run_noting`), and
`Scheduler.runCalls` and `Scheduler.batchCalls` are the calls of a run and of a batch, in order.

`Scheduler.Course` says in small steps how such calls come about: an item is worked on and the queue
saved, and a pause has to follow before the next item. What holds along a course is proved by
induction on it, and every run and batch is a course (`Scheduler.course_run`,
`Scheduler.course_runBatch`).
-/

set_option autoImplicit false

namespace SourceTutor

variable {σ : Type}

/-- What a scheduler asks of the world, and the world at that moment. -/
inductive Call (σ : Type) where
  | process (item : String) (w : σ)
  | save (q : Progress) (w : σ)
  | pause (w : σ)

namespace Call

/-- The item that is worked on. -/
def item? : Call σ → Option String
  | .process item _ => some item
  | _ => none

/-- The queue that is saved. -/
def saved? : Call σ → Option Progress
  | .save q _ => some q
  | _ => none

end Call

/-- The items worked on, in order. -/
def handed (calls : List (Call σ)) : List String := calls.filterMap Call.item?

/-- The queues saved, in order. -/
def savedQueues (calls : List (Call σ)) : List Progress := calls.filterMap Call.saved?

@[simp] theorem handed_nil : handed ([] : List (Call σ)) = [] := rfl

@[simp] theorem handed_process (item : String) (w : σ) (calls : List (Call σ)) :
    handed (.process item w :: calls) = item :: handed calls := rfl

@[simp] theorem handed_save (q : Progress) (w : σ) (calls : List (Call σ)) :
    handed (.save q w :: calls) = handed calls := rfl

@[simp] theorem handed_pause (w : σ) (calls : List (Call σ)) :
    handed (.pause w :: calls) = handed calls := rfl

@[simp] theorem handed_append (calls more : List (Call σ)) :
    handed (calls ++ more) = handed calls ++ handed more := List.filterMap_append

@[simp] theorem savedQueues_nil : savedQueues ([] : List (Call σ)) = [] := rfl

@[simp] theorem savedQueues_process (item : String) (w : σ) (calls : List (Call σ)) :
    savedQueues (.process item w :: calls) = savedQueues calls := rfl

@[simp] theorem savedQueues_save (q : Progress) (w : σ) (calls : List (Call σ)) :
    savedQueues (.save q w :: calls) = q :: savedQueues calls := rfl

@[simp] theorem savedQueues_pause (w : σ) (calls : List (Call σ)) :
    savedQueues (.pause w :: calls) = savedQueues calls := rfl

@[simp] theorem savedQueues_append (calls more : List (Call σ)) :
    savedQueues (calls ++ more) = savedQueues calls ++ savedQueues more := List.filterMap_append

namespace Scheduler

/-- The scheduler that takes note of its calls. -/
def noting (s : Scheduler σ) : Scheduler (σ × List (Call σ)) where
  process item v :=
    ((s.process item v.1).1, (s.process item v.1).2, v.2 ++ [.process item v.1])
  save q v := ((s.save q v.1).1, (s.save q v.1).2, v.2 ++ [.save q v.1])
  stopRequested v := s.stopRequested v.1
  pause v := (s.pause v.1, v.2 ++ [.pause v.1])
  batchSize := s.batchSize

/-- The calls of a run, in order. -/
def runCalls (s : Scheduler σ) (q : Progress) (w : σ) : List (Call σ) :=
  (s.noting.run q (w, [])).2.2.2

/-- The calls of a batch, in order. -/
def batchCalls (s : Scheduler σ) (q : Progress) (w : σ) : List (Call σ) :=
  (s.noting.runBatch q (w, [])).2.2.2

/-! ## Taking note changes nothing -/

/-- The outcome without the notes. -/
def unnoted {α : Type} (out : α × Progress × (σ × List (Call σ))) : α × Progress × σ :=
  (out.1, out.2.1, out.2.2.1)

theorem batchFrom_noting (s : Scheduler σ) (room : Nat) (r : BatchResult) (q : Progress)
    (v : σ × List (Call σ)) :
    unnoted (s.noting.batchFrom room r q v) = s.batchFrom room r q v.1 := by
  induction room generalizing r q v with
  | zero => rfl
  | succ room ih =>
      have hv : s.noting.stopRequested v = s.stopRequested v.1 := rfl
      rw [batchFrom, batchFrom, hv]
      by_cases hs : s.stopRequested v.1
      · rw [if_pos hs, if_pos hs]
        rfl
      · rw [if_neg hs, if_neg hs]
        cases hq : q.pending with
        | nil => rfl
        | cons item rest =>
            simp only [ih, apply_ite Prod.fst]
            rfl

theorem runBatch_noting (s : Scheduler σ) (q : Progress) (v : σ × List (Call σ)) :
    unnoted (s.noting.runBatch q v) = s.runBatch q v.1 :=
  s.batchFrom_noting s.batchSize .none q v

theorem runFrom_noting (s : Scheduler σ) (done : RunSummary) (q : Progress)
    (v : σ × List (Call σ)) :
    unnoted (s.noting.runFrom done q v) = s.runFrom done q v.1 := by
  have hv : ∀ v, s.noting.stopRequested v = s.stopRequested v.1 := fun _ => rfl
  have hb : ∀ q v, s.runBatch q v.1 = unnoted (s.noting.runBatch q v) := fun q v =>
    (s.runBatch_noting q v).symm
  induction done, q, v using runFrom.induct s.noting with
  | case1 done q v hq =>
      rw [runFrom_eq, runFrom_eq, if_pos hq, if_pos hq]
      rfl
  | case2 done q v hq hs =>
      rw [runFrom_eq, runFrom_eq, if_neg hq, if_neg hq, if_pos hs, if_pos (hv v ▸ hs)]
      rfl
  | case3 done q v hq hs batch h =>
      rw [runFrom_eq, runFrom_eq, if_neg hq, if_neg hq, if_neg hs, if_neg (hv v ▸ hs), hb, resume,
        resume]
      rw [if_pos h]
      exact (if_pos h).symm
  | case4 done q v hq hs batch done' h v₁ v₂ ih =>
      -- the batch goes on with the next one, and the pause before it is noted as well
      have hrest : (s.noting.restAfter batch.2.1 batch.2.2).1 =
          s.restAfter batch.2.1 batch.2.2.1 := by
        simp only [restAfter, apply_ite Prod.fst, hv]
        rfl
      rw [runFrom_eq, runFrom_eq, if_neg hq, if_neg hq, if_neg hs, if_neg (hv v ▸ hs), hb, resume,
        resume]
      rw [if_neg h]
      refine Eq.trans ?_ (if_neg h).symm
      show _ = s.runFrom done' batch.2.1 (s.restAfter batch.2.1 batch.2.2.1)
      rw [← hrest]
      exact ih

/-- **Taking note changes nothing**: a run that takes note of its calls comes to the same. -/
theorem run_noting (s : Scheduler σ) (q : Progress) (v : σ × List (Call σ)) :
    unnoted (s.noting.run q v) = s.run q v.1 := by
  simp only [run, ← runFrom_noting]
  rfl

/-- The run that takes note of its calls, as a sweep. -/
theorem run_eq_sweep_noting (s : Scheduler σ) (hb : 0 < s.batchSize) (q : Progress) (w : σ) :
    s.run q w =
      (s.summarize (s.noting.sweep q (w, [])).1 (s.noting.sweep q (w, [])).2.1
          (s.noting.sweep q (w, [])).2.2.1,
        (s.noting.sweep q (w, [])).2.1, (s.noting.sweep q (w, [])).2.2.1) := by
  rw [← s.run_noting q (w, []), s.noting.run_eq_sweep hb]
  rfl

theorem runCalls_eq_sweep (s : Scheduler σ) (hb : 0 < s.batchSize) (q : Progress) (w : σ) :
    s.runCalls q w = (s.noting.sweep q (w, [])).2.2.2 := by
  rw [runCalls, s.noting.run_eq_sweep hb]

/-! ## Courses -/

/-- Whether an item may be taken next, or a pause is due. -/
inductive Pace where
  /-- Nothing has been worked on since the last pause. -/
  | rested
  /-- An item has been worked on since the last pause. -/
  | worked

/-- The calls made so far, the queue and the world they lead to, when the queue and the world were
`q₀` and `w₀` at the start. -/
inductive Course (s : Scheduler σ) (q₀ : Progress) (w₀ : σ) :
    Pace → List (Call σ) → Progress → σ → Prop where
  | start : Course s q₀ w₀ .rested [] q₀ w₀
  | item {calls q w item waiting} : Course s q₀ w₀ .rested calls q w →
      q.pending = item :: waiting → s.stopRequested w = false →
      Course s q₀ w₀ .worked
        (calls ++ [.process item w,
          .save ({ q with pending := waiting }.record item (s.process item w).1)
            (s.process item w).2])
        (s.handle item { q with pending := waiting } w).2.1
        (s.handle item { q with pending := waiting } w).2.2
  | pause {calls q w} : Course s q₀ w₀ .worked calls q w →
      q.pending ≠ [] → s.stopRequested w = false →
      Course s q₀ w₀ .rested (calls ++ [.pause w]) q (s.pause w)

variable {s : Scheduler σ} {q₀ : Progress} {w₀ : σ}

/-- The world when an item has been worked on is the one behind the save. -/
theorem handle_world (s : Scheduler σ) (item : String) (q : Progress) (w : σ) :
    (s.handle item q w).2.2 =
      (s.save (q.record item (s.process item w).1) (s.process item w).2).2 := rfl

/-- A course that may go on: no pause is due where an item could be taken next. -/
def Goes (s : Scheduler σ) (q₀ : Progress) (w₀ : σ) (calls : List (Call σ)) (q : Progress)
    (w : σ) : Prop :=
  ∃ pace, Course s q₀ w₀ pace calls q w ∧
    (q.pending ≠ [] → s.stopRequested w = false → pace = .rested)

theorem goes_start (s : Scheduler σ) (q₀ : Progress) (w₀ : σ) : Goes s q₀ w₀ [] q₀ w₀ :=
  ⟨.rested, .start, fun _ _ => rfl⟩

/-- A course goes on behind an item once the pause has been made. -/
theorem Course.goes_restAfter {calls : List (Call σ)} {q : Progress} {w : σ}
    (h : Course s q₀ w₀ .worked calls q w) :
    Goes s q₀ w₀ (s.noting.restAfter q (w, calls)).2 q (s.noting.restAfter q (w, calls)).1 := by
  have hv : s.noting.stopRequested (w, calls) = s.stopRequested w := rfl
  by_cases hend : q.pending.isEmpty || s.stopRequested w
  · -- no pause is made, but then no item is taken either
    rw [Scheduler.restAfter, hv, if_pos hend]
    refine ⟨.worked, h, fun hq hs => ?_⟩
    simp [hq, hs] at hend
  · rw [Scheduler.restAfter, hv, if_neg hend]
    simp only [Bool.or_eq_true, List.isEmpty_iff, not_or, Bool.not_eq_true] at hend
    exact ⟨.rested, .pause h hend.1 hend.2, fun _ _ => rfl⟩

/-- A course that goes on takes the next item. -/
theorem Goes.item {calls : List (Call σ)} {q : Progress} {w : σ} {item : String}
    {waiting : List String} (h : Goes s q₀ w₀ calls q w) (hq : q.pending = item :: waiting)
    (hs : s.stopRequested w = false) :
    Course s q₀ w₀ .worked
      (s.noting.handle item { q with pending := waiting } (w, calls)).2.2.2
      (s.noting.handle item { q with pending := waiting } (w, calls)).2.1
      (s.noting.handle item { q with pending := waiting } (w, calls)).2.2.1 := by
  obtain ⟨pace, hc, hpace⟩ := h
  obtain rfl : pace = .rested := hpace (by simp [hq]) hs
  have hcalls : (s.noting.handle item { q with pending := waiting } (w, calls)).2.2.2 =
      calls ++ [.process item w,
        .save ({ q with pending := waiting }.record item (s.process item w).1)
          (s.process item w).2] := by
    simp [handle, saved, noting]
  rw [hcalls]
  exact .item hc hq hs

theorem goes_sweep {q : Progress} (v : σ × List (Call σ)) (h : Goes s q₀ w₀ v.2 q v.1) :
    Goes s q₀ w₀ (s.noting.sweep q v).2.2.2 (s.noting.sweep q v).2.1
      (s.noting.sweep q v).2.2.1 := by
  induction q, v using sweep.induct s.noting with
  | case1 q v hq => rwa [s.noting.sweep_of_pending_nil v hq]
  | case2 q v item waiting hq hs => rwa [s.noting.sweep_of_stopRequested q hs]
  | case3 q v item waiting hq hs out ih =>
      have hs' : s.noting.stopRequested v = false := by simpa using hs
      rw [s.noting.sweep_of_pending_cons hq hs']
      exact ih (h.item hq hs').goes_restAfter

theorem goes_batchFrom (room : Nat) (r : BatchResult) {q : Progress} (v : σ × List (Call σ))
    (h : Goes s q₀ w₀ v.2 q v.1) :
    ∃ pace, Course s q₀ w₀ pace (s.noting.batchFrom room r q v).2.2.2
      (s.noting.batchFrom room r q v).2.1 (s.noting.batchFrom room r q v).2.2.1 := by
  induction room generalizing r q v with
  | zero => exact ⟨h.choose, h.choose_spec.1⟩
  | succ room ih =>
      rw [batchFrom]
      by_cases hs : s.noting.stopRequested v
      · rw [if_pos hs]
        exact ⟨h.choose, h.choose_spec.1⟩
      · rw [if_neg hs]
        cases hq : q.pending with
        | nil => exact ⟨h.choose, h.choose_spec.1⟩
        | cons item waiting =>
            have hs' : s.stopRequested v.1 = false := (Bool.not_eq_true _).mp hs
            have hitem := h.item hq hs'
            cases room with
            | zero => exact ⟨.worked, hitem⟩ -- behind the last item of a batch there is no pause
            | succ room =>
                have hgo := hitem.goes_restAfter
                simp only [Nat.add_eq_zero_iff, Nat.one_ne_zero, and_false, decide_false,
                  Bool.false_or]
                exact ih _ _ hgo

/-- **Every run is a course**, whatever the size of its batches. -/
theorem course_run (s : Scheduler σ) (q : Progress) (w : σ) :
    ∃ pace, Course s q w pace (s.runCalls q w) (s.run q w).2.1 (s.run q w).2.2 := by
  have hq : (s.run q w).2.1 = (s.noting.run q (w, [])).2.1 := by
    rw [← s.run_noting q (w, [])]
    rfl
  have hw : (s.run q w).2.2 = (s.noting.run q (w, [])).2.2.1 := by
    rw [← s.run_noting q (w, [])]
    rfl
  rw [hq, hw, runCalls]
  by_cases hb : s.batchSize = 0
  · rw [s.noting.run_of_batchSize_zero hb]
    exact ⟨.rested, .start⟩
  · rw [s.noting.run_eq_sweep (Nat.pos_of_ne_zero hb)]
    have hgo : Goes s q w (s.noting.sweep q (w, [])).2.2.2 (s.noting.sweep q (w, [])).2.1
        (s.noting.sweep q (w, [])).2.2.1 := goes_sweep (w, []) (goes_start s q w)
    exact ⟨hgo.choose, hgo.choose_spec.1⟩

/-- Every batch is a course. -/
theorem course_runBatch (s : Scheduler σ) (q : Progress) (w : σ) :
    ∃ pace, Course s q w pace (s.batchCalls q w) (s.runBatch q w).2.1 (s.runBatch q w).2.2 := by
  have h := goes_batchFrom s.batchSize .none (w, []) (goes_start s q w)
  rw [← s.runBatch_noting q (w, [])]
  exact h

/-! ## From a call on -/

section

variable {q : Progress} {w w₁ : σ} {pace : Pace} {calls before after : List (Call σ)}
  {item : String}

/-- Where an element stands in two lists joined. -/
theorem cases_of_append_eq {α : Type} {xs ys before after : List α} {x : α}
    (h : xs ++ ys = before ++ x :: after) :
    (∃ more, before = xs ++ more ∧ ys = more ++ x :: after) ∨
      ∃ more, xs = before ++ x :: more ∧ after = more ++ ys := by
  rcases List.append_eq_append_iff.mp h with ⟨more, rfl, hys⟩ | ⟨more, rfl, hmore⟩
  · exact .inl ⟨more, rfl, hys⟩
  · cases more with
    | nil => exact .inl ⟨[], by simp, hmore.symm⟩
    | cons first more =>
        obtain ⟨rfl, rfl⟩ := List.cons.inj hmore
        exact .inr ⟨more, rfl, rfl⟩

/-- **What holds from a call on**: it holds when the item has been worked on and saved, and each
later step of the run keeps it. -/
theorem Course.behind {P : List (Call σ) → Progress → σ → Prop}
    (hitem : ∀ {q waiting}, Course s q₀ w₀ .rested before q w₁ → q.pending = item :: waiting →
      P [.save ({ q with pending := waiting }.record item (s.process item w₁).1)
          (s.process item w₁).2]
        (s.handle item { q with pending := waiting } w₁).2.1
        (s.handle item { q with pending := waiting } w₁).2.2)
    (hnext : ∀ {after q w other waiting}, P after q w → q.pending = other :: waiting →
      P (after ++ [.process other w,
          .save ({ q with pending := waiting }.record other (s.process other w).1)
            (s.process other w).2])
        (s.handle other { q with pending := waiting } w).2.1
        (s.handle other { q with pending := waiting } w).2.2)
    (hpause : ∀ {after q w}, P after q w → P (after ++ [.pause w]) q (s.pause w))
    (h : Course s q₀ w₀ pace calls q w) (hcalls : calls = before ++ .process item w₁ :: after) :
    P after q w := by
  induction h generalizing after with
  | start => simp at hcalls
  | @item calls q w other waiting hcourse hq _ ih =>
      rcases cases_of_append_eq hcalls with ⟨more, rfl, hlast⟩ | ⟨more, rfl, rfl⟩
      · -- the call is the last one but for the save behind it
        rcases more with _ | ⟨first, more⟩
        · obtain ⟨hcall, rfl⟩ := List.cons.inj hlast
          cases hcall
          exact hitem (by rwa [List.append_nil]) hq
        · obtain ⟨_, hsave⟩ := List.cons.inj hlast
          cases more with
          | nil => cases hsave
          | cons second more => simp at hsave
      · exact hnext (ih rfl) hq
  | pause _ _ _ ih =>
      rcases cases_of_append_eq hcalls with ⟨more, _, hlast⟩ | ⟨more, rfl, rfl⟩
      · cases more with
        | nil => cases hlast
        | cons first more => simp at hlast
      · exact hpause (ih rfl)

end

end Scheduler

end SourceTutor
