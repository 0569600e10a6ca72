import SourceTutor.Queue.Progress

/-!
# Working through the queue

A batch takes items from the front of the queue one at a time, has each worked on, files it under
its outcome and saves the queue before the next one. A run repeats batches until nothing waits or
somebody asks it to stop. Between two items there is a pause; a request to stop lets the item in
hand finish and starts neither a pause nor another item.

What happens to an item, to a saved queue and during a pause is up to a world, which is a
parameter. The number of waiting items falls with every item, and so a run ends.
-/

set_option autoImplicit false

namespace SourceTutor

variable {σ : Type}

/-- How a queue is worked through in a world. -/
structure Scheduler (σ : Type) where
  process : String → σ → Outcome × σ
  /-- Save the queue; the answer is its new time of the last save. -/
  save : Progress → σ → Option String × σ
  stopRequested : σ → Bool
  /-- Let the time between two items pass. -/
  pause : σ → σ
  batchSize : Nat

/-- What a batch has done. -/
structure BatchResult where
  processed : Nat
  completed : Nat
  failed : Nat
  /-- Whether a request to stop ended the batch. -/
  interrupted : Bool
  deriving DecidableEq

/-- What a run has done. -/
structure RunSummary where
  /-- The batches started. -/
  batches : Nat
  processed : Nat
  completed : Nat
  failed : Nat
  remaining : Nat
  /-- Whether a request to stop ended the run. -/
  interrupted : Bool
  deriving DecidableEq

/-- Nothing done yet. -/
def BatchResult.none : BatchResult := ⟨0, 0, 0, false⟩

/-- One more item with this outcome. -/
def BatchResult.count (r : BatchResult) : Outcome → BatchResult
  | .completed => { r with processed := r.processed + 1, completed := r.completed + 1 }
  | .failed => { r with processed := r.processed + 1, failed := r.failed + 1 }

/-- Nothing done yet. -/
def RunSummary.none : RunSummary := ⟨0, 0, 0, 0, 0, false⟩

/-- One more batch. -/
def RunSummary.absorb (s : RunSummary) (r : BatchResult) : RunSummary where
  batches := s.batches + 1
  processed := s.processed + r.processed
  completed := s.completed + r.completed
  failed := s.failed + r.failed
  remaining := s.remaining
  interrupted := s.interrupted || r.interrupted

namespace Scheduler

/-- Save the queue and stamp it. -/
def saved (s : Scheduler σ) (q : Progress) (w : σ) : Progress × σ :=
  let (lastRun, w) := s.save q w
  ({ q with lastRun := lastRun }, w)

/-- Work on an item that has been taken from the queue, file it and save. -/
def handle (s : Scheduler σ) (item : String) (q : Progress) (w : σ) : Outcome × Progress × σ :=
  let (outcome, w) := s.process item w
  let (q, w) := s.saved (q.record item outcome) w
  (outcome, q, w)

/-- Work on at most `room` more items of a batch that has done `done` already. -/
def batchFrom (s : Scheduler σ) : Nat → BatchResult → Progress → σ → BatchResult × Progress × σ
  | 0, done, q, w => (done, q, w)
  | room + 1, done, q, w =>
    if s.stopRequested w then ({ done with interrupted := true }, q, w)
    else match q.pending with
      | [] => (done, q, w)
      | item :: rest =>
        let (outcome, q, w) := s.handle item { q with pending := rest } w
        let w := if room = 0 || q.pending.isEmpty || s.stopRequested w then w else s.pause w
        s.batchFrom room (done.count outcome) q w

/-- Work on one batch. -/
def runBatch (s : Scheduler σ) (q : Progress) (w : σ) : BatchResult × Progress × σ :=
  s.batchFrom s.batchSize .none q w

theorem length_pending_handle (s : Scheduler σ) (item : String) (q : Progress) (w : σ) :
    (s.handle item q w).2.1.pending.length ≤ q.pending.length := by
  simpa [handle, saved] using Progress.length_pending_record_le q item (s.process item w).1

theorem batchFrom_processed (s : Scheduler σ) (room : Nat) (done : BatchResult) (q : Progress)
    (w : σ) :
    (s.batchFrom room done q w).1.processed + (s.batchFrom room done q w).2.1.pending.length ≤
      done.processed + q.pending.length := by
  induction room generalizing done q w with
  | zero => simp [batchFrom]
  | succ room ih =>
    rw [batchFrom]
    split
    · simp
    · split
      · simp
      · rename_i item rest hq
        have h := s.length_pending_handle item { q with pending := rest } w
        have hc : ∀ o, (done.count o).processed = done.processed + 1 := by
          intro o; cases o <;> rfl
        refine Nat.le_trans (ih _ _ _) ?_
        rw [hc, hq, List.length_cons]
        exact Nat.le_trans (Nat.add_le_add_left h _)
          (show done.processed + 1 + rest.length ≤ done.processed + (rest.length + 1) by omega)

theorem runBatch_pending_lt (s : Scheduler σ) (q : Progress) (w : σ)
    (h : (s.runBatch q w).1.processed ≠ 0) :
    (s.runBatch q w).2.1.pending.length < q.pending.length := by
  have := s.batchFrom_processed s.batchSize .none q w
  have hz : BatchResult.none.processed = 0 := rfl
  unfold runBatch at h ⊢
  omega

/-- Go on with a run that has done `done` already. -/
def runFrom (s : Scheduler σ) (done : RunSummary) (q : Progress) (w : σ) :
    RunSummary × Progress × σ :=
  if q.pending.isEmpty then (done, q, w)
  else if s.stopRequested w then ({ done with interrupted := true }, q, w)
  else
    let batch := s.runBatch q w
    let done := done.absorb batch.1
    if _h : batch.1.interrupted || batch.1.processed = 0 then (done, batch.2.1, batch.2.2)
    else
      let w := batch.2.2
      let w := if batch.2.1.pending.isEmpty || s.stopRequested w then w else s.pause w
      s.runFrom done batch.2.1 w
  termination_by q.pending.length
  decreasing_by
    apply s.runBatch_pending_lt q
    simp only [Bool.or_eq_true, decide_eq_true_eq, not_or] at _h
    exact _h.2

/-- Work through the queue. -/
def run (s : Scheduler σ) (q : Progress) (w : σ) : RunSummary × Progress × σ :=
  let (summary, q, w) := s.runFrom .none q w
  ({ summary with remaining := q.pending.length }, q, w)

end Scheduler

end SourceTutor
