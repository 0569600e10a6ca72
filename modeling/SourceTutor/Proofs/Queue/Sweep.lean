import SourceTutor.Queue.Schedule

/-!
# A run without its batches

`Scheduler.sweep` takes the items of the queue one after the other, with no batches at all: while
something waits and nobody asks to stop, an item is handled and a pause follows. It lists the items
handled with their outcomes. `Scheduler.run_eq_sweep` says that a run in batches of any size but
zero is the sweep together with the counts of what the sweep lists, so that the batch size enters
into a run only through the number of batches and through the flag that tells of an interruption.
-/

set_option autoImplicit false

namespace SourceTutor

variable {σ : Type}

namespace Scheduler

/-- What follows an item: a pause, unless nothing waits or somebody asks to stop. -/
def restAfter (s : Scheduler σ) (q : Progress) (w : σ) : σ :=
  if q.pending.isEmpty || s.stopRequested w then w else s.pause w

/-- Handle the waiting items until none is left or somebody asks to stop. The first component lists
the items handled and their outcomes. -/
def sweep (s : Scheduler σ) (q : Progress) (w : σ) : List (String × Outcome) × Progress × σ :=
  match _h : q.pending with
  | [] => ([], q, w)
  | item :: rest =>
    if s.stopRequested w then ([], q, w)
    else
      let handled := s.handle item { q with pending := rest } w
      let more := s.sweep handled.2.1 (s.restAfter handled.2.1 handled.2.2)
      ((item, handled.1) :: more.1, more.2)
  termination_by q.pending.length
  decreasing_by
    have := s.length_pending_handle item { q with pending := rest } w
    simp only [_h, List.length_cons]
    exact Nat.lt_succ_of_le this

/-- The number of items with this outcome. -/
def tally (items : List (String × Outcome)) (o : Outcome) : Nat := items.countP (·.2 = o)

/-! ## The equations of a sweep -/

theorem sweep_of_pending_nil (s : Scheduler σ) {q : Progress} (w : σ) (hq : q.pending = []) :
    s.sweep q w = ([], q, w) := by
  rw [sweep.eq_def]
  split
  · rfl
  · rename_i item rest h
    rw [hq] at h
    cases h

theorem sweep_of_stopRequested (s : Scheduler σ) (q : Progress) {w : σ}
    (hs : s.stopRequested w = true) : s.sweep q w = ([], q, w) := by
  rw [sweep.eq_def]
  split
  · rfl
  · rw [if_pos hs]

theorem sweep_of_pending_cons (s : Scheduler σ) {q : Progress} {w : σ} {item : String}
    {rest : List String} (hq : q.pending = item :: rest) (hs : s.stopRequested w = false) :
    s.sweep q w =
      ((item, (s.handle item { q with pending := rest } w).1) ::
        (s.sweep (s.handle item { q with pending := rest } w).2.1
          (s.restAfter (s.handle item { q with pending := rest } w).2.1
            (s.handle item { q with pending := rest } w).2.2)).1,
       (s.sweep (s.handle item { q with pending := rest } w).2.1
          (s.restAfter (s.handle item { q with pending := rest } w).2.1
            (s.handle item { q with pending := rest } w).2.2)).2) := by
  rw [sweep.eq_def]
  split
  · rename_i h
    rw [hq] at h
    cases h
  · rename_i item' rest' h
    rw [hq] at h
    cases h
    simp [hs]

/-! ## Runs and sweeps

`resume` is what a run does once a batch is over, and `extended` is what its counts come to when
the items of a sweep are added to a batch under way. The induction of `resume_batchFrom` follows the
sweep, with room for at least one more item in the batch: the end of a batch may fall between any
two items, and there the batch is added to the run and an empty one takes its place. -/

/-- Go on with a run, behind a batch. -/
def resume (s : Scheduler σ) (done : RunSummary) (batch : BatchResult × Progress × σ) :
    RunSummary × Progress × σ :=
  if batch.1.interrupted || batch.1.processed = 0 then
    (done.absorb batch.1, batch.2.1, batch.2.2)
  else s.runFrom (done.absorb batch.1) batch.2.1 (s.restAfter batch.2.1 batch.2.2)

/-- The summary of a run that has done `done` before a batch and `r` in it, when a sweep from there
comes to `out`. -/
def extended (s : Scheduler σ) (done : RunSummary) (r : BatchResult)
    (out : List (String × Outcome) × Progress × σ) : RunSummary where
  batches := done.batches + (r.processed + out.1.length + s.batchSize - 1) / s.batchSize
  processed := done.processed + r.processed + out.1.length
  completed := done.completed + r.completed + tally out.1 .completed
  failed := done.failed + r.failed + tally out.1 .failed
  remaining := done.remaining
  interrupted := done.interrupted || (s.stopRequested out.2.2 &&
    (!out.2.1.pending.isEmpty || (r.processed + out.1.length) % s.batchSize != 0))

theorem runFrom_eq (s : Scheduler σ) (done : RunSummary) (q : Progress) (w : σ) :
    s.runFrom done q w =
      if q.pending.isEmpty then (done, q, w)
      else if s.stopRequested w then ({ done with interrupted := true }, q, w)
      else s.resume done (s.runBatch q w) := by
  rw [runFrom]
  simp only [resume, restAfter, dite_eq_ite]

theorem extended_cons (s : Scheduler σ) (done : RunSummary) (r : BatchResult) (item : String)
    (o : Outcome) (items : List (String × Outcome)) (end_ : Progress × σ) :
    s.extended done r ((item, o) :: items, end_) = s.extended done (r.count o) (items, end_) := by
  cases o <;>
    simp [extended, BatchResult.count, tally, Nat.add_assoc, Nat.add_comm, Nat.add_left_comm]

/-- A full batch may be added to the run before the sweep goes on. -/
theorem extended_absorb (s : Scheduler σ) (hb : 0 < s.batchSize) (done : RunSummary)
    {r : BatchResult} (hr : r.processed = s.batchSize) (hi : r.interrupted = false)
    (out : List (String × Outcome) × Progress × σ) :
    s.extended (done.absorb r) .none out = s.extended done r out := by
  -- a full batch is one batch, whatever follows
  have hdiv : (s.batchSize + out.1.length + s.batchSize - 1) / s.batchSize =
      (out.1.length + s.batchSize - 1) / s.batchSize + 1 := by
    rw [← Nat.add_div_right _ hb]
    congr 1
    omega
  simp only [extended, RunSummary.absorb, BatchResult.none, hr, hi, hdiv, Nat.add_mod_left,
    Bool.or_false, Nat.zero_add, Nat.add_zero, RunSummary.mk.injEq, and_true]
  omega

/-- A batch that is neither empty nor full counts as a batch, and as interrupted if somebody asks to
stop. -/
theorem extended_nil (s : Scheduler σ) (done : RunSummary) {r : BatchResult} (q : Progress) (w : σ)
    (hr : r.processed ≠ 0) (hlt : r.processed < s.batchSize) :
    s.extended done r ([], q, w) =
      done.absorb { r with interrupted := s.stopRequested w } := by
  have hne : (r.processed != 0) = true := bne_iff_ne.mpr hr
  have hdiv : (r.processed + s.batchSize - 1) / s.batchSize = 1 := by
    refine Nat.div_eq_of_lt_le ?_ ?_ <;> omega
  simp [extended, RunSummary.absorb, tally, hdiv, Nat.mod_eq_of_lt hlt, hne]

/-- What a run does before a batch, when `resume` is known for the batch. -/
theorem runFrom_eq_extended (s : Scheduler σ) (hb : 0 < s.batchSize) (done : RunSummary)
    (q : Progress) (w : σ)
    (hbatch : q.pending ≠ [] → s.stopRequested w = false →
      s.resume done (s.runBatch q w) = (s.extended done .none (s.sweep q w), (s.sweep q w).2)) :
    s.runFrom done q w = (s.extended done .none (s.sweep q w), (s.sweep q w).2) := by
  have hnone : (s.batchSize - 1) / s.batchSize = 0 := Nat.div_eq_of_lt (by omega)
  rw [runFrom_eq]
  by_cases hq : q.pending = []
  · simp [s.sweep_of_pending_nil w hq, extended, BatchResult.none, tally, hq, hnone]
  · rw [if_neg (by simpa using hq)]
    by_cases hs : s.stopRequested w
    · simp [s.sweep_of_stopRequested q hs, extended, BatchResult.none, tally, hq, hs, hnone]
    · rw [if_neg hs]
      exact hbatch hq (by simpa using hs)

theorem resume_batchFrom (s : Scheduler σ) (hb : 0 < s.batchSize) (q : Progress) (w : σ)
    (room : Nat) (done : RunSummary) (r : BatchResult) (hi : r.interrupted = false)
    (hroom : r.processed + room + 1 = s.batchSize)
    (hstart : r.processed = 0 → q.pending ≠ [] ∧ s.stopRequested w = false) :
    s.resume done (s.batchFrom (room + 1) r q w) =
      (s.extended done r (s.sweep q w), (s.sweep q w).2) := by
  induction q, w using sweep.induct s generalizing room done r with
  | case1 q w hq =>
      -- nothing waits: the batch under way is the last one, and it is not empty
      have hr : r.processed ≠ 0 := fun h => (hstart h).1 hq
      rw [s.sweep_of_pending_nil w hq, s.extended_nil done q w hr (by omega), batchFrom, hq]
      by_cases hs : s.stopRequested w
      · simp [resume, hs]
      · have hsame : { r with interrupted := false } = r := by rw [← hi]
        simp [resume, hs, hi, hr, runFrom_eq, hq, restAfter, hsame]
  | case2 q w item rest hq hs =>
      -- somebody asks to stop, which interrupts the batch under way
      have hr : r.processed ≠ 0 := fun h => by simp [hs] at hstart; omega
      rw [s.sweep_of_stopRequested q hs, s.extended_nil done q w hr (by omega), batchFrom]
      simp [resume, hs]
  | case3 q w item rest hq hs handled ih =>
      have hs' : s.stopRequested w = false := by simpa using hs
      have hcount : (r.count handled.1).processed = r.processed + 1 := by
        cases handled.1 <;> rfl
      have hflag : (r.count handled.1).interrupted = false := by
        cases handled.1 <;> exact hi
      rw [s.sweep_of_pending_cons hq hs', extended_cons, batchFrom, hq]
      simp only [hs', Bool.false_eq_true, if_false]
      cases room with
      | succ room =>
          -- there is room for another item, and the batch goes on behind a pause
          have hrest : (if decide (room + 1 = 0) || handled.2.1.pending.isEmpty ||
              s.stopRequested handled.2.2 then handled.2.2 else s.pause handled.2.2) =
              s.restAfter handled.2.1 handled.2.2 := by
            simp [restAfter]
          have hgo := ih room done (r.count handled.1) hflag (by omega) (by omega)
          rw [← hrest] at hgo
          exact hgo
      | zero =>
          -- the batch is full: it is added to the run, which looks again before it starts another
          have hfull : (r.count handled.1).processed = s.batchSize := by omega
          have hne : (r.count handled.1).processed ≠ 0 := by omega
          rw [← s.extended_absorb hb done hfull hflag, batchFrom]
          simp only [decide_true, Bool.true_or, if_true]
          change s.resume done (r.count handled.1, handled.2.1, handled.2.2) = _
          have hgo : ¬ ((r.count handled.1).interrupted ||
              decide ((r.count handled.1).processed = 0)) = true := by
            simp [hflag, hne]
          rw [resume, if_neg hgo]
          refine s.runFrom_eq_extended hb _ _ _ fun hq₁ hs₁ => ?_
          have hsize : s.batchSize - 1 + 1 = s.batchSize := Nat.sub_add_cancel hb
          have hgo := ih (s.batchSize - 1) (done.absorb (r.count handled.1)) .none rfl
            (by simp only [BatchResult.none]; omega) fun _ => ⟨hq₁, hs₁⟩
          rw [hsize] at hgo
          exact hgo

/-- What a run in batches comes to, when the items it handles are listed. -/
def summarize (s : Scheduler σ) (items : List (String × Outcome)) (q : Progress) (w : σ) :
    RunSummary where
  batches := (items.length + s.batchSize - 1) / s.batchSize
  processed := items.length
  completed := tally items .completed
  failed := tally items .failed
  remaining := q.pending.length
  interrupted := s.stopRequested w && (!q.pending.isEmpty || items.length % s.batchSize != 0)

/-- **A run is its sweep, summarized.** The size of the batches matters for their number and for
the flag that tells of an interruption, and for nothing else. -/
theorem run_eq_sweep (s : Scheduler σ) (hb : 0 < s.batchSize) (q : Progress) (w : σ) :
    s.run q w =
      (s.summarize (s.sweep q w).1 (s.sweep q w).2.1 (s.sweep q w).2.2, (s.sweep q w).2) := by
  have hrun : s.runFrom .none q w =
      (s.extended .none .none (s.sweep q w), (s.sweep q w).2) := by
    refine s.runFrom_eq_extended hb _ _ _ fun hq hs => ?_
    have hsize : s.batchSize - 1 + 1 = s.batchSize := Nat.sub_add_cancel hb
    have hgo := s.resume_batchFrom hb q w (s.batchSize - 1) .none .none rfl
      (by simp only [BatchResult.none]; omega) fun _ => ⟨hq, hs⟩
    rw [hsize] at hgo
    exact hgo
  simp only [run, hrun]
  simp [summarize, extended, RunSummary.none, BatchResult.none]

/-- A run of a queue in which one item waits comes to handling it, unless the item is to wait
again. -/
theorem run_of_pending_singleton (s : Scheduler σ) (hb : 0 < s.batchSize) {q : Progress} {w : σ}
    {item : String} (hq : q.pending = [item]) (hs : s.stopRequested w = false)
    (hend : (s.handle item { q with pending := [] } w).2.1.pending = []) :
    (s.run q w).2 = (s.handle item { q with pending := [] } w).2 := by
  rw [s.run_eq_sweep hb, s.sweep_of_pending_cons hq hs, s.sweep_of_pending_nil _ hend, restAfter,
    hend, List.isEmpty_nil, Bool.true_or, if_pos rfl]

/-- A run in batches of no items does nothing. -/
theorem run_of_batchSize_zero (s : Scheduler σ) (hb : s.batchSize = 0) (q : Progress) (w : σ) :
    (s.run q w).2 = (q, w) := by
  have hbatch : s.runBatch q w = (.none, q, w) := by rw [runBatch, hb, batchFrom]
  rw [run, runFrom_eq, hbatch]
  by_cases hq : q.pending.isEmpty
  · rw [if_pos hq]
  · rw [if_neg hq]
    by_cases hs : s.stopRequested w
    · rw [if_pos hs]
    · rw [if_neg hs]
      rfl

end Scheduler

end SourceTutor
