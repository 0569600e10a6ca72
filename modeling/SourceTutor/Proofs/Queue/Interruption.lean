import SourceTutor.Proofs.Queue.BatchSize

/-!
# What the flag of an interruption tells

A batch looks for a request to stop before it looks for an item, and a run looks for an item before
it looks for a request to stop. Where the last item fills its batch, it is the run that finds
nothing left, and the flag says no. Where the batch has room for another item, the batch looks once
more, and a request that came during the last item ends it as interrupted although nothing is left
to resume. So the flag of a run depends on whether the items happen to fill their batches
(`Scheduler.run_interrupted_iff`). A run that leaves items behind always says so
(`Scheduler.run_interrupted_of_remaining`).
-/

set_option autoImplicit false

namespace SourceTutor

variable {σ : Type}

namespace Scheduler

/-! ## A batch -/

theorem batchFrom_interrupted_iff (s : Scheduler σ) (room : Nat) (done : BatchResult)
    (hi : done.interrupted = false) (q : Progress) (w : σ) :
    (s.batchFrom room done q w).1.interrupted = true ↔
      s.stopRequested (s.batchFrom room done q w).2.2 = true ∧
        (s.batchFrom room done q w).1.processed < done.processed + room := by
  induction room generalizing done q w with
  | zero => simp [batchFrom, hi]
  | succ room ih =>
      rw [batchFrom]
      by_cases hs : s.stopRequested w = true
      · -- the request is seen while there is room
        rw [if_pos hs]
        simp [hs]
      · rw [if_neg hs]
        cases hq : q.pending with
        | nil => simp [hi, hs]
        | cons item rest =>
            have hcount : ∀ o, (done.count o).processed = done.processed + 1 := by
              intro o
              cases o <;> rfl
            have hflag : ∀ o, (done.count o).interrupted = false := by
              intro o
              cases o <;> exact hi
            have hgo := fun w' => ih _ (hflag (s.handle item { q with pending := rest } w).1)
              (s.handle item { q with pending := rest } w).2.1 w'
            simp only [hcount, Nat.add_right_comm _ 1 room] at hgo
            exact hgo _

/-- **The flag of a batch**: somebody has asked to stop, and the batch is not full. Whether an item
waits makes no difference. -/
theorem runBatch_interrupted_iff (s : Scheduler σ) (q : Progress) (w : σ) :
    (s.runBatch q w).1.interrupted = true ↔
      s.stopRequested (s.runBatch q w).2.2 = true ∧
        (s.runBatch q w).1.processed < s.batchSize := by
  have h := s.batchFrom_interrupted_iff s.batchSize .none rfl q w
  have hz : BatchResult.none.processed = 0 := rfl
  rwa [hz, Nat.zero_add] at h

/-! ## A run -/

/-- **The flag of a run**: somebody has asked to stop, and there are items left or the last batch is
not full. -/
theorem run_interrupted_iff (s : Scheduler σ) (hb : 0 < s.batchSize) (q : Progress) (w : σ) :
    (s.run q w).1.interrupted = true ↔
      s.stopRequested (s.run q w).2.2 = true ∧
        (0 < (s.run q w).1.remaining ∨ ¬ s.batchSize ∣ (s.run q w).1.processed) := by
  rw [s.run_eq_sweep hb]
  simp only [summarize, Bool.and_eq_true, Bool.or_eq_true, Bool.not_eq_true', bne_iff_ne, ne_eq,
    List.isEmpty_eq_false_iff, List.length_pos_iff, Nat.dvd_iff_mod_eq_zero]

/-- An instance: a world in which somebody asks to stop, and two items at a time. -/
theorem run_interrupted_iff_counting :
    let q : Progress := ⟨["a.c", "b.c", "c.c", "d.c", "e.c"], [], [], none⟩
    0 < (counting.inBatches 2).batchSize ∧
      (((counting.inBatches 2).run q 0).1.interrupted = true ↔
        (counting.inBatches 2).stopRequested ((counting.inBatches 2).run q 0).2.2 = true ∧
          (0 < ((counting.inBatches 2).run q 0).1.remaining ∨
            ¬ (counting.inBatches 2).batchSize ∣ ((counting.inBatches 2).run q 0).1.processed)) :=
  ⟨by decide, (counting.inBatches 2).run_interrupted_iff (by decide) _ 0⟩

/-- A run that leaves items behind says that it was interrupted. -/
theorem run_interrupted_of_remaining (s : Scheduler σ) (hb : 0 < s.batchSize) (q : Progress)
    (w : σ) (h : 0 < (s.run q w).1.remaining) : (s.run q w).1.interrupted = true := by
  have hstop := (s.inOrder hb q w).ended.resolve_left (Nat.ne_of_gt h)
  rw [s.run_eq_sweep hb] at h hstop ⊢
  have hq : (s.sweep q w).2.1.pending ≠ [] := List.length_pos_iff.mp h
  simp only [summarize, Bool.and_eq_true, Bool.or_eq_true, Bool.not_eq_true',
    List.isEmpty_eq_false_iff]
  exact ⟨hstop, .inl hq⟩

/-! ## A request during the last item -/

/-- A world in which somebody asks to stop as soon as an item is worked on. -/
def hasty : Scheduler Bool where
  process _ _ := (.completed, true)
  save _ w := (none, w)
  stopRequested w := w
  pause w := w
  batchSize := 1

/-- A run over a single item, during which somebody asks to stop: nothing is left, and only with
room for a second item in the batch does the flag call the run interrupted. -/
theorem hasty_run (size : Nat) (hb : 0 < size) :
    let out := (hasty.inBatches size).run ⟨["a.c"], [], [], none⟩ false
    out.1.interrupted = (1 % size != 0) ∧ out.1.remaining = 0 ∧
      (hasty.inBatches size).stopRequested out.2.2 = true := by
  have hsweep : hasty.sweep ⟨["a.c"], [], [], none⟩ false =
      ([("a.c", .completed)], ⟨[], ["a.c"], [], none⟩, true) := by
    have hend : hasty.sweep ⟨[], ["a.c"], [], none⟩ true = ([], ⟨[], ["a.c"], [], none⟩, true) :=
      hasty.sweep_of_stopRequested _ rfl
    rw [hasty.sweep_of_pending_cons rfl rfl]
    exact congrArg (fun more => (("a.c", Outcome.completed) :: more.1, more.2)) hend
  intro out
  have hout : out = ((hasty.inBatches size).summarize [("a.c", .completed)]
      ⟨[], ["a.c"], [], none⟩ true, ⟨[], ["a.c"], [], none⟩, true) := by
    have hrun := (hasty.inBatches size).run_eq_sweep hb ⟨["a.c"], [], [], none⟩ false
    rwa [sweep_inBatches, hsweep] at hrun
  rw [hout]
  simp [summarize, inBatches, hasty]

/-- **The flag is not the request to stop and something left**: with room for two items in the
batch, a request during a single item sets it. -/
theorem run_interrupted_with_nothing_left :
    ¬ ∀ (s : Scheduler Bool) (q : Progress) (w : Bool), 0 < s.batchSize →
      ((s.run q w).1.interrupted = true ↔
        s.stopRequested (s.run q w).2.2 = true ∧ 0 < (s.run q w).1.remaining) := by
  intro h
  obtain ⟨hflag, hleft, -⟩ := hasty_run 2 (by decide)
  have hwrong := (h (hasty.inBatches 2) ⟨["a.c"], [], [], none⟩ false (by decide)).mp hflag
  rw [hleft] at hwrong
  exact Nat.lt_irrefl 0 hwrong.2

end Scheduler

end SourceTutor
