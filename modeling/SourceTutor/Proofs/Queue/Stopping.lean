import SourceTutor.Proofs.Queue.Advance
import SourceTutor.Proofs.Queue.Keeping

/-!
# Stopping

Somebody may ask a run to stop before it starts, while an item is worked on, while the queue is saved
or during a pause, and a request cannot be taken back (`Scheduler.RequestStands`). Whenever the request
comes, the item in hand is finished, filed and saved, and then nothing more happens: no item is
begun and no pause (`Scheduler.stops_gracefully`). What has not been begun waits in its old order,
and the queue in memory is the one saved last.

The moments of a run are those before, between and behind its calls. A world changes in calls only,
so a request that comes up during a call stands at the moment behind it.
-/

set_option autoImplicit false

namespace SourceTutor

variable {σ : Type}

/-- The world that a call leads to. -/
def Call.next (s : Scheduler σ) : Call σ → σ
  | .process item w => (s.process item w).2
  | .save q w => (s.save q w).2
  | .pause w => s.pause w

/-- The queue that a call saves, with its stamp. -/
def Call.stamped? (s : Scheduler σ) : Call σ → Option Progress
  | .save q w => some (s.saved q w).1
  | _ => none

namespace Scheduler

/-- A request to stop stands once it has been made. -/
structure RequestStands (s : Scheduler σ) : Prop where
  process : ∀ item w, s.stopRequested w = true → s.stopRequested (s.process item w).2 = true
  save : ∀ q w, s.stopRequested w = true → s.stopRequested (s.save q w).2 = true
  pause : ∀ w, s.stopRequested w = true → s.stopRequested (s.pause w) = true

/-- The world behind these calls. -/
def worldAfter (s : Scheduler σ) (w₀ : σ) (calls : List (Call σ)) : σ :=
  (calls.getLast?.map (Call.next s)).getD w₀

/-- The queues saved, in order, as they stand in the store. -/
def stamped (s : Scheduler σ) (calls : List (Call σ)) : List Progress :=
  calls.filterMap (Call.stamped? s)

/-- The queue behind these calls: the one saved last, or the one at the start. -/
def queueAfter (s : Scheduler σ) (q₀ : Progress) (calls : List (Call σ)) : Progress :=
  (s.stamped calls).getLast?.getD q₀

/-- Calls that end gracefully when somebody asks to stop, with the queue and the world at the start
and at the end. -/
structure Graceful (s : Scheduler σ) (q₀ : Progress) (w₀ : σ) (calls : List (Call σ))
    (q : Progress) (w : σ) : Prop where
  /-- Each call is made in the world that the calls before it lead to. -/
  in_turn : ∀ before call after, calls = before ++ call :: after →
    call.world = s.worldAfter w₀ before
  /-- The world at the end is the one that all the calls lead to. -/
  ends : w = s.worldAfter w₀ calls
  /-- Behind a moment at which the request stands, there is nothing but the save for the item in
  hand. -/
  stops : ∀ before after, calls = before ++ after →
    s.stopRequested (s.worldAfter w₀ before) = true →
    after = [] ∨ ∃ earlier item w₁ q₁, before = earlier ++ [.process item w₁] ∧
      after = [.save q₁ (s.process item w₁).2]
  /-- Every item that is begun is the first that waits. It is filed under its outcome, and the queue
  saved at once. -/
  recorded : ∀ before item w₁ after, calls = before ++ .process item w₁ :: after →
    ∃ waiting later, (s.queueAfter q₀ before).pending = item :: waiting ∧
      after = .save ({ s.queueAfter q₀ before with pending := waiting }.record item
        (s.process item w₁).1) (s.process item w₁).2 :: later
  /-- Every item that is begun is finished at the end. -/
  finished : ∀ item ∈ handed calls, item ∈ q.finished
  /-- The queue at the end is the one saved last. -/
  kept : handed calls ≠ [] → (s.stamped calls).getLast? = some q
  /-- If no item is begun, then nothing changes. -/
  untouched : handed calls = [] → q = q₀
  /-- What has not been begun still waits, in the old order. -/
  waiting : q.pending = q₀.pending.filter fun item => item ∉ handed calls

section

variable {s : Scheduler σ} {q₀ q : Progress} {w₀ w : σ} {pace : Pace}
  {calls before after : List (Call σ)} {call : Call σ}

@[simp] theorem worldAfter_nil : s.worldAfter w₀ [] = w₀ := rfl

@[simp] theorem worldAfter_concat : s.worldAfter w₀ (calls ++ [call]) = call.next s := by
  simp [worldAfter]

@[simp] theorem stamped_append (calls more : List (Call σ)) :
    s.stamped (calls ++ more) = s.stamped calls ++ s.stamped more := List.filterMap_append

/-! ## Calls in turn -/

/-- Each call is made in the world that the calls before it lead to. -/
def InTurn (s : Scheduler σ) (w₀ : σ) (calls : List (Call σ)) : Prop :=
  ∀ before call after, calls = before ++ call :: after → call.world = s.worldAfter w₀ before

theorem inTurn_nil : s.InTurn w₀ [] := by
  intro before call after h
  simp at h

theorem InTurn.concat (h : s.InTurn w₀ calls) (hcall : call.world = s.worldAfter w₀ calls) :
    s.InTurn w₀ (calls ++ [call]) := by
  intro before call' after hcalls
  rcases cases_of_append_eq hcalls with ⟨more, rfl, hlast⟩ | ⟨more, rfl, rfl⟩
  · cases more with
    | nil =>
        obtain ⟨rfl, rfl⟩ := List.cons.inj hlast
        rwa [List.append_nil]
    | cons first more => simp at hlast
  · exact h before call' more rfl

/-- A course makes its calls in turn. -/
theorem Course.inTurn (h : Course s q₀ w₀ pace calls q w) :
    s.InTurn w₀ calls ∧ w = s.worldAfter w₀ calls := by
  induction h with
  | start => exact ⟨inTurn_nil, rfl⟩
  | @item calls q w item waiting _ _ _ ih =>
      obtain ⟨hturn, hworld⟩ := ih
      rw [List.append_cons]
      have hprocess : s.InTurn w₀ (calls ++ [.process item w]) := hturn.concat hworld
      refine ⟨hprocess.concat ?_, ?_⟩
      · rw [worldAfter_concat]
        rfl
      · rw [worldAfter_concat]
        rfl
  | @pause calls q w _ _ _ ih =>
      obtain ⟨hturn, hworld⟩ := ih
      refine ⟨hturn.concat hworld, ?_⟩
      rw [worldAfter_concat]
      rfl

/-! ## A request that stands -/

/-- No call takes the request back. -/
theorem RequestStands.next (h : s.RequestStands) (hcall : s.stopRequested call.world = true) :
    s.stopRequested (call.next s) = true := by
  cases call with
  | process item w => exact h.process item w hcall
  | save q w => exact h.save q w hcall
  | pause w => exact h.pause w hcall

/-- A request that stands at one moment stands at every later one. -/
theorem RequestStands.later (h : s.RequestStands) (hturn : s.InTurn w₀ (before ++ after))
    (hbefore : s.stopRequested (s.worldAfter w₀ before) = true) :
    s.stopRequested (s.worldAfter w₀ (before ++ after)) = true := by
  induction after generalizing before with
  | nil => rwa [List.append_nil]
  | cons call after ih =>
      have hworld : call.world = s.worldAfter w₀ before := hturn before call after rfl
      have hnext : s.stopRequested (s.worldAfter w₀ (before ++ [call])) = true := by
        rw [worldAfter_concat]
        exact h.next (hworld ▸ hbefore)
      rw [List.append_cons] at hturn ⊢
      exact ih hturn hnext

/-- While the request does not stand, it did not stand before. -/
theorem Course.not_requested (hs : s.RequestStands)
    (h : Course s q₀ w₀ pace (before ++ after) q w) (hw : s.stopRequested w = false) :
    s.stopRequested (s.worldAfter w₀ before) = false := by
  obtain ⟨hturn, hworld⟩ := h.inTurn
  rw [hworld] at hw
  cases hbefore : s.stopRequested (s.worldAfter w₀ before) with
  | false => rfl
  | true =>
      rw [hs.later hturn hbefore] at hw
      cases hw

/-- **Behind the request** there is nothing but the save for the item in hand. -/
theorem Course.stops (hs : s.RequestStands) (h : Course s q₀ w₀ pace calls q w)
    (hcalls : calls = before ++ after)
    (hbefore : s.stopRequested (s.worldAfter w₀ before) = true) :
    after = [] ∨ ∃ earlier item w₁ q₁, before = earlier ++ [.process item w₁] ∧
      after = [.save q₁ (s.process item w₁).2] := by
  cases h with
  | start => exact .inl (List.append_eq_nil_iff.mp hcalls.symm).2
  | @item calls q w item waiting hcourse _ hw =>
      rcases List.append_eq_append_iff.mp hcalls with ⟨more, rfl, hmore⟩ | ⟨more, rfl, -⟩
      · -- the moment is one of the three around the two calls
        rcases more with _ | ⟨first, more⟩
        · rw [List.append_nil, ← hcourse.inTurn.2, hw] at hbefore
          cases hbefore
        · obtain ⟨rfl, hsave⟩ := List.cons.inj hmore
          rcases more with _ | ⟨second, more⟩
          · exact .inr ⟨calls, item, w, _, rfl, hsave.symm⟩
          · obtain ⟨-, hend⟩ := List.cons.inj hsave
            exact .inl (List.append_eq_nil_iff.mp hend.symm).2
      · rw [hcourse.not_requested hs hw] at hbefore
        cases hbefore
  | @pause calls q w hcourse _ hw =>
      rcases List.append_eq_append_iff.mp hcalls with ⟨more, rfl, hmore⟩ | ⟨more, rfl, -⟩
      · rcases more with _ | ⟨first, more⟩
        · rw [List.append_nil, ← hcourse.inTurn.2, hw] at hbefore
          cases hbefore
        · obtain ⟨-, hend⟩ := List.cons.inj hmore
          exact .inl (List.append_eq_nil_iff.mp hend.symm).2
      · rw [hcourse.not_requested hs hw] at hbefore
        cases hbefore

/-! ## The queue -/

theorem stamped_item (s : Scheduler σ) (calls : List (Call σ)) (item : String) (q : Progress)
    (w : σ) :
    s.stamped (calls ++ [.process item w,
        .save (q.record item (s.process item w).1) (s.process item w).2]) =
      s.stamped calls ++ [(s.handle item q w).2.1] := by
  rw [stamped_append]
  rfl

theorem stamped_pause (s : Scheduler σ) (calls : List (Call σ)) (w : σ) :
    s.stamped (calls ++ [.pause w]) = s.stamped calls := by
  rw [stamped_append]
  exact List.append_nil _

/-- The queue of a course is the one saved last. -/
theorem Course.queue_eq (h : Course s q₀ w₀ pace calls q w) : q = s.queueAfter q₀ calls := by
  induction h with
  | start => rfl
  | item => rw [queueAfter, stamped_item, List.getLast?_concat, Option.getD_some]
  | pause _ _ _ ih => rwa [queueAfter, stamped_pause]

/-- When an item has been begun, a queue has been saved. -/
theorem Course.kept (h : Course s q₀ w₀ pace calls q w) (hne : handed calls ≠ []) :
    (s.stamped calls).getLast? = some q := by
  induction h with
  | start => exact absurd rfl hne
  | item => rw [stamped_item, List.getLast?_concat]
  | pause hcourse _ _ ih =>
      rw [stamped_pause]
      exact ih hcourse.handed_ne_nil

/-- When no item has been begun, the queue is that of the start. -/
theorem Course.untouched (h : Course s q₀ w₀ pace calls q w) (hnil : handed calls = []) :
    q = q₀ := by
  induction h with
  | start => rfl
  | item => simp at hnil
  | pause hcourse _ _ ih => exact ih (by simpa using hnil)

/-- An item that is begun is the first that waits, and is filed and saved at once. -/
theorem Course.recorded {item : String} {w₁ : σ} (h : Course s q₀ w₀ pace calls q w)
    (hcalls : calls = before ++ .process item w₁ :: after) :
    ∃ waiting later, (s.queueAfter q₀ before).pending = item :: waiting ∧
      after = .save ({ s.queueAfter q₀ before with pending := waiting }.record item
        (s.process item w₁).1) (s.process item w₁).2 :: later := by
  refine h.behind (P := fun after _ _ => ∃ waiting later,
    (s.queueAfter q₀ before).pending = item :: waiting ∧
      after = .save ({ s.queueAfter q₀ before with pending := waiting }.record item
        (s.process item w₁).1) (s.process item w₁).2 :: later) ?_ ?_ ?_ hcalls
  · intro q waiting hcourse hq
    rw [← hcourse.queue_eq]
    exact ⟨waiting, [], hq, rfl⟩
  · rintro after q w other more ⟨waiting, later, hpending, rfl⟩ -
    exact ⟨waiting, _, hpending, rfl⟩
  · rintro after q w ⟨waiting, later, hpending, rfl⟩
    exact ⟨waiting, _, hpending, rfl⟩

/-- What is begun is finished at the end. -/
theorem Course.finished (h : Course s q₀ w₀ pace calls q w) :
    ∀ item ∈ handed calls, item ∈ q.finished := by
  induction h with
  | start => simp
  | @item calls q w item waiting _ _ _ ih =>
      intro other hother
      have hrecord : (s.handle item { q with pending := waiting } w).2.1.finished =
          ({ q with pending := waiting }.record item (s.process item w).1).finished := rfl
      rw [hrecord, Progress.mem_finished_record]
      rw [handed_append, List.mem_append] at hother
      rcases hother with hother | hother
      · exact .inl (ih other hother)
      · exact .inr (by simpa using hother)
  | pause _ _ _ ih => simpa using ih

/-- What has not been begun waits in the old order. -/
theorem Course.waiting (h : Course s q₀ w₀ pace calls q w) :
    q.pending = q₀.pending.filter fun item => item ∉ handed calls := by
  induction h with
  | start => exact (List.filter_eq_self.mpr (by simp)).symm
  | @item calls q w item waiting _ hq _ ih =>
      have hfiltered : Progress.drop waiting item = Progress.drop q.pending item := by
        simp [Progress.drop, hq]
      rw [pending_handle, hfiltered, ih, Progress.drop, List.filter_filter]
      refine List.filter_congr fun other _ => ?_
      by_cases hother : other = item
      · simp [hother]
      · simp [hother]
  | pause _ _ _ ih => simpa using ih

/-- A course ends gracefully. -/
theorem Course.graceful (hs : s.RequestStands) (h : Course s q₀ w₀ pace calls q w) :
    s.Graceful q₀ w₀ calls q w where
  in_turn := h.inTurn.1
  ends := h.inTurn.2
  stops _ _ hcalls hbefore := h.stops hs hcalls hbefore
  recorded _ _ _ _ hcalls := h.recorded hcalls
  finished := h.finished
  kept := h.kept
  untouched := h.untouched
  waiting := h.waiting

end

/-- **Graceful stopping.** Whatever the queue, the size of the batches and the world, a run and a
batch end gracefully when somebody asks to stop, at whatever moment this happens. -/
theorem stops_gracefully (s : Scheduler σ) (hs : s.RequestStands) (q : Progress) (w : σ) :
    s.Graceful q w (s.runCalls q w) (s.run q w).2.1 (s.run q w).2.2 ∧
      s.Graceful q w (s.batchCalls q w) (s.runBatch q w).2.1 (s.runBatch q w).2.2 := by
  obtain ⟨_, hrun⟩ := s.course_run q w
  obtain ⟨_, hbatch⟩ := s.course_runBatch q w
  exact ⟨hrun.graceful hs, hbatch.graceful hs⟩

theorem counting_requestStands : counting.RequestStands where
  process _ n h := by
    simp only [counting, decide_eq_true_eq] at h ⊢
    omega
  save _ n h := by
    simp only [counting, decide_eq_true_eq] at h ⊢
    omega
  pause n h := by
    simp only [counting, decide_eq_true_eq] at h ⊢
    omega

/-- An instance: somebody asks to stop while the queue is saved behind the third of four items. -/
theorem counting_stops_gracefully :
    let q : Progress := ⟨["a.c", "b.c", "c.c", "d.c"], [], [], none⟩
    counting.RequestStands ∧
      counting.Graceful q 0 (counting.runCalls q 0) (counting.run q 0).2.1 (counting.run q 0).2.2 ∧
      counting.Graceful q 0 (counting.batchCalls q 0) (counting.runBatch q 0).2.1
        (counting.runBatch q 0).2.2 :=
  ⟨counting_requestStands, counting.stops_gracefully counting_requestStands _ 0⟩

end Scheduler

end SourceTutor
