import SourceTutor.Proofs.Queue.Calls

/-!
# The batch size does not matter

The pause between two items and the look at the request to stop come twice in a run: within a batch
and between two batches. `Scheduler.run_same_of_batchSize` says that this cannot be told from
outside: whatever the sizes of the batches, a run makes the same calls at the same moments, leaves
the same queue and the same world, and counts the same items. `Scheduler.InOrder` is what such a
run does: it takes the waiting items in order, each once, and pauses once between two of them.
-/

set_option autoImplicit false

namespace SourceTutor

variable {σ : Type}

/-! ## The pattern of the calls -/

/-- What a call asks for, without the world and the queue. -/
inductive Deed where
  | work (item : String)
  | save
  | pause
  deriving DecidableEq

/-- What a call asks for. -/
def Call.deed : Call σ → Deed
  | .process item _ => .work item
  | .save _ _ => .save
  | .pause _ => .pause

/-- What there is to do for these items: each is worked on and the queue saved behind it, with one
pause between an item and the next. -/
def paced : List String → List Deed
  | [] => []
  | item :: items => [.work item, .save] ++ items.flatMap fun next => [.pause, .work next, .save]

theorem paced_concat (items : List String) (item : String) :
    paced (items ++ [item]) =
      paced items ++ (if items = [] then [] else [.pause]) ++ [.work item, .save] := by
  cases items with
  | nil => rfl
  | cons first items => simp [paced]

/-- No item is left twice when the later repetitions are removed. -/
theorem nodup_eraseDups (items : List String) : items.eraseDups.Nodup := by
  induction hn : items.length using Nat.strongRecOn generalizing items with
  | _ n ih =>
      cases items with
      | nil => simp
      | cons item items =>
          rw [List.eraseDups_cons, List.nodup_cons]
          -- the rest is shorter, since it has lost the repetitions of the first item
          refine ⟨by simp [List.mem_eraseDups], ih _ ?_ _ rfl⟩
          rw [← hn, List.length_cons]
          exact Nat.lt_succ_of_le (List.length_filter_le _ _)

namespace Scheduler

variable {s : Scheduler σ} {q₀ q : Progress} {w₀ w : σ} {calls : List (Call σ)} {pace : Pace}

theorem Course.handed_ne_nil (h : Course s q₀ w₀ .worked calls q w) : handed calls ≠ [] := by
  cases h with
  | item => simp

/-- **Pacing.** A course works on its items in turn, and between two of them there is one pause. A
last pause stands alone when no item follows it. -/
theorem Course.map_deed (h : Course s q₀ w₀ pace calls q w) :
    calls.map Call.deed = paced (handed calls) ++
      (match pace with
        | .worked => []
        | .rested => if handed calls = [] then [] else [.pause]) := by
  induction h with
  | start => rfl
  | @item calls q w item waiting _ _ _ ih =>
      rw [List.map_append, ih, handed_append, handed_process, handed_save, handed_nil, paced_concat]
      simp [Call.deed]
  | @pause calls q w h _ _ ih =>
      rw [List.map_append, ih, handed_append, handed_pause, handed_nil, List.append_nil]
      simp [Call.deed, h.handed_ne_nil]

/-- The queue is saved once for every item. -/
theorem Course.length_savedQueues (h : Course s q₀ w₀ pace calls q w) :
    (savedQueues calls).length = (handed calls).length := by
  induction h with
  | start => rfl
  | item _ _ _ ih => simp [ih]
  | pause _ _ _ ih => simp [ih]

theorem pending_handle (s : Scheduler σ) (item : String) (q : Progress) (w : σ) :
    (s.handle item q w).2.1.pending = Progress.drop q.pending item := by
  simp only [handle, saved, Progress.record]
  split <;> rfl

/-- The items worked on and the items that wait are those that waited at the start, where only the
first of several equal ones counts. -/
theorem Course.handed_append_pending (h : Course s q₀ w₀ pace calls q w) :
    handed calls ++ q.pending.eraseDups = q₀.pending.eraseDups := by
  induction h with
  | start => rfl
  | @item calls q w item waiting _ hq _ ih =>
      -- filing an item removes its repetitions from what waits
      have hdrop : (waiting.filter fun next => !next == item) = Progress.drop waiting item := rfl
      rw [hq, List.eraseDups_cons, hdrop] at ih
      rw [pending_handle, ← ih]
      simp
  | pause _ _ _ ih => simpa using ih

/-- Behind a pause there is something left to do. -/
theorem Course.pending_ne_nil (h : Course s q₀ w₀ .rested calls q w) (hne : handed calls ≠ []) :
    q.pending ≠ [] := by
  cases h with
  | start => exact absurd rfl hne
  | pause _ hq _ => exact hq

/-! ## How a sweep ends, and what it lists -/

theorem sweep_ended (s : Scheduler σ) (q : Progress) (w : σ) :
    (s.sweep q w).2.1.pending = [] ∨ s.stopRequested (s.sweep q w).2.2 = true := by
  induction q, w using sweep.induct s with
  | case1 q w hq =>
      rw [s.sweep_of_pending_nil w hq]
      exact .inl hq
  | case2 q w item rest hq hs =>
      rw [s.sweep_of_stopRequested q hs]
      exact .inr hs
  | case3 q w item rest hq hs handled ih =>
      rw [s.sweep_of_pending_cons hq (by simpa using hs)]
      exact ih

theorem handed_restAfter (s : Scheduler σ) (q : Progress) (v : σ × List (Call σ)) :
    handed (s.noting.restAfter q v).2 = handed v.2 := by
  rw [restAfter]
  split
  · rfl
  · simp [noting]

/-- The items a sweep lists are those that are worked on in it. -/
theorem handed_sweep (s : Scheduler σ) (q : Progress) (v : σ × List (Call σ)) :
    handed (s.noting.sweep q v).2.2.2 = handed v.2 ++ (s.noting.sweep q v).1.map Prod.fst := by
  induction q, v using sweep.induct s.noting with
  | case1 q v hq => simp [s.noting.sweep_of_pending_nil v hq]
  | case2 q v item rest hq hs => simp [s.noting.sweep_of_stopRequested q hs]
  | case3 q v item rest hq hs out ih =>
      have hout : handed out.2.2.2 = handed v.2 ++ [item] := by
        simp [out, handle, saved, noting]
      rw [handed_restAfter, hout, List.append_assoc] at ih
      rw [s.noting.sweep_of_pending_cons hq (by simpa using hs)]
      exact ih

theorem tally_add_tally (items : List (String × Outcome)) :
    tally items .completed + tally items .failed = items.length := by
  induction items with
  | nil => rfl
  | cons entry items ih =>
      obtain ⟨item, o⟩ := entry
      cases o <;> simp only [tally, List.countP_cons, List.length_cons] at ih ⊢ <;> simp <;> omega

/-! ## One run -/

/-- What a run does, whatever the size of its batches. -/
structure InOrder (s : Scheduler σ) (q : Progress) (w : σ) : Prop where
  /-- The items worked on are the first of those that wait, equal ones counted once. -/
  handed_prefix : handed (s.runCalls q w) <+: q.pending.eraseDups
  /-- No item is worked on twice. -/
  handed_nodup : (handed (s.runCalls q w)).Nodup
  /-- Each item is worked on and the queue saved behind it, and between an item and the next there
  is one pause. A pause behind the last item is one during which somebody asked to stop. -/
  paced : ∃ tail, (tail = [] ∨ tail = [Deed.pause] ∧ s.stopRequested (s.run q w).2.2 = true) ∧
    (s.runCalls q w).map Call.deed = SourceTutor.paced (handed (s.runCalls q w)) ++ tail
  /-- Nothing waits at the end, or somebody has asked to stop. -/
  ended : (s.run q w).1.remaining = 0 ∨ s.stopRequested (s.run q w).2.2 = true
  /-- The items that remain are those that wait. -/
  remaining_eq : (s.run q w).1.remaining = (s.run q w).2.1.pending.length
  /-- The items counted are those worked on. -/
  processed_eq : (s.run q w).1.processed = (handed (s.runCalls q w)).length
  /-- Every item is counted as done or as failed. -/
  outcomes_eq : (s.run q w).1.processed = (s.run q w).1.completed + (s.run q w).1.failed
  /-- The queue is saved once for every item. -/
  saves_eq : (s.run q w).1.processed = (savedQueues (s.runCalls q w)).length
  /-- There are as many batches as are needed for the items. -/
  batches_eq : (s.run q w).1.batches =
    ((s.run q w).1.processed + s.batchSize - 1) / s.batchSize

theorem inOrder (s : Scheduler σ) (hb : 0 < s.batchSize) (q : Progress) (w : σ) :
    s.InOrder q w := by
  obtain ⟨pace, course⟩ := s.course_run q w
  have hsplit := course.handed_append_pending
  have hlisted := s.handed_sweep q (w, [])
  rw [handed_nil, List.nil_append, ← s.runCalls_eq_sweep hb] at hlisted
  have hprocessed : (s.run q w).1.processed = (handed (s.runCalls q w)).length := by
    rw [hlisted, List.length_map, s.run_eq_sweep_noting hb]
    rfl
  have hended : (s.run q w).2.1.pending = [] ∨ s.stopRequested (s.run q w).2.2 = true := by
    rw [s.run_eq_sweep hb]
    exact s.sweep_ended q w
  have hremaining : (s.run q w).1.remaining = (s.run q w).2.1.pending.length := rfl
  refine ⟨⟨_, hsplit⟩, ?_, ?_, ?_, hremaining, hprocessed, ?_, ?_, ?_⟩
  · have hnodup := nodup_eraseDups q.pending
    rw [← hsplit] at hnodup
    exact (List.nodup_append.mp hnodup).1
  · refine ⟨_, ?_, course.map_deed⟩
    cases pace with
    | worked => exact .inl rfl
    | rested =>
        -- only a request to stop ends a run behind a pause
        by_cases hne : handed (s.runCalls q w) = []
        · exact .inl (if_pos hne)
        · exact .inr ⟨if_neg hne, hended.resolve_left (course.pending_ne_nil hne)⟩
  · exact hended.imp_left fun h => by rw [hremaining, h]; rfl
  · rw [s.run_eq_sweep hb]
    exact (tally_add_tally _).symm
  · rw [hprocessed, course.length_savedQueues]
  · rw [s.run_eq_sweep hb]
    rfl

/-! ## Any two sizes -/

/-- The same scheduler with batches of this size. -/
def inBatches (s : Scheduler σ) (size : Nat) : Scheduler σ := { s with batchSize := size }

/-- A sweep knows nothing of batches. -/
theorem sweep_inBatches (s : Scheduler σ) (size : Nat) (q : Progress) (w : σ) :
    (s.inBatches size).sweep q w = s.sweep q w := by
  induction q, w using sweep.induct s with
  | case1 q w hq => rw [s.sweep_of_pending_nil w hq, sweep_of_pending_nil _ w hq]
  | case2 q w item rest hq hs =>
      rw [s.sweep_of_stopRequested q hs, (s.inBatches size).sweep_of_stopRequested q hs]
  | case3 q w item rest hq hs handled ih =>
      have hs' : s.stopRequested w = false := by simpa using hs
      rw [s.sweep_of_pending_cons hq hs', (s.inBatches size).sweep_of_pending_cons hq hs']
      exact congrArg (fun more => ((item, handled.1) :: more.1, more.2)) ih

/-- Two schedulers whose runs cannot be told apart by what they ask of the world, by the queue and
the world they leave, or by the items they count. -/
structure Alike (s₁ s₂ : Scheduler σ) (q : Progress) (w : σ) : Prop where
  /-- The calls are the same, and made at the same moments. -/
  calls_eq : s₁.runCalls q w = s₂.runCalls q w
  end_eq : (s₁.run q w).2 = (s₂.run q w).2
  processed_eq : (s₁.run q w).1.processed = (s₂.run q w).1.processed
  completed_eq : (s₁.run q w).1.completed = (s₂.run q w).1.completed
  failed_eq : (s₁.run q w).1.failed = (s₂.run q w).1.failed
  remaining_eq : (s₁.run q w).1.remaining = (s₂.run q w).1.remaining

/-- **The size of the batches does not matter.** The queue may hold repeated items, and the world
may remember everything it has been asked: both runs are the same and in order. -/
theorem run_same_of_batchSize (s : Scheduler σ) {size₁ size₂ : Nat} (h₁ : 0 < size₁)
    (h₂ : 0 < size₂) (q : Progress) (w : σ) :
    Alike (s.inBatches size₁) (s.inBatches size₂) q w ∧
      (s.inBatches size₁).InOrder q w ∧ (s.inBatches size₂).InOrder q w := by
  -- for every size the run is the same sweep
  have hrun : ∀ size, 0 < size → (s.inBatches size).run q w =
      ((s.inBatches size).summarize (s.sweep q w).1 (s.sweep q w).2.1 (s.sweep q w).2.2,
        (s.sweep q w).2) := fun size h => by
    rw [(s.inBatches size).run_eq_sweep h, sweep_inBatches]
  have hcalls : ∀ size, 0 < size →
      (s.inBatches size).runCalls q w = (s.noting.sweep q (w, [])).2.2.2 := fun size h => by
    rw [(s.inBatches size).runCalls_eq_sweep h]
    exact congrArg (·.2.2.2) (s.noting.sweep_inBatches size q (w, []))
  refine ⟨?_, (s.inBatches size₁).inOrder h₁ q w, (s.inBatches size₂).inOrder h₂ q w⟩
  refine ⟨by rw [hcalls _ h₁, hcalls _ h₂], ?_, ?_, ?_, ?_, ?_⟩ <;> rw [hrun _ h₁, hrun _ h₂]
  all_goals rfl

/-- A world that counts its calls, in which every third moment is a bad one and somebody asks to
stop after seven calls. -/
def counting : Scheduler Nat where
  process _ n := (if n % 3 = 0 then .failed else .completed, n + 1)
  save _ n := (none, n + 1)
  stopRequested n := 7 < n
  pause n := n + 1
  batchSize := 1

/-- An instance: a queue with a repeated item, one by one and three at a time. -/
theorem counting_same_in_batches_one_three :
    let q : Progress := ⟨["a.c", "b.c", "a.c", "c.c", "d.c"], [], ["b.c"], none⟩
    0 < 1 ∧ 0 < 3 ∧ Alike (counting.inBatches 1) (counting.inBatches 3) q 0 ∧
      (counting.inBatches 1).InOrder q 0 ∧ (counting.inBatches 3).InOrder q 0 :=
  ⟨by decide, by decide, counting.run_same_of_batchSize (by decide) (by decide) _ 0⟩

end Scheduler

end SourceTutor
