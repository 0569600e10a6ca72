import SourceTutor.Proofs.Queue.BatchSize
import SourceTutor.Proofs.Queue.History
import SourceTutor.Proofs.Queue.Rescan

/-!
# Queues that only advance

A queue is further on than another one (`Progress.Advances`) when what is completed there stays
completed, what is finished, completed or failed, stays finished, and nothing finished waits again.
A scan takes a partitioned queue on, whatever it lists and whatever artifacts there are
(`ScanOptions.advances_reconcile`), and so does filing the item at the front. So the queues that a
run saves are further and further on (`Scheduler.Course.rising`), and the items that it has worked
on are finished in the last of them.
-/

set_option autoImplicit false

namespace SourceTutor

namespace Progress

variable {q q' q'' : Progress} {item x : String}

/-- The items that are completed or have failed. -/
def finished (q : Progress) : List String := q.completed ++ q.failed

theorem mem_finished : x ∈ q.finished ↔ x ∈ q.completed ∨ x ∈ q.failed := List.mem_append

theorem mem_items_iff : x ∈ q.items ↔ x ∈ q.pending ∨ x ∈ q.finished := List.mem_append

/-- The second queue is further on than the first one. -/
structure Advances (q q' : Progress) : Prop where
  completed : ∀ x ∈ q.completed, x ∈ q'.completed
  finished : ∀ x ∈ q.finished, x ∈ q'.finished
  /-- What is finished does not wait again. -/
  settled : ∀ x ∈ q.finished, x ∉ q'.pending

theorem Advances.trans (h : q.Advances q') (h' : q'.Advances q'') : q.Advances q'' where
  completed x hx := h'.completed x (h.completed x hx)
  finished x hx := h'.finished x (h.finished x hx)
  settled x hx := h'.settled x (h.finished x hx)

/-- The stamp does not matter. -/
theorem Advances.stamped (h : q.Advances q') (lastRun : Option String) :
    q.Advances { q' with lastRun := lastRun } :=
  ⟨h.completed, h.finished, h.settled⟩

/-- In a partitioned queue, what is finished does not wait. -/
theorem Partitioned.not_pending (h : q.Partitioned) : ∀ x ∈ q.finished, x ∉ q.pending := by
  intro x hx hpending
  obtain ⟨-, -, -, hclear, -⟩ := partitioned_iff.mp h
  rcases mem_finished.mp hx with hx | hx
  · exact (hclear x hpending).1 hx
  · exact (hclear x hpending).2 hx

theorem Partitioned.advances (h : q.Partitioned) : q.Advances q :=
  ⟨fun _ hx => hx, fun _ hx => hx, h.not_pending⟩

/-! ## Filing and adding -/

theorem mem_finished_record (o : Outcome) :
    x ∈ (q.record item o).finished ↔ x ∈ q.finished ∨ x = item := by
  rw [mem_finished, mem_finished]
  by_cases hx : x = item
  · cases o <;> simp [Progress.record, hx]
  · cases o <;> simp [Progress.record, hx]

theorem mem_pending_record (o : Outcome) :
    x ∈ (q.record item o).pending ↔ x ∈ q.pending ∧ x ≠ item := by
  cases o <;> simp [Progress.record]

/-- Filing an item takes a queue on, unless it lets a completed item fail. -/
theorem Partitioned.advances_record (h : q.Partitioned) {o : Outcome}
    (ho : o = .failed → item ∉ q.completed) : q.Advances (q.record item o) where
  completed x hx := by
    cases o with
    | completed => exact mem_addOnce.mpr (.inl hx)
    | failed =>
        have hne : x ≠ item := by
          rintro rfl
          exact ho rfl hx
        exact mem_drop.mpr ⟨hx, hne⟩
  finished x hx := (mem_finished_record o).mpr (.inl hx)
  settled x hx hpending := h.not_pending x hx ((mem_pending_record o).mp hpending).1

/-- Filing the item at the front takes a queue on. -/
theorem Partitioned.advances_record_next {waiting : List String} (h : q.Partitioned)
    (hq : q.pending = item :: waiting) (o : Outcome) :
    q.Advances ({ q with pending := waiting }.record item o) := by
  have hwaiting : { q with pending := waiting }.Partitioned :=
    h.of_pending_sublist (hq ▸ List.sublist_cons_self ..)
  have hfront : item ∈ q.pending := by
    rw [hq]
    exact List.mem_cons_self
  have hnew : item ∉ q.completed := fun hmem =>
    h.not_pending item (mem_finished.mpr (.inl hmem)) hfront
  obtain ⟨hcompleted, hfinished, hsettled⟩ := hwaiting.advances_record (o := o) fun _ => hnew
  exact ⟨hcompleted, hfinished, hsettled⟩

/-- Adding an item takes a queue on. -/
theorem Partitioned.advances_enqueue (h : q.Partitioned) (item : String) :
    q.Advances (q.enqueue item) := by
  rw [Progress.enqueue]
  split
  · exact h.advances
  · rename_i hknown
    rw [isKnown_iff, mem_items_iff, not_or] at hknown
    refine ⟨fun _ hx => hx, fun _ hx => hx, fun x hx hpending => ?_⟩
    rcases List.mem_append.mp hpending with hpending | hpending
    · exact h.not_pending x hx hpending
    · rw [List.mem_singleton.mp hpending] at hx
      exact hknown.2 hx

end Progress

/-! ## Scans -/

namespace ScanOptions

open Progress

variable {q : Progress} {x : String}

theorem advances_place (options : ScanOptions) (t : FileTree) (h : q.Partitioned) (source : Path) :
    q.Advances (options.place t q source) := by
  rw [place]
  split
  · exact h.advances
  split
  · refine h.advances_record fun hfailed => ?_
    cases hfailed
  · exact h.advances_enqueue _

/-- **A scan takes a queue on**: what has failed may be completed, and nothing else that is finished
changes. -/
theorem advances_reconcile (options : ScanOptions) (t : FileTree) (files : List Path)
    (h : q.Partitioned) : q.Advances (options.reconcile t files q) := by
  have hstart : { q with pending := [] }.Partitioned := h.of_pending_sublist (List.nil_sublist _)
  have hfold : ∀ q₁ : Progress, q₁.Partitioned →
      q₁.Advances (files.foldl (options.place t) q₁) := by
    induction files with
    | nil => exact fun q₁ hq₁ => hq₁.advances
    | cons source files ih =>
        intro q₁ hq₁
        exact (options.advances_place t hq₁ source).trans
          (ih _ (options.partitioned_place t hq₁ source))
  obtain ⟨hcompleted, hfinished, hsettled⟩ := hfold _ hstart
  exact ⟨hcompleted, hfinished, hsettled⟩

/-- The items of the queue after a file is placed in it. -/
theorem mem_items_place (options : ScanOptions) (t : FileTree) (source : Path) :
    x ∈ (options.place t q source).items ↔
      x ∈ q.items ∨ options.rules.accepts source = true ∧ x = source.toString := by
  rw [place]
  split
  · rename_i hrefused
    simp_all
  · rename_i haccepted
    have haccepts : options.rules.accepts source = true := by simpa using haccepted
    simp only [haccepts, true_and]
    split
    · rw [mem_items_iff, mem_items_iff, mem_finished_record, mem_pending_record]
      by_cases hx : x = source.toString <;> simp [hx]
    · rw [enqueue]
      split
      · rename_i hknown
        rw [isKnown_iff] at hknown
        constructor
        · exact .inl
        · rintro (hx | rfl)
          · exact hx
          · exact hknown
      · simp only [mem_items_iff, finished, List.mem_append, List.mem_singleton]
        exact or_right_comm

theorem mem_pending_place (options : ScanOptions) (t : FileTree) (source : Path)
    (h : x ∈ (options.place t q source).pending) :
    x ∈ q.pending ∨ options.rules.accepts source = true ∧ x = source.toString := by
  rw [place] at h
  split at h
  · exact .inl h
  · rename_i haccepted
    have haccepts : options.rules.accepts source = true := by simpa using haccepted
    split at h
    · exact .inl ((mem_pending_record _).mp h).1
    · rw [enqueue] at h
      split at h
      · exact .inl h
      · rcases List.mem_append.mp h with h | h
        · exact .inl h
        · exact .inr ⟨haccepts, List.mem_singleton.mp h⟩

/-- What a scan lists is in the queue that it makes. -/
theorem mem_items_of_listed (options : ScanOptions) (t : FileTree) (files : List Path)
    (h : x ∈ (files.filter options.rules.accepts).map Path.toString) :
    x ∈ (options.reconcile t files q).items := by
  have hfold : ∀ q₁ : Progress, x ∈ q₁.items ∨
      x ∈ (files.filter options.rules.accepts).map Path.toString →
      x ∈ (files.foldl (options.place t) q₁).items := by
    clear h
    induction files with
    | nil => simp
    | cons source files ih =>
        intro q₁ hx
        refine ih _ ?_
        rw [options.mem_items_place, or_right_comm]
        refine hx.elim (fun hx => .inl (.inl hx)) fun hx => ?_
        rw [List.filter_cons] at hx
        split at hx
        · rename_i haccepts
          rcases List.mem_cons.mp hx with rfl | hx
          · exact .inr ⟨haccepts, rfl⟩
          · exact .inl (.inr hx)
        · exact .inl (.inr hx)
  exact hfold _ (.inr h)

/-- What waits after a scan is what the scan has listed. -/
theorem listed_of_pending (options : ScanOptions) (t : FileTree) (files : List Path)
    (h : x ∈ (options.reconcile t files q).pending) :
    x ∈ (files.filter options.rules.accepts).map Path.toString := by
  have hfold : ∀ q₁ : Progress, x ∈ (files.foldl (options.place t) q₁).pending →
      x ∈ q₁.pending ∨ x ∈ (files.filter options.rules.accepts).map Path.toString := by
    clear h
    induction files with
    | nil => exact fun _ => .inl
    | cons source files ih =>
        intro q₁ hx
        rw [List.filter_cons]
        rcases ih _ hx with hx | hx
        · rcases options.mem_pending_place t source hx with hx | ⟨haccepts, rfl⟩
          · exact .inl hx
          · rw [if_pos haccepts]
            exact .inr List.mem_cons_self
        · refine .inr ?_
          split
          · exact List.mem_cons_of_mem _ hx
          · exact hx
  exact (hfold _ h).resolve_left List.not_mem_nil

end ScanOptions

/-! ## Runs -/

/-- A list of queues that advance goes on with a queue that is further on than its last one. -/
theorem rising_concat {saves : List Progress} {q q' : Progress}
    (h : (saves ++ [q]).Pairwise Progress.Advances) (hq : q.Advances q') :
    (saves ++ [q] ++ [q']).Pairwise Progress.Advances := by
  obtain ⟨-, -, hlast⟩ := List.pairwise_append.mp h
  refine List.pairwise_append.mpr ⟨h, List.pairwise_singleton _ q', fun x hx y hy => ?_⟩
  rw [List.mem_singleton.mp hy]
  rcases List.mem_append.mp hx with hx | hx
  · exact (hlast x hx q (List.mem_singleton_self q)).trans hq
  · rw [List.mem_singleton.mp hx]
    exact hq

/-- The last queue may give way to a further one. -/
theorem rising_replace {saves : List Progress} {q q' : Progress}
    (h : (saves ++ [q]).Pairwise Progress.Advances) (hq : q.Advances q') :
    (saves ++ [q']).Pairwise Progress.Advances :=
  (rising_concat h hq).sublist
    ((List.sublist_append_left saves [q]).append (List.Sublist.refl [q']))

/-- Queues that advance up to one queue, and from there. -/
theorem rising_append {saves more : List Progress} {q : Progress}
    (h : (saves ++ [q]).Pairwise Progress.Advances)
    (hmore : (q :: more).Pairwise Progress.Advances) :
    (saves ++ more).Pairwise Progress.Advances := by
  obtain ⟨hsaves, -, hlast⟩ := List.pairwise_append.mp h
  obtain ⟨hfirst, hmore⟩ := List.pairwise_cons.mp hmore
  exact List.pairwise_append.mpr ⟨hsaves, hmore, fun x hx y hy =>
    (hlast x hx q (List.mem_singleton_self q)).trans (hfirst y hy)⟩

namespace Scheduler

open Progress

variable {σ : Type} {s : Scheduler σ} {q₀ q : Progress} {w₀ w : σ} {pace : Pace}
  {calls : List (Call σ)}

/-- **The queues that a course saves advance**, from the first queue to the last one. -/
theorem Course.rising (h : Course s q₀ w₀ pace calls q w) (hq₀ : q₀.Partitioned) :
    (q₀ :: savedQueues calls ++ [q]).Pairwise Advances := by
  induction h with
  | start => simpa using hq₀.advances
  | @item calls q w item waiting hbefore hq _ ih =>
      have hpart := (hbefore.partitioned hq₀).1
      have hfiled := hpart.record_next hq (s.process item w).1
      -- the queue in front of the item gives way to the filed one, which is saved and stamped
      have hsaved := rising_replace ih (hpart.advances_record_next hq (s.process item w).1)
      have hend := rising_concat hsaved
        (hfiled.advances.stamped (s.handle item { q with pending := waiting } w).2.1.lastRun)
      rw [savedQueues_append]
      exact hend
  | pause _ _ _ ih =>
      rw [savedQueues_append, savedQueues_pause, savedQueues_nil, List.append_nil]
      exact ih

/-- What a course has worked on is finished. -/
theorem Course.finished_of_handed (h : Course s q₀ w₀ pace calls q w) :
    ∀ x ∈ handed calls, x ∈ q.finished := by
  induction h with
  | start => exact nofun
  | @item calls q w item waiting hbefore hq _ ih =>
      intro x hx
      rw [handed_append, List.mem_append] at hx
      show x ∈ ({ q with pending := waiting }.record item (s.process item w).1).finished
      rw [mem_finished_record]
      rcases hx with hx | hx
      · exact .inl (ih x hx)
      · exact .inr (List.mem_singleton.mp hx)
  | pause _ _ _ ih => simpa using ih

/-- What a course works on has been waiting at the start, and is worked on once. -/
theorem Course.handed_fresh (h : Course s q₀ w₀ pace calls q w) :
    (∀ x ∈ handed calls, x ∈ q₀.pending) ∧ (handed calls).Nodup := by
  have hsplit := h.handed_append_pending
  refine ⟨fun x hx => ?_, ?_⟩
  · rw [← List.mem_eraseDups, ← hsplit]
    exact List.mem_append_left _ hx
  · have hnodup := nodup_eraseDups q₀.pending
    rw [← hsplit] at hnodup
    exact (List.nodup_append.mp hnodup).1

/-- The items of the queue stay the same. -/
theorem Course.sameItems_end (h : Course s q₀ w₀ pace calls q w) : SameItems q q₀ :=
  (h.queue_induction (P := (SameItems · q₀)) (SameItems.refl q₀)
    (fun o hq hsame => (sameItems_record_next hq o).trans hsame) fun _ _ hsame => hsame).1

end Scheduler

end SourceTutor
