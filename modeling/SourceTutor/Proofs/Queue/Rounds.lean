import SourceTutor.Proofs.Queue.Advance
import SourceTutor.Proofs.Queue.Resumption

/-!
# Rounds

A round is a scan of whatever files there are, with whatever rules and artifacts, and a run of what
it has queued; either may be killed (`Round.Possible`). A `Career` is a sequence of rounds between
which somebody else may change the tree. As long as the saves succeed and nobody else touches the
queue in the file, the work only advances (`Career.at_most_once`): what is completed in one queue
that is saved stays completed in all later ones, what has failed stays finished and does not wait
again, and an item is worked on once, unless it was being worked on when its round was killed.

What carries the proof is `Held`: the queue in memory is the one in the file at every call of a run.
So a kill leaves a queue in the file that is further on than all saved before, and lacks at most the
item in hand.

The tree has to host the queue. Where it does not, or where somebody else changes the way to the
file, what was completed may wait again (`Relapses`).
-/

set_option autoImplicit false

namespace SourceTutor

open FileTree Progress Scheduler

variable {σ : Type} {store : Store}

/-! ## Rounds and careers -/

/-- What is known of a round when it is over. -/
structure Round extends Leg where
  /-- The items that the scan has listed. -/
  found : List String
  /-- The queues that were saved, in order, apart from their stamps. Behind a kill this is the queue
  that is in the file, be it the one that was being saved or the one before. -/
  saves : List Progress

/-- A scan lists these items and is saved. The queue and the tree are those that it leaves. -/
inductive Queued (store : Store) (t : FileTree) : List String → Progress → FileTree → Prop
  | scan {options : ScanOptions} {now : String} {root : Path} :
      (store.save now t (options.reconcile t (t.listFiles root) (store.load t))).2.2 = true →
      Queued store t (options.listed t root) (options.scan store now root t).2
        (options.scan store now root t).1

/-- A round from a tree. All saves succeed, except one that is cut short by a kill. -/
inductive Round.Possible (store : Store) (Fit : FileTree → Prop) (t : FileTree) : Round → Prop
  | finished {found q t₁} {σ : Type} {s : Scheduler σ} {tree : σ → FileTree} {w : σ} :
      Queued store t found q t₁ → s.KeptIn store Fit tree → tree w = t₁ →
      (∀ call ∈ s.runCalls q w, call.Succeeds s store tree) →
      Possible store Fit t
        ⟨⟨handed (s.runCalls q w), some (s.run q w).2.1, tree (s.run q w).2.2⟩, found,
          q :: savedQueues (s.runCalls q w)⟩
  | killedInScan {options : ScanOptions} {now : String} {root : Path} {t'} :
      store.Cut t { options.reconcile t (t.listFiles root) (store.load t) with
        lastRun := some now } t' →
      Possible store Fit t ⟨⟨[], none, t'⟩, options.listed t root, [store.load t']⟩
  | killedInRun {found q t₁} {σ : Type} {s : Scheduler σ} {tree : σ → FileTree} {w : σ}
      {done rest : List (Call σ)} {call : Call σ} {t'} :
      Queued store t found q t₁ → s.KeptIn store Fit tree → tree w = t₁ →
      s.runCalls q w = done ++ call :: rest → (∀ call ∈ done, call.Succeeds s store tree) →
      call.Killed store Fit tree t' →
      Possible store Fit t
        ⟨⟨handed (done ++ [call]), none, t'⟩, found, q :: savedQueues done ++ [store.load t']⟩

/-- Rounds one after the other. In between, somebody else may alter the tree. -/
inductive Career (store : Store) (Fit : FileTree → Prop) (Alter : FileTree → FileTree → Prop) :
    FileTree → List Round → FileTree → Prop
  | nil {t} : Career store Fit Alter t [] t
  | round {t t' t'' round rounds} : Alter t t' → round.Possible store Fit t' →
      Career store Fit Alter round.after rounds t'' → Career store Fit Alter t (round :: rounds) t''

/-! ## The queue in memory and the queue in the file -/

/-- The tree hosts the queue, and this one is in the file. -/
def Held (store : Store) (q : Progress) (t : FileTree) : Prop := store.Hosts t ∧ store.load t = q

theorem Held.of_spares {q : Progress} {t t' : FileTree} (h : Held store q t)
    (hspares : store.Spares store.Hosts t t') : Held store q t' :=
  ⟨hspares.1, hspares.2.trans h.2⟩

theorem Held.of_write {q q' : Progress} {t : FileTree} (h : Held store q t)
    (hsaved : (store.write t q').2 = true) : Held store q' (store.write t q').1 := by
  obtain ⟨hosts, hload⟩ := h.1.of_write q'
  rw [if_pos hsaved] at hload
  exact ⟨hosts, hload⟩

/-- A save that is cut short leaves the queue that was there or the one to be saved. -/
theorem Held.of_cut {q q' : Progress} {t t' : FileTree} (h : Held store q t)
    (hcut : store.Cut t q' t') : Held store q t' ∨ Held store q' t' := by
  obtain ⟨hosts, hload | hload⟩ := h.1.of_cut hcut
  · exact .inl ⟨hosts, hload.trans h.2⟩
  · exact .inr ⟨hosts, hload⟩

namespace Scheduler

/-- The call that comes behind these calls of a course. -/
inductive Upcoming (s : Scheduler σ) (q₀ : Progress) (w₀ : σ) : List (Call σ) → Call σ → Prop
  | process {calls q w item waiting} : Course s q₀ w₀ .rested calls q w →
      q.pending = item :: waiting → Upcoming s q₀ w₀ calls (.process item w)
  | save {calls q w item waiting} : Course s q₀ w₀ .rested calls q w →
      q.pending = item :: waiting →
      Upcoming s q₀ w₀ (calls ++ [.process item w])
        (.save ({ q with pending := waiting }.record item (s.process item w).1)
          (s.process item w).2)
  | pause {calls q w} : Course s q₀ w₀ .worked calls q w → Upcoming s q₀ w₀ calls (.pause w)

variable {s : Scheduler σ} {tree : σ → FileTree} {q₀ q : Progress} {w₀ w : σ} {pace : Pace}
  {calls done : List (Call σ)} {call : Call σ}

/-- **Along a run, the queue in memory is the one in the file**, as long as the saves succeed. -/
theorem Course.held (h : Course s q₀ w₀ pace calls q w) (hkept : s.KeptIn store store.Hosts tree)
    (hstart : Held store q₀ (tree w₀)) (hsaves : ∀ call ∈ calls, call.Succeeds s store tree) :
    Held store q (tree w) := by
  induction h with
  | start => exact hstart
  | @item calls q w item waiting _ _ _ ih =>
      have hbefore := ih fun call hcall => hsaves call (List.mem_append_left _ hcall)
      have hworked := hbefore.of_spares (hkept.process_spares item w hbefore.1)
      obtain ⟨now, hnow, htree⟩ := hkept.save_eq
        ({ q with pending := waiting }.record item (s.process item w).1) (s.process item w).2
      have hsaved := hsaves (.save
        ({ q with pending := waiting }.record item (s.process item w).1) (s.process item w).2)
        (by simp)
      simp only [Call.Succeeds, saved, hnow] at hsaved
      have hq : (s.handle item { q with pending := waiting } w).2.1 =
          { { q with pending := waiting }.record item (s.process item w).1 with
            lastRun := some now } := by
        simp [handle, saved, hnow]
      rw [hq]
      show Held store _ (tree (s.save _ _).2)
      rw [htree]
      exact hworked.of_write hsaved
  | pause _ _ _ ih =>
      have hbefore := ih fun call hcall => hsaves call (List.mem_append_left _ hcall)
      exact hbefore.of_spares (hkept.pause_spares _ hbefore.1)

/-- Every call of a course comes behind a course. -/
theorem Course.upcoming (h : Course s q₀ w₀ pace calls q w) :
    AtEach (Upcoming s q₀ w₀) calls := by
  induction h with
  | start => exact atEach_nil _
  | item hbefore hq _ ih =>
      rw [List.append_cons]
      exact (ih.concat (.process hbefore hq)).concat (.save hbefore hq)
  | pause hbefore _ _ ih => exact ih.concat (.pause hbefore)

/-- **What a kill leaves.** The calls go back to a course, whose queue or a further one is in the
file; at most one item has been worked on since. -/
theorem Upcoming.of_killed (h : Upcoming s q₀ w₀ done call)
    (hkept : s.KeptIn store store.Hosts tree) (hq₀ : q₀.Partitioned)
    (hstart : Held store q₀ (tree w₀)) (hsaves : ∀ call ∈ done, call.Succeeds s store tree)
    {t' : FileTree} (hkilled : call.Killed store store.Hosts tree t') :
    ∃ pace calls q w last, Course s q₀ w₀ pace calls q w ∧
      handed (done ++ [call]) = handed calls ++ last ∧ (last = [] ∨ ∃ item, last = [item]) ∧
      savedQueues done = savedQueues calls ∧ store.Hosts t' ∧
      (store.load t').Partitioned ∧ q.Advances (store.load t') := by
  cases h with
  | @process calls q w item waiting hcourse hq =>
      have hheld := (hcourse.held hkept hstart hsaves).of_spares hkilled
      have hpart := (hcourse.partitioned hq₀).1
      refine ⟨_, done, q, w, [item], hcourse, by simp, .inr ⟨item, rfl⟩, rfl, hheld.1, ?_⟩
      rw [hheld.2]
      exact ⟨hpart, hpart.advances⟩
  | @save calls q w item waiting hcourse hq =>
      have hbefore := hcourse.held hkept hstart
        fun call hcall => hsaves call (List.mem_append_left _ hcall)
      have hworked := hbefore.of_spares (hkept.process_spares item w hbefore.1)
      have hpart := (hcourse.partitioned hq₀).1
      have hfiled := hpart.record_next hq (s.process item w).1
      obtain ⟨now, hcut⟩ := hkilled
      refine ⟨_, calls, q, w, [item], hcourse, by simp, .inr ⟨item, rfl⟩, by simp, ?_⟩
      rcases hworked.of_cut hcut with hheld | hheld
      · rw [hheld.2]
        exact ⟨hheld.1, hpart, hpart.advances⟩
      · rw [hheld.2]
        exact ⟨hheld.1, hfiled, (hpart.advances_record_next hq _).stamped _⟩
  | @pause _ q w hcourse =>
      have hheld := (hcourse.held hkept hstart hsaves).of_spares hkilled
      have hpart := (hcourse.partitioned hq₀).1
      refine ⟨_, done, q, w, [], hcourse, by simp, .inl rfl, rfl, hheld.1, ?_⟩
      rw [hheld.2]
      exact ⟨hpart, hpart.advances⟩

end Scheduler

/-! ## One round -/

/-- A scan leaves the queue that it makes in the file. It is further on than the one before, what
has been listed is in it, and what waits has been listed. -/
theorem Queued.sound {t t₁ : FileTree} {found : List String} {q : Progress}
    (h : Queued store t found q t₁) (hosts : store.Hosts t) (hpart : (store.load t).Partitioned) :
    Held store q t₁ ∧ q.Partitioned ∧ (store.load t).Advances q ∧
      (∀ item ∈ found, item ∈ q.items) ∧ ∀ item ∈ q.pending, item ∈ found := by
  cases h with
  | @scan options now root hsaved =>
      have hheld : Held store (store.load t) t := ⟨hosts, rfl⟩
      exact ⟨hheld.of_write hsaved, options.partitioned_reconcile t _ hpart,
        (options.advances_reconcile t _ hpart).stamped _,
        fun item => options.mem_items_of_listed t _, fun item => options.listed_of_pending t _⟩

/-- What holds of a round from a tree with a partitioned queue. -/
structure Round.Sound (round : Round) (store : Store) (t : FileTree) : Prop where
  hosts : store.Hosts round.after
  partitioned : (store.load round.after).Partitioned
  /-- The queues that are saved advance, from the one in the file to the one that is left there. -/
  rising : (store.load t :: round.saves ++ [store.load round.after]).Pairwise Advances
  /-- Nothing that is finished already is worked on. -/
  fresh : ∀ item ∈ round.handed, item ∈ round.found ∧ item ∉ (store.load t).finished
  once : round.handed.Nodup
  /-- Only the last item can be lost, by a kill. -/
  lost_cases : round.lost store = [] ∨ round.memory = none ∧
    ∃ item, round.lost store = [item] ∧ round.handed.getLast? = some item
  /-- When nothing waits at the end, all that was listed is finished. -/
  drained : ∀ q, round.memory = some q → q.pending = [] →
    ∀ item ∈ round.found, item ∈ (store.load round.after).finished

theorem Leg.mem_lost {leg : Leg} {item : String} :
    item ∈ leg.lost store ↔ item ∈ leg.handed ∧ item ∉ (store.load leg.after).finished := by
  rw [Leg.lost, List.mem_filter, Bool.not_eq_true', Bool.eq_false_iff, ne_eq, leg.keeps_iff]
  rfl

/-- What is finished in the file is not lost. -/
theorem Leg.lost_eq (leg : Leg) {kept last : List String} (h : leg.handed = kept ++ last)
    (hkept : ∀ item ∈ kept, item ∈ (store.load leg.after).finished) :
    leg.lost store = last.filter (!leg.keeps store ·) := by
  have hnone : kept.filter (!leg.keeps store ·) = [] := by
    refine List.filter_eq_nil_iff.mpr fun item hitem => ?_
    rw [(leg.keeps_iff store item).mpr (hkept item hitem)]
    nofun
  rw [Leg.lost, h, List.filter_append, hnone, List.nil_append]

/-- When all items but the last one are finished in the file, only that one can be lost. -/
theorem Leg.lost_cases (leg : Leg) {kept : List String} {item : String}
    (h : leg.handed = kept ++ [item])
    (hkept : ∀ item ∈ kept, item ∈ (store.load leg.after).finished) :
    leg.lost store = [] ∨ leg.lost store = [item] ∧ leg.handed.getLast? = some item := by
  rw [leg.lost_eq h hkept, List.filter_cons, List.filter_nil, h, List.getLast?_concat]
  split
  · exact .inr ⟨rfl, rfl⟩
  · exact .inl rfl

/-- The queues from the one before a scan to the last one of the run behind it. -/
theorem rising_cons {q₀ q : Progress} {saves : List Progress} (h : (q :: saves).Pairwise Advances)
    (hq : q₀.Advances q) : (q₀ :: q :: saves).Pairwise Advances := by
  refine List.pairwise_cons.mpr ⟨fun x hx => ?_, h⟩
  rcases List.mem_cons.mp hx with rfl | hx
  · exact hq
  · exact hq.trans ((List.pairwise_cons.mp h).1 x hx)

/-- **What a round does**, whether it is killed or not. -/
theorem Round.Possible.sound {t : FileTree} {round : Round}
    (h : round.Possible store store.Hosts t) (hosts : store.Hosts t)
    (hpart : (store.load t).Partitioned) : round.Sound store t := by
  cases h with
  | @finished found q t₁ σ s tree w hqueued hkept hw hsaves =>
      obtain ⟨hheld, hq, hadvances, hfound, hlisted⟩ := hqueued.sound hosts hpart
      obtain ⟨pace, hcourse⟩ := course_run s q w
      obtain ⟨hosts', hload⟩ := hcourse.held hkept (hw ▸ hheld) hsaves
      obtain ⟨hwaiting, honce⟩ := hcourse.handed_fresh
      have hlost : Leg.lost ⟨handed (s.runCalls q w), some (s.run q w).2.1,
          tree (s.run q w).2.2⟩ store = [] := by
        refine Leg.lost_eq _ (List.append_nil _).symm fun item hitem => ?_
        show item ∈ (store.load (tree (s.run q w).2.2)).finished
        rw [hload]
        exact hcourse.finished_of_handed item hitem
      refine ⟨hosts', ?_, ?_, fun item hitem => ?_, honce, .inl hlost, ?_⟩
      · rw [hload]
        exact (hcourse.partitioned hq).1
      · rw [hload]
        exact rising_cons (hcourse.rising hq) hadvances
      · have hpending := hwaiting item hitem
        exact ⟨hlisted item hpending, fun hfinished =>
          hadvances.settled item hfinished hpending⟩
      · rintro _ ⟨⟩ hdrained item hitem
        have hitems := (hcourse.sameItems_end item).mpr (hfound item hitem)
        rw [mem_items_iff, hdrained] at hitems
        rw [hload]
        exact hitems.resolve_left List.not_mem_nil
  | @killedInScan options now root t' hcut =>
      have hheld : Held store (store.load t) t := ⟨hosts, rfl⟩
      have hadvances := options.advances_reconcile t (t.listFiles root) hpart
      have hreconciled := options.partitioned_reconcile t (t.listFiles root) hpart
      -- the file holds the old queue or the one that the scan has made
      have hleft : store.Hosts t' ∧ (store.load t').Partitioned ∧
          (store.load t).Advances (store.load t') := by
        rcases hheld.of_cut hcut with hold | hnew
        · rw [hold.2]
          exact ⟨hold.1, hpart, hpart.advances⟩
        · rw [hnew.2]
          exact ⟨hnew.1, hreconciled, hadvances.stamped _⟩
      refine ⟨hleft.1, hleft.2.1, ?_, nofun, List.nodup_nil, .inl rfl, nofun⟩
      have hsame : [store.load t', store.load t'].Pairwise Advances := by
        simpa using hleft.2.1.advances
      exact rising_cons hsame hleft.2.2
  | @killedInRun found q t₁ σ s tree w done rest call t' hqueued hkept hw hcalls hsaves hkilled =>
      obtain ⟨hheld, hq, hadvances, hfound, hlisted⟩ := hqueued.sound hosts hpart
      obtain ⟨_, hrun⟩ := course_run s q w
      obtain ⟨hwaiting, honce⟩ := hrun.handed_fresh
      obtain ⟨pace, calls, q', w', last, hcourse, hhanded, hlast, hsaved, hosts', hpart', hleft⟩ :=
        (hrun.upcoming done call rest hcalls).of_killed hkept hq (hw ▸ hheld) hsaves hkilled
      have hfront : handed (s.runCalls q w) = handed (done ++ [call]) ++ handed rest := by
        rw [hcalls, List.append_cons, handed_append]
      have hkept : ∀ item ∈ handed calls, item ∈ (store.load t').finished := fun item hitem =>
        hleft.finished item (hcourse.finished_of_handed item hitem)
      refine ⟨hosts', hpart', ?_, fun item hitem => ?_, ?_, ?_, nofun⟩
      · have hsaves := rising_concat (rising_replace (hcourse.rising hq) hleft) hpart'.advances
        rw [hsaved]
        exact rising_cons hsaves hadvances
      · have hpending := hwaiting item (hfront ▸ List.mem_append_left _ hitem)
        exact ⟨hlisted item hpending, fun hfinished =>
          hadvances.settled item hfinished hpending⟩
      · rw [hfront] at honce
        exact (List.nodup_append.mp honce).1
      · rcases hlast with rfl | ⟨item, rfl⟩
        · exact .inl (Leg.lost_eq ⟨handed (done ++ [call]), none, t'⟩ hhanded hkept)
        · have hlost := Leg.lost_cases ⟨handed (done ++ [call]), none, t'⟩ hhanded hkept
          exact hlost.imp_right fun hitem => ⟨rfl, item, hitem⟩

/-! ## Any number of rounds -/

/-- What is worked on in any round was not finished at the start. -/
theorem Career.fresh {t t' : FileTree} {rounds : List Round}
    (h : Career store store.Hosts (store.Spares store.Hosts) t rounds t') (hosts : store.Hosts t)
    (hpart : (store.load t).Partitioned) :
    ∀ round ∈ rounds, ∀ item ∈ round.handed,
      item ∈ round.found ∧ item ∉ (store.load t).finished := by
  induction h with
  | nil => exact nofun
  | @round t t₁ t₂ first rounds hspares hpossible _ ih =>
      have hsound := hpossible.sound hspares.1 (hspares.2 ▸ hpart)
      have hadvances : (store.load t).Advances (store.load first.after) := by
        have hrising := List.pairwise_append.mp hsound.rising
        have hlast := hrising.2.2 (store.load t₁) List.mem_cons_self _ (List.mem_singleton_self _)
        rwa [hspares.2] at hlast
      intro round hround item hitem
      rcases List.mem_cons.mp hround with rfl | hround
      · have hnew := hsound.fresh item hitem
        rwa [hspares.2] at hnew
      · -- what is finished at the start is finished when the later rounds begin
        obtain ⟨hfound, hnew⟩ := ih hsound.hosts hsound.partitioned round hround item hitem
        exact ⟨hfound, fun hfinished => hnew (hadvances.finished item hfinished)⟩

/-- Two rounds of a career, in this order. -/
structure Round.Precedes (store : Store) (earlier later : Round) : Prop where
  /-- An item is worked on again only if it was lost. -/
  again : ∀ item ∈ earlier.handed, item ∈ later.handed → item ∈ earlier.lost store
  /-- When nothing was left waiting and nothing new is found, nothing is worked on. -/
  idle : ∀ q, earlier.memory = some q → q.pending = [] → later.found ⊆ earlier.found →
    later.handed = []

/-- **Nothing is worked on twice, and nothing is undone**, over any number of rounds. The queues
that are saved advance. In each round nothing is worked on twice, and no item is lost but maybe the
last one, by a kill. An item that is worked on in two rounds was lost in the earlier one; and after
a round that has left nothing waiting, a round that finds nothing new has nothing to do. -/
theorem Career.at_most_once {t t' : FileTree} {rounds : List Round} (hosts : store.Hosts t)
    (hpart : (store.load t).Partitioned)
    (h : Career store store.Hosts (store.Spares store.Hosts) t rounds t') :
    (store.load t :: rounds.flatMap Round.saves).Pairwise Advances ∧
    (∀ round ∈ rounds, round.handed.Nodup ∧
      (round.lost store = [] ∨ round.memory = none ∧
        ∃ item, round.lost store = [item] ∧ round.handed.getLast? = some item)) ∧
    rounds.Pairwise (Round.Precedes store) := by
  induction h with
  | nil => exact ⟨List.pairwise_singleton _ _, nofun, List.Pairwise.nil⟩
  | @round t t₁ t₂ first rounds hspares hpossible hcareer ih =>
      have hsound := hpossible.sound hspares.1 (hspares.2 ▸ hpart)
      obtain ⟨hrising, hrounds, hpairs⟩ := ih hsound.hosts hsound.partitioned
      refine ⟨?_, ?_, List.pairwise_cons.mpr ⟨fun later hlater => ?_, hpairs⟩⟩
      · rw [List.flatMap_cons, ← hspares.2]
        exact rising_append hsound.rising hrising
      · intro round hround
        rcases List.mem_cons.mp hround with rfl | hround
        · exact ⟨hsound.once, hsound.lost_cases⟩
        · exact hrounds round hround
      · have hfresh := hcareer.fresh hsound.hosts hsound.partitioned later hlater
        refine ⟨fun item hfirst hagain => ?_, fun q hq hdrained hfound => ?_⟩
        · exact Leg.mem_lost.mpr ⟨hfirst, (hfresh item hagain).2⟩
        · refine List.eq_nil_iff_forall_not_mem.mpr fun item hitem => ?_
          obtain ⟨hlisted, hnew⟩ := hfresh item hitem
          exact hnew (hsound.drained q hq hdrained item (hfound hlisted))

/-! ## Rounds of the keeper -/

theorem Scanned.queued {items : List String} {t t₁ : FileTree} {q : Progress}
    (h : Scanned store items t q t₁) : Queued store t items q t₁ := by
  cases h with
  | scan _ hlisted hsaved =>
      rw [← hlisted]
      exact .scan hsaved

/-- A round that finds nothing to do. -/
theorem Round.Possible.of_pending_nil {Fit : FileTree → Prop} {t t₁ : FileTree}
    {found : List String} {q : Progress} (hqueued : Queued store t found q t₁)
    (hq : q.pending = []) : Possible store Fit t ⟨⟨[], some q, t₁⟩, found, [q]⟩ := by
  obtain ⟨hcalls, hrun⟩ := keeper_run_none store (fun _ => .completed) hq t₁
  have hworld : id t₁ = t₁ := rfl
  have hround : Possible store Fit t _ :=
    .finished hqueued (keeper_keptIn store _ Fit) hworld
      (keeper_succeeds_none store (fun _ => .completed) hq t₁)
  rw [hcalls, hrun] at hround
  exact hround

/-- A round that is killed in its scan. -/
theorem Round.Possible.of_killed_scan {Fit : FileTree → Prop} {t t' : FileTree} {q : Progress}
    (hlisted : scanning.listed t ⟨["."]⟩ = ["./b.c"]) (hload : store.load t = q)
    (hcut : store.Cut t (rescanned q) t') :
    Possible store Fit t ⟨⟨[], none, t'⟩, ["./b.c"], [store.load t']⟩ := by
  rw [← reconcile_shelf hlisted, ← hload] at hcut
  rw [← hlisted]
  exact .killedInScan hcut

/-- A round that is killed while it works on the only item. -/
theorem Round.Possible.of_killed_singleton {Fit : FileTree → Prop} {t t₁ : FileTree}
    {found : List String} {q : Progress} {item : String} (hqueued : Queued store t found q t₁)
    (hq : q.pending = [item]) (ht₁ : Fit t₁) :
    Possible store Fit t ⟨⟨[item], none, t₁⟩, found, [q, store.load t₁]⟩ := by
  obtain ⟨hcalls, _⟩ := keeper_run_one store (fun _ => .completed) hq t₁
  have hworld : id t₁ = t₁ := rfl
  have hround : Possible store Fit t _ :=
    .killedInRun hqueued (keeper_keptIn store _ Fit) hworld
      (hcalls.trans (List.nil_append _).symm) nofun ⟨ht₁, rfl⟩
  exact hround

/-- A round that works on the only item. -/
theorem Round.Possible.of_pending_singleton {Fit : FileTree → Prop} {t t₁ t₂ : FileTree}
    {found : List String} {q q' : Progress} {item : String} (hqueued : Queued store t found q t₁)
    (hq : q.pending = [item])
    (hq' : q' = { { q with pending := [] }.record item .completed with lastRun := some "now" })
    (hwrite : store.write t₁ q' = (t₂, true)) :
    Possible store Fit t ⟨⟨[item], some q', t₂⟩, found,
      [q, { q with pending := [] }.record item .completed]⟩ := by
  subst hq'
  obtain ⟨hcalls, hrun⟩ := keeper_run_one store (fun _ => .completed) hq t₁
  have hworld : id t₁ = t₁ := rfl
  have hsaves : ∀ call ∈ (keeper store fun _ => .completed).runCalls q t₁, _ :=
    keeper_succeeds_one hq hwrite
  have hround : Possible store Fit t _ :=
    .finished hqueued (keeper_keptIn store _ Fit) hworld hsaves
  rw [hcalls, hrun, Store.save, hwrite] at hround
  exact hround

/-- An instance: a round is killed while it works on the item, and the next one works on it
again. -/
theorem Career.at_most_once_shelf :
    ∃ first second : Round, note.Hosts (shelf .empty) ∧ (note.load (shelf .empty)).Partitioned ∧
      Career note note.Hosts (note.Spares note.Hosts) (shelf .empty) [first, second]
        second.after ∧
      first.handed = ["./b.c"] ∧ second.handed = ["./b.c"] ∧ "./b.c" ∈ first.lost note ∧
      (note.load (shelf .empty) :: [first, second].flatMap Round.saves).Pairwise Advances := by
  have hfirst : Round.Possible note note.Hosts (shelf .empty) _ :=
    .of_killed_singleton (scanned_shelf .empty).queued rfl (hosts_shelf _)
  have hsecond : Round.Possible note note.Hosts (shelf (rescanned .empty)) _ :=
    .of_pending_singleton (scanned_shelf (rescanned .empty)).queued rfl rfl (write_shelf _ _)
  have hcareer : Career note note.Hosts (note.Spares note.Hosts) (shelf .empty) _ _ :=
    .round ⟨hosts_shelf .empty, rfl⟩ hfirst
      (.round ⟨hosts_shelf (rescanned .empty), rfl⟩ hsecond .nil)
  have hpart : (note.load (shelf .empty)).Partitioned := by
    rw [load_shelf]
    exact partitioned_empty
  obtain ⟨hrising, -, hpairs⟩ := Career.at_most_once (hosts_shelf .empty) hpart hcareer
  have hlost := (List.pairwise_pair.mp hpairs).again "./b.c" List.mem_cons_self List.mem_cons_self
  exact ⟨_, _, hosts_shelf .empty, hpart, hcareer, rfl, rfl, hlost, hrising⟩

/-! ## Trees that do not host the queue, and changes on the way to it -/

/-- From this tree, an item that is completed in a queue that was saved may be missing in a later
one, when somebody else alters the tree like this between the rounds. -/
def Relapses (store : Store) (Alter : FileTree → FileTree → Prop) (t : FileTree) : Prop :=
  t.WellFormed ∧ (store.load t).Partitioned ∧
    ∃ rounds t', Career store WellFormed Alter t rounds t' ∧
      ∃ q q' item, [q, q'].Sublist (store.load t :: rounds.flatMap Round.saves) ∧
        item ∈ q.completed ∧ item ∉ q'.completed

theorem partitioned_settled : settled.Partitioned := by
  unfold Progress.Partitioned
  decide

/-- The temporary file is a link to the file, which the first round replaces by a link to itself. -/
theorem relapses_linked : Relapses note (note.Spares WellFormed) (linked settled) := by
  have hlinked : (linked settled).WellFormed := wellFormed_of_flat (by decide)
  have hlooped : looped.WellFormed := wellFormed_of_flat (by decide)
  have hfirst : Round.Possible note WellFormed (linked settled) _ :=
    .of_pending_nil (scanned_linked settled).queued rfl
  have hsecond : Round.Possible note WellFormed looped _ :=
    .of_killed_singleton scanned_looped.queued rfl (wellFormed_shelf _)
  refine ⟨hlinked, by rw [load_linked]; exact partitioned_settled, _, _,
    .round ⟨hlinked, rfl⟩ hfirst (.round ⟨hlooped, rfl⟩ hsecond .nil),
    rescanned settled, rescanned .empty, "./b.c", ?_, by decide, by decide⟩
  exact .cons _ (.cons_cons _ (.cons_cons _ (.cons _ .slnil)))

/-- The file is a link to the temporary file, which the first round begins to write. -/
theorem relapses_aliased :
    Relapses note (note.Spares WellFormed) (aliased settled.print.toUTF8) := by
  have haliased : ∀ bytes, (aliased bytes).WellFormed := fun _ =>
    wellFormed_of_flat (by simp [aliased])
  have hsettled := (load_aliased settled.print.toUTF8).trans (Store.decoded_print settled)
  have hemptied := (load_aliased .empty).trans decoded_empty
  have hcut : note.Cut (aliased settled.print.toUTF8) (rescanned settled) (aliased .empty) := by
    refine .staging 0 (note_prepare _) ?_
    rw [note_temporary, ByteArray.extract_same]
    exact stage_aliased _ _
  have hfirst : Round.Possible note WellFormed (aliased settled.print.toUTF8) _ :=
    .of_killed_scan (listed_aliased _) hsettled hcut
  have hsecond : Round.Possible note WellFormed (aliased .empty) _ :=
    .of_killed_singleton
      (scanned_of_write (listed_aliased _) hemptied (write_aliased _ _)).queued rfl
      (wellFormed_shelf _)
  refine ⟨haliased _, by rw [hsettled]; exact partitioned_settled, _, _,
    .round ⟨haliased _, rfl⟩ hfirst (.round ⟨haliased _, rfl⟩ hsecond .nil),
    settled, rescanned .empty, "./b.c", ?_, by decide, by decide⟩
  rw [hsettled]
  exact .cons_cons _ (.cons _ (.cons_cons _ (.cons _ .slnil)))

/-- The path goes into a directory and up again, and somebody removes the directory. -/
theorem relapses_upward :
    Relapses roundabout (fun t t' => t' = t ∨ t.removeAll ⟨["new"]⟩ = .ok t') (opened settled) := by
  have hopened : (opened settled).WellFormed := wellFormed_of_flat (by simp [opened])
  have hdetoured : (detoured (rescanned .empty)).WellFormed :=
    wellFormed_of_flat (by simp [detoured])
  have hfirst : Round.Possible roundabout WellFormed (opened settled) _ :=
    .of_pending_nil (scanned_of_write (listed_opened _) (load_opened _)
      (write_of_prepare _ (prepare_opened _) (.inl rfl))).queued rfl
  have hremoved : (detoured (rescanned settled)).removeAll ⟨["new"]⟩ =
      .ok (shelf (rescanned settled)) := by
    simp +decide [FileTree.removeAll, resolve_of_no_fault fault?_new, walkFrom, Path.home, get?,
      detoured, shelf, List.lookup_cons, bind, Except.bind]
  have hsecond : Round.Possible roundabout WellFormed (shelf (rescanned settled)) _ :=
    .of_killed_singleton (scanned_of_write (listed_shelf _) (load_shelf_roundabout _)
      (write_of_prepare _ (prepare_shelf _) (.inl rfl))).queued rfl hdetoured
  refine ⟨hopened, by rw [load_opened]; exact partitioned_settled, _, _,
    .round (.inl rfl) hfirst (.round (.inr hremoved) hsecond .nil),
    rescanned settled, rescanned .empty, "./b.c", ?_, by decide, by decide⟩
  exact .cons _ (.cons_cons _ (.cons_cons _ (.cons _ .slnil)))

/-! ### The file is a link on the way to its own directory -/

/-- The store whose file is a link, and whose directory is found behind the link. -/
def curled : Store := ⟨⟨["here", "here"]⟩⟩

/-- A tree with a file to work on and its artifact, in which the link leads to the top. -/
def curl : FileTree :=
  ⟨[(["b.c"], .file .empty), (["docs"], .directory), (["docs", "b_x.md"], .file .empty),
    (["here"], .link ⟨["."]⟩)]⟩

/-- The tree in which the link has been replaced. -/
def uncurled (q : Progress) : FileTree :=
  ⟨[(["b.c"], .file .empty), (["docs"], .directory), (["docs", "b_x.md"], .file .empty),
    (["here"], .file q.print.toUTF8)]⟩

theorem fault?_curled : (⟨["here", "here"]⟩ : Path).fault? = none := by decide

theorem fault?_here : (⟨["here"]⟩ : Path).fault? = none := by decide

theorem fault?_curled_temporary : (⟨["here", "here.json.tmp"]⟩ : Path).fault? = none := by decide

theorem write_curl (q : Progress) : curled.write curl q = (uncurled q, true) := by
  have hparent : curled.path.parent? = some ⟨["here"]⟩ := by decide
  have htemporary : curled.temporary = ⟨["here", "here.json.tmp"]⟩ := by decide
  have hprepare : curled.prepare curl = (curl, .ok ()) := by
    simp +decide [Store.prepare, hparent, createDirectories, createUpward, createDirectory,
      resolve_of_no_fault fault?_here, walkFrom, Path.home, get?, curl, List.lookup_cons, bind,
      Except.bind, isDirectory, node?, linkBudget]
  have hstage : curl.write curled.temporary q.print.toUTF8 =
      .ok (curl.insert ["here.json.tmp"] (.file q.print.toUTF8)) := by
    rw [htemporary]
    simp +decide [FileTree.write, resolve_of_no_fault fault?_curled_temporary, walkFrom, Path.home,
      get?, curl, List.lookup_cons, bind, Except.bind, linkBudget]
  refine Store.write_eq_of_steps hprepare hstage ?_
  rw [htemporary]
  simp +decide [curled, FileTree.rename, resolve_of_no_fault fault?_curled_temporary,
    resolve_of_no_fault fault?_curled, walkFrom, Path.home, get?, curl, uncurled,
    List.lookup_cons, bind, Except.bind, FileTree.insert, erase, linkBudget]

theorem load_curl : curled.load curl = .empty := by
  have hread : curl.read ⟨["here", "here"]⟩ = .error .isADirectory := by
    simp +decide [FileTree.read, resolve_of_no_fault fault?_curled, walkFrom, Path.home, get?,
      curl, List.lookup_cons, bind, Except.bind, linkBudget]
  refine Store.load_of_read_ne_ok fun bytes hok => ?_
  rw [curled, hread] at hok
  cases hok

theorem load_uncurled (q : Progress) : curled.load (uncurled q) = .empty := by
  have hread : (uncurled q).read ⟨["here", "here"]⟩ = .error .notADirectory := by
    simp +decide [FileTree.read, resolve_of_no_fault fault?_curled, walkFrom, Path.home, get?,
      uncurled, List.lookup_cons, bind, Except.bind]
  refine Store.load_of_read_ne_ok fun bytes hok => ?_
  rw [curled, hread] at hok
  cases hok

/-- The scan that takes a file with an artifact for completed. -/
def healing : ScanOptions := ⟨.standard, "docs", true, ["_x.md"]⟩

theorem listFiles_curl :
    curl.listFiles ⟨["."]⟩ = [⟨[".", "b.c"]⟩, ⟨[".", "docs", "b_x.md"]⟩] := by
  have hbelow : curl.regularBelow [] = [["b.c"], ["docs", "b_x.md"]] := by
    simp +decide [regularBelow, curl, isRegular, namesBelow?, List.mergeSort,
      List.MergeSort.Internal.splitInTwo, keyLe]
  rw [listFiles_of_regularBelow hbelow (by decide)]
  decide

/-- The file has an artifact, and is taken for completed. -/
theorem reconcile_curl :
    healing.reconcile curl (curl.listFiles ⟨["."]⟩) .empty = ⟨[], ["./b.c"], [], none⟩ := by
  have hartifact : Lesson.artifactPath ⟨[".", "b.c"]⟩ "docs" "_x.md" =
      ⟨[".", "docs", "b_x.md"]⟩ := by decide
  have hfault : (⟨[".", "docs", "b_x.md"]⟩ : Path).fault? = none := by decide
  have hskips : healing.skips curl ⟨[".", "b.c"]⟩ = true := by
    simp +decide [ScanOptions.skips, healing, Lesson.artifactsExist, hartifact, isFile, node?,
      resolve_of_no_fault hfault, walkFrom, Path.home, get?, curl, List.lookup_cons]
  have haccepts : healing.rules.accepts ⟨[".", "b.c"]⟩ = true := by decide
  have hrefuses : healing.rules.accepts ⟨[".", "docs", "b_x.md"]⟩ = false := by decide
  have hname : (⟨[".", "b.c"]⟩ : Path).toString = "./b.c" := by decide
  rw [listFiles_curl, ScanOptions.reconcile, List.foldl_cons, List.foldl_cons, List.foldl_nil]
  simp only [ScanOptions.place, haccepts, hrefuses, hskips, hname]
  decide

theorem wellFormed_curl : curl.WellFormed :=
  wellFormed_of_nodes (by simp +decide [curl, IsDirectory, get?, List.lookup_cons])

theorem wellFormed_uncurled (q : Progress) : (uncurled q).WellFormed :=
  wellFormed_of_nodes (by simp +decide [uncurled, IsDirectory, get?, List.lookup_cons])

/-- The queue that the scan saves. -/
def healed : Progress := ⟨[], ["./b.c"], [], some "now"⟩

theorem queued_curl :
    Queued curled curl (healing.listed curl ⟨["."]⟩) healed (uncurled healed) := by
  have hsave : curled.save "now" curl (healing.reconcile curl (curl.listFiles ⟨["."]⟩)
      (curled.load curl)) = (uncurled healed, healed, true) := by
    rw [load_curl, reconcile_curl, Store.save, write_curl]
    rfl
  have hscan : Queued curled curl _ _ _ := .scan (congrArg (·.2.2) hsave)
  rw [ScanOptions.scan, hsave] at hscan
  exact hscan

/-- The first round replaces the link by the file, which is not found then. Somebody puts the link
back, which leaves nothing to load, as before. -/
theorem relapses_curled : Relapses curled (curled.Spares WellFormed) curl := by
  have hlisted : scanning.listed curl ⟨["."]⟩ = ["./b.c"] := by
    rw [ScanOptions.listed, listFiles_curl]
    decide
  have hrestored : curled.Spares WellFormed (uncurled healed) curl :=
    ⟨wellFormed_curl, load_curl.trans (load_uncurled healed).symm⟩
  have hfirst : Round.Possible curled WellFormed curl _ := .of_pending_nil queued_curl rfl
  have hsecond : Round.Possible curled WellFormed curl _ :=
    .of_killed_singleton (scanned_of_write hlisted load_curl (write_curl _)).queued rfl
      (wellFormed_uncurled _)
  refine ⟨wellFormed_curl, by rw [load_curl]; exact partitioned_empty, _, _,
    .round ⟨wellFormed_curl, rfl⟩ hfirst (.round hrestored hsecond .nil),
    healed, rescanned .empty, "./b.c", ?_, by decide, by decide⟩
  exact .cons _ (.cons_cons _ (.cons_cons _ (.cons _ .slnil)))

/-- **Not every tree will do**: neither one in which the temporary file is a link, nor one in which
the file is a link to it or on the way to its own directory, nor a path that goes up behind a name
where somebody may remove the directory. -/
theorem not_at_most_once :
    Relapses note (note.Spares WellFormed) (linked settled) ∧
    Relapses note (note.Spares WellFormed) (aliased settled.print.toUTF8) ∧
    Relapses curled (curled.Spares WellFormed) curl ∧
    Relapses roundabout (fun t t' => t' = t ∨ t.removeAll ⟨["new"]⟩ = .ok t') (opened settled) :=
  ⟨relapses_linked, relapses_aliased, relapses_curled, relapses_upward⟩

end SourceTutor
