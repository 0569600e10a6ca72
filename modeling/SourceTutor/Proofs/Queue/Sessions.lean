import SourceTutor.Proofs.Queue.Keeping
import SourceTutor.Proofs.Queue.Rescan

/-!
# Sessions

A session is a scan that ignores artifacts and a run of what it has queued. It goes to its end,
which may be early because somebody asks to stop, or it is killed during the scan or during the run
(`Session`). A `Leg` is what is known of it when it is over.

The number of items that the queue in the file has come to (`At`) carries everything: a run takes it
one further with each save (`Course.standing`), a kill leaves it between two saves, and a scan
starts from it with the rest of the work. So a session that starts with item number `n` works on the
items from there on, and all but at most one of them are saved (`Session.takes`).
-/

set_option autoImplicit false

namespace SourceTutor

open FileTree Progress Scheduler

variable {σ : Type}

/-! ## Sessions and schedules -/

/-- The save succeeds. -/
def Call.Succeeds (s : Scheduler σ) (store : Store) (tree : σ → FileTree) : Call σ → Prop
  | .save q w => (store.write (tree w) (s.saved q w).1).2 = true
  | _ => True

/-- What is known of a session when it is over. -/
structure Leg where
  /-- The items worked on, in order. -/
  handed : List String
  /-- The queue in memory at the end of the run, unless the session was killed. -/
  memory : Option Progress
  /-- The tree that is left. -/
  after : FileTree

namespace Leg

/-- Whether the outcome of an item is in the queue that the session leaves in the file. -/
def keeps (leg : Leg) (store : Store) (item : String) : Bool :=
  (store.load leg.after).isCompleted item || (store.load leg.after).isFailed item

theorem keeps_iff (leg : Leg) (store : Store) (item : String) :
    leg.keeps store item = true ↔
      item ∈ (store.load leg.after).completed ++ (store.load leg.after).failed := by
  simp [keeps, isCompleted, isFailed]

/-- The items worked on whose outcomes are saved. -/
def saved (leg : Leg) (store : Store) : List String := leg.handed.filter (leg.keeps store)

/-- The items worked on whose outcomes are lost. -/
def lost (leg : Leg) (store : Store) : List String := leg.handed.filter (!leg.keeps store ·)

end Leg

/-- A scan that ignores artifacts finds the items and is saved. The queue and the tree are those
that it leaves. -/
inductive Scanned (store : Store) (items : List String) (t : FileTree) :
    Progress → FileTree → Prop
  | scan {options : ScanOptions} {now : String} {root : Path} :
      options.skipExisting = false → options.listed t root = items →
      (store.save now t (options.reconcile t (t.listFiles root) (store.load t))).2.2 = true →
      Scanned store items t (options.scan store now root t).2 (options.scan store now root t).1

/-- The scheduler keeps its queue in the store, and the outcome of an item depends on the item
only. -/
structure Scheduler.WorksIn (s : Scheduler σ) (store : Store) (Fit : FileTree → Prop)
    (outcome : String → Outcome) (tree : σ → FileTree) : Prop
    extends s.KeptIn store Fit tree where
  process_eq : ∀ item w, (s.process item w).1 = outcome item

/-- A session from a tree: a scan, and a run of what it has queued. All saves succeed, except one
that is cut short by a kill. -/
inductive Session (store : Store) (Fit : FileTree → Prop) (items : List String)
    (outcome : String → Outcome) (t : FileTree) : Leg → Prop
  | finished {q t₁} {σ : Type} {s : Scheduler σ} {tree : σ → FileTree} {w : σ} :
      Scanned store items t q t₁ → s.WorksIn store Fit outcome tree → tree w = t₁ →
      (∀ call ∈ s.runCalls q w, call.Succeeds s store tree) →
      Session store Fit items outcome t
        ⟨handed (s.runCalls q w), some (s.run q w).2.1, tree (s.run q w).2.2⟩
  | killedInScan {options : ScanOptions} {now : String} {root : Path} {t'} :
      options.skipExisting = false → options.listed t root = items →
      store.Cut t { options.reconcile t (t.listFiles root) (store.load t) with
        lastRun := some now } t' →
      Session store Fit items outcome t ⟨[], none, t'⟩
  | killedInRun {q t₁} {σ : Type} {s : Scheduler σ} {tree : σ → FileTree} {w : σ}
      {done rest : List (Call σ)} {call : Call σ} {t'} :
      Scanned store items t q t₁ → s.WorksIn store Fit outcome tree → tree w = t₁ →
      s.runCalls q w = done ++ call :: rest → (∀ call ∈ done, call.Succeeds s store tree) →
      call.Killed store Fit tree t' →
      Session store Fit items outcome t ⟨handed (done ++ [call]), none, t'⟩

/-- Sessions one after the other. In between, somebody else may change the tree. -/
inductive Schedule (store : Store) (Fit : FileTree → Prop) (items : List String)
    (outcome : String → Outcome) (t₀ : FileTree) : List Leg → FileTree → Prop
  | nil : Schedule store Fit items outcome t₀ [] t₀
  | leg {legs t t' leg} : Schedule store Fit items outcome t₀ legs t → store.Spares Fit t t' →
      Session store Fit items outcome t' leg →
      Schedule store Fit items outcome t₀ (legs ++ [leg]) leg.after

/-! ## Along a run -/

/-- A statement about each call of a list and the calls before it. -/
def AtEach (Q : List (Call σ) → Call σ → Prop) (calls : List (Call σ)) : Prop :=
  ∀ done call rest, calls = done ++ call :: rest → Q done call

theorem atEach_nil (Q : List (Call σ) → Call σ → Prop) : AtEach Q [] := by
  intro done call rest h
  cases done <;> cases h

theorem AtEach.concat {Q : List (Call σ) → Call σ → Prop} {calls : List (Call σ)}
    {call : Call σ} (h : AtEach Q calls) (hlast : Q calls call) : AtEach Q (calls ++ [call]) := by
  intro done other rest heq
  rcases List.eq_nil_or_concat rest with rfl | ⟨front, last, rfl⟩
  · obtain ⟨rfl, hcall⟩ := List.append_inj' heq rfl
    rw [← List.singleton_inj.mp hcall]
    exact hlast
  · rw [List.concat_eq_append, ← List.cons_append, ← List.append_assoc] at heq
    exact h done other front (List.append_inj' heq rfl).1

variable {store : Store} {start : Progress} {items : List String} {outcome : String → Outcome}

/-- In the file of the tree, the queue has come to item number `n` of the work. -/
def At (store : Store) (start : Progress) (items : List String) (outcome : String → Outcome)
    (n : Nat) (t : FileTree) : Prop :=
  store.Hosts t ∧ Reached start items outcome n (store.load t)

theorem At.of_spares {n : Nat} {t t' : FileTree} (h : At store start items outcome n t)
    (hspares : store.Spares store.Hosts t t') : At store start items outcome n t' :=
  ⟨hspares.1, by rw [hspares.2]; exact h.2⟩

/-- A queue that is saved is the one in the file. -/
theorem At.of_write {n m : Nat} {t : FileTree} {q : Progress} {stamp : Option String}
    (h : At store start items outcome n t) (hq : Reached start items outcome m q)
    (hsaved : (store.write t { q with lastRun := stamp }).2 = true) :
    At store start items outcome m (store.write t { q with lastRun := stamp }).1 := by
  obtain ⟨hosts, hload⟩ := h.1.of_write { q with lastRun := stamp }
  rw [if_pos hsaved] at hload
  refine ⟨hosts, ?_⟩
  rw [hload]
  exact ⟨hq.completed_eq, hq.failed_eq⟩

/-- A save that is cut short leaves the file where it was, or at the queue that is saved. -/
theorem At.of_cut {n m : Nat} {t t' : FileTree} {q : Progress} {stamp : Option String}
    (h : At store start items outcome n t) (hq : Reached start items outcome m q)
    (hcut : store.Cut t { q with lastRun := stamp } t') :
    At store start items outcome n t' ∨ At store start items outcome m t' := by
  obtain ⟨hosts, hload | hload⟩ := h.1.of_cut hcut
  · exact .inl ⟨hosts, by rw [hload]; exact h.2⟩
  · refine .inr ⟨hosts, ?_⟩
    rw [hload]
    exact ⟨hq.completed_eq, hq.failed_eq⟩

/-- A scan starts with the rest of the work. -/
theorem At.of_scanned {n : Nat} {t t₁ : FileTree} {q : Progress}
    (h : At store start items outcome n t) (hscan : Scanned store items t q t₁) :
    At store start items outcome n t₁ ∧ Reached start items outcome n q ∧
      q.pending = (start.work items).drop n := by
  cases hscan with
  | scan hskip hlisted hsaved =>
      obtain ⟨hreached, hpending⟩ := h.2.reconcile hskip hlisted
      exact ⟨h.of_write hreached hsaved, ⟨hreached.completed_eq, hreached.failed_eq⟩, hpending⟩

/-- What holds at a call of a run that starts with item number `n`, when these calls are made
before. -/
def Standing (store : Store) (start : Progress) (items : List String)
    (outcome : String → Outcome) (tree : σ → FileTree) (n : Nat) (done : List (Call σ)) :
    Call σ → Prop
  | .process item w => ∃ j waiting, handed done = ((start.work items).drop n).take j ∧
      (start.work items).drop (n + j) = item :: waiting ∧
      At store start items outcome (n + j) (tree w)
  | .save q w => ∃ j item waiting, handed done = ((start.work items).drop n).take j ++ [item] ∧
      (start.work items).drop (n + j) = item :: waiting ∧
      At store start items outcome (n + j) (tree w) ∧ Reached start items outcome (n + (j + 1)) q
  | .pause w => ∃ j, handed done = ((start.work items).drop n).take j ∧
      At store start items outcome (n + j) (tree w)

variable {s : Scheduler σ} {tree : σ → FileTree} {q₀ q : Progress} {w₀ w : σ} {pace : Pace}
  {calls : List (Call σ)} {n : Nat}

theorem take_succ_of_drop {work waiting : List String} {item : String} {n j : Nat}
    (h : work.drop (n + j) = item :: waiting) :
    (work.drop n).take (j + 1) = (work.drop n).take j ++ [item] := by
  rw [← List.drop_drop] at h
  exact (drop_eq_cons h).2

/-- **Each save takes the file one item further.** -/
theorem Scheduler.Course.standing (h : Course s q₀ w₀ pace calls q w)
    (hworks : s.WorksIn store store.Hosts outcome tree)
    (hpending : q₀.pending = (start.work items).drop n)
    (hreached : Reached start items outcome n q₀)
    (hstart : At store start items outcome n (tree w₀)) :
    ((∀ call ∈ calls, call.Succeeds s store tree) →
      ∃ j, handed calls = ((start.work items).drop n).take j ∧
        q.pending = (start.work items).drop (n + j) ∧
        Reached start items outcome (n + j) q ∧ At store start items outcome (n + j) (tree w)) ∧
    AtEach (fun done call => (∀ call ∈ done, call.Succeeds s store tree) →
      Standing store start items outcome tree n done call) calls := by
  induction h with
  | start => exact ⟨fun _ => ⟨0, rfl, hpending, hreached, hstart⟩, atEach_nil _⟩
  | @item calls q w item waiting _ hq _ ih =>
      -- the state in front of the item, once the calls before have succeeded
      have hbefore : (∀ call ∈ calls, call.Succeeds s store tree) →
          ∃ j, handed calls = ((start.work items).drop n).take j ∧
            (start.work items).drop (n + j) = item :: waiting ∧
            At store start items outcome (n + j) (tree w) ∧
            At store start items outcome (n + j) (tree (s.process item w).2) ∧
            Reached start items outcome (n + (j + 1))
              ({ q with pending := waiting }.record item (s.process item w).1) ∧
            ({ q with pending := waiting }.record item (s.process item w).1).pending =
              (start.work items).drop (n + (j + 1)) := by
        intro hdone
        obtain ⟨j, hhanded, hpend, hreach, hat⟩ := ih.1 hdone
        obtain ⟨hnext, hnext'⟩ := hreach.record hq hpend
        rw [hworks.process_eq item w]
        exact ⟨j, hhanded, hpend.symm.trans hq, hat,
          hat.of_spares (hworks.process_spares item w hat.1), hnext, hnext'⟩
      rw [List.append_cons]
      refine ⟨fun hall => ?_, (ih.2.concat fun hdone => ?_).concat fun hdone => ?_⟩
      · -- behind the save the file is one item further
        obtain ⟨j, hhanded, hdrop, _, hat, hnext, hnext'⟩ :=
          hbefore fun call hcall => hall call (by simp [hcall])
        refine ⟨j + 1, ?_, hnext', ⟨hnext.completed_eq, hnext.failed_eq⟩, ?_⟩
        · rw [take_succ_of_drop hdrop, ← hhanded]
          simp
        · obtain ⟨now, hnow, htree⟩ := hworks.save_eq
            ({ q with pending := waiting }.record item (s.process item w).1) (s.process item w).2
          have hsaved := hall (.save
            ({ q with pending := waiting }.record item (s.process item w).1)
            (s.process item w).2) (by simp)
          show At store start items outcome _ (tree (s.save _ _).2)
          rw [htree]
          simp only [Call.Succeeds, saved, hnow] at hsaved
          exact hat.of_write hnext hsaved
      · -- at the call that works on the item
        obtain ⟨j, hhanded, hdrop, hat, _⟩ := hbefore hdone
        exact ⟨j, waiting, hhanded, hdrop, hat⟩
      · -- at the call that saves the queue, when the file still is where it was
        obtain ⟨j, hhanded, hdrop, _, hat, hnext, _⟩ :=
          hbefore fun call hcall => hdone call (List.mem_append_left _ hcall)
        refine ⟨j, item, waiting, ?_, hdrop, hat, hnext⟩
        rw [handed_append, hhanded]
        rfl
  | @pause calls q w _ _ _ ih =>
      refine ⟨fun hall => ?_, ih.2.concat fun hdone => ?_⟩
      · obtain ⟨j, hhanded, hpend, hreach, hat⟩ :=
          ih.1 fun call hcall => hall call (List.mem_append_left _ hcall)
        refine ⟨j, ?_, hpend, hreach, hat.of_spares (hworks.pause_spares w hat.1)⟩
        rw [handed_append, hhanded]
        simp
      · obtain ⟨j, hhanded, _, _, hat⟩ := ih.1 hdone
        exact ⟨j, hhanded, hat⟩

/-! ## One session -/

/-- A session that starts with item number `n` saves the outcomes of `j` items, and loses at most
the one that is being worked on when it is killed. -/
structure Leg.Takes (leg : Leg) (store : Store) (start : Progress) (items : List String)
    (outcome : String → Outcome) (n j : Nat) (last : List String) : Prop where
  handed_eq : leg.handed = ((start.work items).drop n).take j ++ last
  after : At store start items outcome (n + j) leg.after
  last_cases : last = [] ∨ leg.memory = none ∧
    ∃ item waiting, last = [item] ∧ (start.work items).drop (n + j) = item :: waiting
  memory : ∀ q, leg.memory = some q →
    q.pending = (start.work items).drop (n + j) ∧ Reached start items outcome (n + j) q

theorem Standing.takes_of_killed {done : List (Call σ)} {call : Call σ} {t' : FileTree}
    (h : Standing store start items outcome tree n done call)
    (hkilled : call.Killed store store.Hosts tree t') :
    ∃ j last, Leg.Takes ⟨handed (done ++ [call]), none, t'⟩ store start items outcome n j last := by
  cases call with
  | process item w =>
      obtain ⟨j, waiting, hhanded, hdrop, hat⟩ := h
      refine ⟨j, [item], ?_, hat.of_spares hkilled, .inr ⟨rfl, item, waiting, rfl, hdrop⟩, nofun⟩
      rw [handed_append, hhanded]
      rfl
  | save q w =>
      obtain ⟨j, item, waiting, hhanded, hdrop, hat, hreached⟩ := h
      obtain ⟨now, hcut⟩ := hkilled
      have hhanded' : handed (done ++ [.save q w]) =
          ((start.work items).drop n).take j ++ [item] := by
        rw [handed_append, hhanded]
        simp
      -- the save is cut short before the queue is in the file, or behind
      rcases hat.of_cut hreached hcut with hat' | hat'
      · exact ⟨j, [item], hhanded', hat', .inr ⟨rfl, item, waiting, rfl, hdrop⟩, nofun⟩
      · refine ⟨j + 1, [], ?_, hat', .inl rfl, nofun⟩
        rw [List.append_nil, take_succ_of_drop hdrop]
        exact hhanded'
  | pause w =>
      obtain ⟨j, hhanded, hat⟩ := h
      refine ⟨j, [], ?_, hat.of_spares hkilled, .inl rfl, nofun⟩
      rw [handed_append, hhanded]
      rfl

/-- **A session goes on where the file is**, whether it is killed or not. -/
theorem Session.takes {t : FileTree} {leg : Leg}
    (h : Session store store.Hosts items outcome t leg)
    (hat : At store start items outcome n t) :
    ∃ j last, leg.Takes store start items outcome n j last := by
  cases h with
  | @finished q t₁ σ s tree w hscan hworks hw hsaves =>
      obtain ⟨hat₁, hreached, hpending⟩ := hat.of_scanned hscan
      obtain ⟨pace, hcourse⟩ := course_run s q w
      obtain ⟨j, hhanded, hpend, hreach, hend⟩ :=
        (hcourse.standing hworks hpending hreached (hw ▸ hat₁)).1 hsaves
      refine ⟨j, [], by rw [List.append_nil, hhanded], hend, .inl rfl, ?_⟩
      rintro q' ⟨⟩
      exact ⟨hpend, hreach⟩
  | killedInScan hskip hlisted hcut =>
      -- the queue that a scan saves has come as far as the one in the file
      refine ⟨0, [], rfl, ?_, .inl rfl, nofun⟩
      rcases hat.of_cut (hat.2.reconcile hskip hlisted).1 hcut with hat' | hat' <;> exact hat'
  | @killedInRun q t₁ σ s tree w done rest call t' hscan hworks hw hcalls hsaves hkilled =>
      obtain ⟨hat₁, hreached, hpending⟩ := hat.of_scanned hscan
      obtain ⟨pace, hcourse⟩ := course_run s q w
      have hstanding := (hcourse.standing hworks hpending hreached (hw ▸ hat₁)).2
        done call rest hcalls hsaves
      exact hstanding.takes_of_killed hkilled

namespace Leg.Takes

variable {leg : Leg} {j : Nat} {last : List String}

theorem keeps_of_mem (h : leg.Takes store start items outcome n j last) {item : String}
    (hitem : item ∈ ((start.work items).drop n).take j) : leg.keeps store item = true := by
  rw [leg.keeps_iff, h.after.2.known_iff, List.take_add]
  exact List.mem_append_right _ (List.mem_append_right _ hitem)

theorem not_keeps_of_mem (h : leg.Takes store start items outcome n j last) {item : String}
    (hitem : item ∈ last) : leg.keeps store item = false := by
  rcases h.last_cases with rfl | ⟨_, item', waiting, rfl, hdrop⟩
  · cases hitem
  · rw [List.mem_singleton.mp hitem, ← Bool.not_eq_true, leg.keeps_iff]
    exact h.after.2.not_known (hdrop ▸ List.mem_cons_self ..)

theorem saved_eq (h : leg.Takes store start items outcome n j last) :
    leg.saved store = ((start.work items).drop n).take j := by
  rw [saved, h.handed_eq, List.filter_append,
    List.filter_eq_self.mpr fun item hitem => h.keeps_of_mem hitem,
    List.filter_eq_nil_iff.mpr fun item hitem => by rw [h.not_keeps_of_mem hitem]; nofun,
    List.append_nil]

theorem lost_eq (h : leg.Takes store start items outcome n j last) : leg.lost store = last := by
  rw [lost, h.handed_eq, List.filter_append,
    List.filter_eq_nil_iff.mpr fun item hitem => by rw [h.keeps_of_mem hitem]; nofun,
    List.filter_eq_self.mpr fun item hitem => by rw [h.not_keeps_of_mem hitem]; rfl,
    List.nil_append]

/-- All but at most one item are saved, and that one was in hand when the session was killed. -/
theorem handed_cases (h : leg.Takes store start items outcome n j last) :
    leg.handed = leg.saved store ++ leg.lost store ∧
      (leg.lost store = [] ∨ leg.memory = none ∧ (leg.lost store).length = 1) := by
  rw [h.saved_eq, h.lost_eq]
  refine ⟨h.handed_eq, h.last_cases.imp_right ?_⟩
  rintro ⟨hkilled, item, waiting, rfl, _⟩
  exact ⟨hkilled, rfl⟩

end Leg.Takes

end SourceTutor
