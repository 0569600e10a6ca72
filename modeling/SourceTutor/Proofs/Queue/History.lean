import SourceTutor.Proofs.Queue.Keeping
import SourceTutor.Proofs.Queue.Partition
import SourceTutor.Proofs.Queue.Remains

/-!
# No item twice, in any history

A `Machine` is the queue in memory and the file tree, and `Step` is what may happen to them: a scan,
a run or a batch, each of which may be killed at any point, an item added, the program killed and
the queue loaded anew, the file removed, or a change of the tree by somebody else. Started without a
file, the machine has a partitioned queue in memory after every history, and so has every save on
the way (`reachable_partitioned`), provided that the path of the file goes up at its start only.
What carries the proof is that the queue in the file is partitioned as well (`Lodged`), since that
is what is loaded after a kill; a save that is cut short may lose it, but leaves no other one.

With a `..` behind a name the directories that a save makes may bring a file to light that was there
all the time, and nothing is known of that one (`reachable_twice`).
-/

set_option autoImplicit false

namespace SourceTutor

open FileTree Progress Scheduler

variable {σ : Type}

/-- The queue in memory and the file tree. -/
structure Machine where
  /-- The queue in memory. -/
  memory : Progress
  /-- The tree with the file in which the queue is kept. -/
  tree : FileTree

namespace Machine

/-- What may happen, and the queues that are saved while it does. After a kill the queue in memory
is the one that is loaded. -/
inductive Step (store : Store) : Machine → List Progress → Machine → Prop
  | others {m t'} : store.Spares WellFormed m.tree t' → Step store m [] ⟨m.memory, t'⟩
  | scan {m} (options : ScanOptions) (now : String) (root : Path) :
      Step store m [options.reconcile m.tree (m.tree.listFiles root) (store.load m.tree)]
        ⟨(options.scan store now root m.tree).2, (options.scan store now root m.tree).1⟩
  | scanKilled {m t'} (options : ScanOptions) (now : String) (root : Path) :
      store.Cut m.tree { options.reconcile m.tree (m.tree.listFiles root) (store.load m.tree) with
        lastRun := some now } t' →
      Step store m [options.reconcile m.tree (m.tree.listFiles root) (store.load m.tree)]
        ⟨store.load t', t'⟩
  | run {m} {σ : Type} {s : Scheduler σ} {tree : σ → FileTree} {w : σ} :
      s.KeptIn store WellFormed tree → tree w = m.tree →
      Step store m (savedQueues (s.runCalls m.memory w))
        ⟨(s.run m.memory w).2.1, tree (s.run m.memory w).2.2⟩
  | batch {m} {σ : Type} {s : Scheduler σ} {tree : σ → FileTree} {w : σ} :
      s.KeptIn store WellFormed tree → tree w = m.tree →
      Step store m (savedQueues (s.batchCalls m.memory w))
        ⟨(s.runBatch m.memory w).2.1, tree (s.runBatch m.memory w).2.2⟩
  | runKilled {m t'} {σ : Type} {s : Scheduler σ} {tree : σ → FileTree} {w : σ}
      {done rest : List (Call σ)} {call : Call σ} :
      s.KeptIn store WellFormed tree → tree w = m.tree →
      s.runCalls m.memory w = done ++ call :: rest → call.Killed store WellFormed tree t' →
      Step store m (savedQueues (done ++ [call])) ⟨store.load t', t'⟩
  | batchKilled {m t'} {σ : Type} {s : Scheduler σ} {tree : σ → FileTree} {w : σ}
      {done rest : List (Call σ)} {call : Call σ} :
      s.KeptIn store WellFormed tree → tree w = m.tree →
      s.batchCalls m.memory w = done ++ call :: rest → call.Killed store WellFormed tree t' →
      Step store m (savedQueues (done ++ [call])) ⟨store.load t', t'⟩
  | enqueue {m} (item : String) : Step store m [] ⟨m.memory.enqueue item, m.tree⟩
  | kill {m} : Step store m [] ⟨store.load m.tree, m.tree⟩
  | reset {m t'} {existed : Bool} : store.reset m.tree = .ok (t', existed) →
      Step store m [] ⟨m.memory, t'⟩

/-- The histories that begin without a file for the queue, with the queues saved so far. -/
inductive Reachable (store : Store) : Machine → List Progress → Prop
  | start {t} : t.WellFormed → (∀ bytes, t.read store.path ≠ .ok bytes) →
      Reachable store ⟨.empty, t⟩ []
  | step {m m' saves more} : Reachable store m saves → Step store m more m' →
      Reachable store m' (saves ++ more)

end Machine

/-! ## The queue along a course -/

namespace Scheduler

variable {s : Scheduler σ} {q₀ q : Progress} {w₀ w : σ} {pace : Pace} {calls : List (Call σ)}

/-- What filing the next item preserves, and stamping the queue, holds of every queue that is saved.
-/
theorem Course.queue_induction {P : Progress → Prop} (h : Course s q₀ w₀ pace calls q w)
    (hstart : P q₀)
    (hnext : ∀ {q item waiting} (o : Outcome), q.pending = item :: waiting → P q →
      P ({ q with pending := waiting }.record item o))
    (hstamp : ∀ q lastRun, P q → P { q with lastRun := lastRun }) :
    P q ∧ ∀ saved ∈ savedQueues calls, P saved := by
  induction h with
  | start => exact ⟨hstart, nofun⟩
  | @item calls q w item waiting _ hq _ ih =>
      have hfiled := hnext (s.process item w).1 hq ih.1
      refine ⟨hstamp _ _ hfiled, fun saved hsaved => ?_⟩
      rw [savedQueues_append, List.mem_append] at hsaved
      rcases hsaved with hsaved | hsaved
      · exact ih.2 saved hsaved
      · rw [List.mem_singleton.mp hsaved]
        exact hfiled
  | pause _ _ _ ih =>
      rw [savedQueues_append, savedQueues_pause, savedQueues_nil, List.append_nil]
      exact ih

/-- **No item is lost or invented**: every queue that is saved holds the items of the first one. -/
theorem Course.sameItems (h : Course s q₀ w₀ pace calls q w) :
    ∀ saved ∈ savedQueues calls, SameItems saved q₀ :=
  (h.queue_induction (P := (SameItems · q₀)) (SameItems.refl q₀)
    (fun o hq hsame => (sameItems_record_next hq o).trans hsame) fun _ _ hsame => hsame).2

/-- Every queue is partitioned if the first one is. -/
theorem Course.partitioned (h : Course s q₀ w₀ pace calls q w) (hq₀ : q₀.Partitioned) :
    q.Partitioned ∧ ∀ saved ∈ savedQueues calls, saved.Partitioned :=
  h.queue_induction hq₀ (fun o hq hpart => hpart.record_next hq o) fun _ _ hpart => hpart

end Scheduler

/-! ## The queue in the file -/

namespace Store

/-- The tree is well-formed, and the queue in the file is partitioned. -/
def Lodged (store : Store) (t : FileTree) : Prop :=
  t.WellFormed ∧ (store.load t).Partitioned

variable {store : Store} {t t' : FileTree} {q : Progress}

theorem Lodged.of_spares (h : store.Lodged t) (hspares : store.Spares WellFormed t t') :
    store.Lodged t' :=
  ⟨hspares.1, by rw [hspares.2]; exact h.2⟩

/-- A save that stops somewhere leaves a partitioned queue in the file. -/
theorem Lodged.of_cut (h : store.Lodged t) (hpath : store.path.Direct) (hq : q.Partitioned)
    {stamp : Option String} (hcut : store.Cut t { q with lastRun := stamp } t') :
    store.Lodged t' := by
  -- the file holds the old queue, the new one or none, and each of them is partitioned
  obtain ⟨ht', hload⟩ := load_of_cut hpath h.1 hcut
  refine ⟨ht', ?_⟩
  rcases hload with hload | hload | hload
  · rw [hload]
    exact partitioned_empty
  · rw [hload]
    exact hq
  · rw [hload]
    exact h.2

theorem Lodged.of_reset (h : store.Lodged t) (hpath : store.path.Direct) {existed : Bool}
    (hreset : store.reset t = .ok (t', existed)) : store.Lodged t' := by
  obtain ⟨ht', hload⟩ := load_of_reset hpath h.1 hreset
  refine ⟨ht', ?_⟩
  rcases hload with hload | hload
  · rw [hload]
    exact partitioned_empty
  · rw [hload]
    exact h.2

end Store

namespace Scheduler

variable {s : Scheduler σ} {q₀ q : Progress} {w₀ w : σ} {pace : Pace} {calls : List (Call σ)}
  {store : Store} {tree : σ → FileTree}

/-- A partitioned queue is in the file at every call, and at the end. -/
theorem Course.lodged (h : Course s q₀ w₀ pace calls q w)
    (hkept : s.KeptIn store WellFormed tree) (hpath : store.path.Direct) (hq₀ : q₀.Partitioned)
    (hstart : store.Lodged (tree w₀)) :
    store.Lodged (tree w) ∧ ∀ call ∈ calls, store.Lodged (tree call.world) := by
  induction h with
  | start => exact ⟨hstart, nofun⟩
  | @item calls q w item waiting hbefore hq _ ih =>
      have hworked : store.Lodged (tree (s.process item w).2) :=
        ih.1.of_spares (hkept.process_spares item w ih.1.1)
      have hfiled : ({ q with pending := waiting }.record item (s.process item w).1).Partitioned :=
        (hbefore.partitioned hq₀).1.record_next hq _
      obtain ⟨now, _, hcut⟩ := hkept.cut_save
        ({ q with pending := waiting }.record item (s.process item w).1) (s.process item w).2
      -- an item is two calls: the work, in front of which the old queue is in the file, and the
      -- save, in front of which it still is
      refine ⟨hworked.of_cut hpath hfiled hcut, fun call hcall => ?_⟩
      rw [List.mem_append, List.mem_cons, List.mem_singleton] at hcall
      rcases hcall with hcall | rfl | rfl
      · exact ih.2 call hcall
      · exact ih.1
      · exact hworked
  | pause _ _ _ ih =>
      refine ⟨ih.1.of_spares (hkept.pause_spares _ ih.1.1), fun call hcall => ?_⟩
      rw [List.mem_append, List.mem_singleton] at hcall
      rcases hcall with hcall | rfl
      · exact ih.2 call hcall
      · exact ih.1

/-- A kill during a call leaves a partitioned queue in the file. -/
theorem Course.lodged_of_killed (h : Course s q₀ w₀ pace calls q w)
    (hkept : s.KeptIn store WellFormed tree) (hpath : store.path.Direct) (hq₀ : q₀.Partitioned)
    (hstart : store.Lodged (tree w₀)) {call : Call σ} (hcall : call ∈ calls) {t' : FileTree}
    (hkilled : call.Killed store WellFormed tree t') : store.Lodged t' := by
  have hlodged := (h.lodged hkept hpath hq₀ hstart).2 call hcall
  cases call with
  | process item w => exact hlodged.of_spares hkilled
  | pause w => exact hlodged.of_spares hkilled
  | save saved w =>
      obtain ⟨now, hcut⟩ := hkilled
      have hsaved : saved ∈ savedQueues calls := List.mem_filterMap.mpr ⟨_, hcall, rfl⟩
      exact hlodged.of_cut hpath ((h.partitioned hq₀).2 saved hsaved) hcut

end Scheduler

/-! ## Steps and histories -/

namespace Machine

variable {store : Store} {m m' : Machine} {saves more : List Progress}

/-- The queue in memory and the queue in the file are partitioned. -/
def Sound (store : Store) (m : Machine) : Prop := m.memory.Partitioned ∧ store.Lodged m.tree

section

variable {s : Scheduler σ} {tree : σ → FileTree} {w w' : σ} {q : Progress} {pace : Pace}
  {calls : List (Call σ)}

/-- A run or a batch that goes to its end. -/
theorem Sound.of_course (hm : m.Sound store) (h : Course s m.memory w pace calls q w')
    (hkept : s.KeptIn store WellFormed tree) (hpath : store.path.Direct) (hw : tree w = m.tree) :
    Sound store ⟨q, tree w'⟩ ∧ ∀ saved ∈ savedQueues calls, saved.Partitioned :=
  ⟨⟨(h.partitioned hm.1).1, (h.lodged hkept hpath hm.1 (hw ▸ hm.2)).1⟩, (h.partitioned hm.1).2⟩

/-- A run or a batch that is killed during one of its calls. -/
theorem Sound.of_killed (hm : m.Sound store) (h : Course s m.memory w pace calls q w')
    (hkept : s.KeptIn store WellFormed tree) (hpath : store.path.Direct) (hw : tree w = m.tree)
    {done rest : List (Call σ)} {call : Call σ} (hcalls : calls = done ++ call :: rest)
    {t' : FileTree} (hkilled : call.Killed store WellFormed tree t') :
    Sound store ⟨store.load t', t'⟩ ∧
      ∀ saved ∈ savedQueues (done ++ [call]), saved.Partitioned := by
  have hcall : call ∈ calls := by
    rw [hcalls]
    simp
  have hlodged := h.lodged_of_killed hkept hpath hm.1 (hw ▸ hm.2) hcall hkilled
  refine ⟨⟨hlodged.2, hlodged⟩, fun saved hsaved => (h.partitioned hm.1).2 saved ?_⟩
  rw [hcalls, List.append_cons, savedQueues_append]
  exact List.mem_append_left _ hsaved

end

/-- A step keeps the two queues partitioned, and saves none that is not. -/
theorem Step.sound (h : Step store m more m') (hpath : store.path.Direct) (hm : m.Sound store) :
    m'.Sound store ∧ ∀ q ∈ more, q.Partitioned := by
  cases h with
  | others hspares => exact ⟨⟨hm.1, hm.2.of_spares hspares⟩, nofun⟩
  | scan options now root =>
      have hscanned := options.partitioned_reconcile m.tree (m.tree.listFiles root) hm.2.2
      refine ⟨⟨hscanned, hm.2.of_cut hpath hscanned .finished⟩, ?_⟩
      simpa using hscanned
  | scanKilled options now root hcut =>
      have hscanned := options.partitioned_reconcile m.tree (m.tree.listFiles root) hm.2.2
      have hlodged := hm.2.of_cut hpath hscanned hcut
      exact ⟨⟨hlodged.2, hlodged⟩, by simpa using hscanned⟩
  | @run σ s tree w hkept hw =>
      obtain ⟨pace, hcourse⟩ := course_run s m.memory w
      exact hm.of_course hcourse hkept hpath hw
  | @batch σ s tree w hkept hw =>
      obtain ⟨pace, hcourse⟩ := course_runBatch s m.memory w
      exact hm.of_course hcourse hkept hpath hw
  | @runKilled t' σ s tree w done rest call hkept hw hcalls hkilled =>
      obtain ⟨pace, hcourse⟩ := course_run s m.memory w
      exact hm.of_killed hcourse hkept hpath hw hcalls hkilled
  | @batchKilled t' σ s tree w done rest call hkept hw hcalls hkilled =>
      obtain ⟨pace, hcourse⟩ := course_runBatch s m.memory w
      exact hm.of_killed hcourse hkept hpath hw hcalls hkilled
  | enqueue item => exact ⟨⟨hm.1.enqueue item, hm.2⟩, nofun⟩
  | kill => exact ⟨⟨hm.2.2, hm.2⟩, nofun⟩
  | reset hreset => exact ⟨⟨hm.1, hm.2.of_reset hpath hreset⟩, nofun⟩

theorem Reachable.sound (h : Reachable store m saves) (hpath : store.path.Direct) :
    m.Sound store ∧ ∀ q ∈ saves, q.Partitioned := by
  induction h with
  | start ht hread =>
      refine ⟨⟨partitioned_empty, ht, ?_⟩, nofun⟩
      rw [Store.load_of_read_ne_ok hread]
      exact partitioned_empty
  | step _ hstep ih =>
      -- the queues saved before are known by induction, those of the step by its soundness
      obtain ⟨hm', hmore⟩ := hstep.sound hpath ih.1
      refine ⟨hm', fun q hq => ?_⟩
      rw [List.mem_append] at hq
      exact hq.elim (ih.2 q) (hmore q)

/-- **No item twice, in any history.** The queue in memory is partitioned, and so is every queue
that has been saved; and a run or a batch that starts from here saves only queues with the same
items. -/
theorem reachable_partitioned (h : Reachable store m saves) (hpath : store.path.Direct) :
    m.memory.Partitioned ∧ (∀ q ∈ saves, q.Partitioned) ∧
      ∀ {σ : Type} (s : Scheduler σ) (w : σ),
        (∀ q ∈ savedQueues (s.runCalls m.memory w), SameItems q m.memory) ∧
          ∀ q ∈ savedQueues (s.batchCalls m.memory w), SameItems q m.memory := by
  obtain ⟨hm, hsaves⟩ := h.sound hpath
  refine ⟨hm.1, hsaves, fun s w => ⟨?_, ?_⟩⟩
  · obtain ⟨pace, hcourse⟩ := course_run s m.memory w
    exact hcourse.sameItems
  · obtain ⟨pace, hcourse⟩ := course_runBatch s m.memory w
    exact hcourse.sameItems

/-- An item is added, it is worked on, and the program is killed. -/
theorem reachable_partitioned_keeper :
    ∃ m, Reachable note m [⟨[], [], ["a.c"], none⟩] ∧ note.path.Direct ∧ m.memory.Partitioned ∧
      Progress.Partitioned ⟨[], [], ["a.c"], none⟩ := by
  have hflat : FileTree.empty.WellFormed := wellFormed_of_flat (by simp [FileTree.empty])
  have hread : ∀ bytes, FileTree.empty.read note.path ≠ .ok bytes := by
    intro bytes hread
    obtain ⟨key, _, hget⟩ := read_eq_ok_iff_finds.mp hread
    rw [get?] at hget
    split at hget <;> cases hget
  have hstart : Reachable note ⟨.empty, .empty⟩ [] := .start hflat hread
  have hadded := hstart.step (.enqueue "a.c")
  have hrun := hadded.step (.run (keeper_keptIn note (fun _ => .failed) WellFormed) rfl)
  have hcalls := (keeper_run_one note (fun _ => .failed)
    (q := Progress.empty.enqueue "a.c") rfl .empty).1
  rw [hcalls] at hrun
  have hkilled : Reachable note _ [⟨[], [], ["a.c"], none⟩] := hrun.step .kill
  have hpartitioned := reachable_partitioned hkilled note_direct
  exact ⟨_, hkilled, note_direct, hpartitioned.1, hpartitioned.2.1 _ (List.mem_singleton_self _)⟩

/-! ## A way up in the path

The directories on the way to the file are made when the queue is saved, and a path that leads into
one of them and up again leads nowhere before. -/

/-- A queue with an item in two of its lists. -/
def twice : Progress := ⟨["b.c"], ["b.c"], [], none⟩

/-- A tree with this queue in a file, and a directory in place of the temporary file. -/
def hidden : FileTree :=
  ⟨[(["state.json"], .file twice.print.toUTF8), (["state.json.tmp"], .directory)]⟩

/-- The tree with one more directory. -/
def revealed : FileTree :=
  ⟨[(["state.json"], .file twice.print.toUTF8), (["state.json.tmp"], .directory),
    (["new"], .directory)]⟩

theorem read_hidden : hidden.read roundabout.path = .error .notFound := by
  simp +decide [roundabout, FileTree.read, resolve_of_no_fault fault?_roundabout, walkFrom,
    Path.home, hidden, get?, List.lookup_cons, bind, Except.bind]

theorem read_revealed : revealed.read roundabout.path = .ok twice.print.toUTF8 := by
  simp +decide [roundabout, FileTree.read, resolve_of_no_fault fault?_roundabout, walkFrom,
    Path.home, revealed, get?, List.lookup_cons, bind, Except.bind, Key.above]

/-- A save makes the directory, and fails to write the temporary file. -/
theorem write_hidden (q : Progress) : roundabout.write hidden q = (revealed, false) := by
  have hprepare : roundabout.prepare hidden = (revealed, .ok ()) := by
    simp +decide [Store.prepare, roundabout_parent, back_parent, createDirectories, createUpward,
      createDirectory, resolve_of_no_fault fault?_new, resolve_of_no_fault fault?_back, walkFrom,
      Path.home, get?, hidden, List.lookup_cons, bind, Except.bind, FileTree.insert, erase,
      revealed, isDirectory, node?, Key.above]
  have hstage : roundabout.stage revealed q = .error .isADirectory := by
    simp +decide [Store.stage, roundabout_temporary, FileTree.write,
      resolve_of_no_fault fault?_roundabout_temporary, walkFrom, Path.home, get?, revealed,
      List.lookup_cons, bind, Except.bind, Key.above]
  simp only [Store.write, hprepare, hstage]

/-- **A way up in the path** may bring a queue to light that has an item twice: there is no file at
first, a scan makes the directory and cannot save, and the queue is loaded anew. -/
theorem reachable_twice :
    ∃ saves, Reachable roundabout ⟨twice, revealed⟩ saves ∧ ¬ twice.Partitioned := by
  have hflat : hidden.WellFormed := wellFormed_of_flat (by decide)
  have hread : ∀ bytes, hidden.read roundabout.path ≠ .ok bytes := by
    rw [read_hidden]
    exact nofun
  have hstart : Reachable roundabout ⟨.empty, hidden⟩ [] := .start hflat hread
  -- the scan has made the directory, and what it has saved is not in the file
  have hscanned := hstart.step
    (.scan ⟨.standard, "docs", true, []⟩ "now" (.ofString "."))
  have hkilled := hscanned.step .kill
  rw [ScanOptions.scan, Store.save, write_hidden] at hkilled
  rw [Store.load_of_read_eq_ok read_revealed] at hkilled
  exact ⟨_, hkilled, by unfold Progress.Partitioned; decide⟩

end Machine

end SourceTutor
