import SourceTutor.Lesson.Analysis
import SourceTutor.Proofs.Queue.Calls
import SourceTutor.Proofs.Queue.Register

/-!
# Runs that keep their queue in a file

A scheduler keeps its queue in a file (`Scheduler.KeptIn`) when it saves the queue there, and when
neither the work on an item nor a pause changes what is loaded from the file. Such a run may be
killed during any of its calls (`Call.Killed`): a save is then cut short, and the work on an item or
a pause leaves whatever it has changed so far. What else the tree has to be like is a parameter,
`Fit`, which nothing outside the store may break.
-/

set_option autoImplicit false

namespace SourceTutor

open FileTree

variable {σ : Type}

/-- A change of the tree by somebody else: the tree stays as it has to be, and the queue in the file
stays the same. -/
def Store.Spares (store : Store) (Fit : FileTree → Prop) (t t' : FileTree) : Prop :=
  Fit t' ∧ store.load t' = store.load t

/-- The world has a file tree, and the queue is saved in a file of it. Working on an item and
pausing spare the file. -/
structure Scheduler.KeptIn (s : Scheduler σ) (store : Store) (Fit : FileTree → Prop)
    (tree : σ → FileTree) : Prop where
  process_spares : ∀ item w, Fit (tree w) →
    store.Spares Fit (tree w) (tree (s.process item w).2)
  pause_spares : ∀ w, Fit (tree w) → store.Spares Fit (tree w) (tree (s.pause w))
  save_eq : ∀ q w, ∃ now, (s.save q w).1 = some now ∧
    tree (s.save q w).2 = (store.save now (tree w) q).1

/-- The tree when the program is killed during the call. -/
def Call.Killed (store : Store) (Fit : FileTree → Prop) (tree : σ → FileTree) :
    Call σ → FileTree → Prop
  | .process _ w, t' => store.Spares Fit (tree w) t'
  | .save q w, t' => ∃ now, store.Cut (tree w) { q with lastRun := some now } t'
  | .pause w, t' => store.Spares Fit (tree w) t'

/-- The world at the moment of a call. -/
def Call.world : Call σ → σ
  | .process _ w => w
  | .save _ w => w
  | .pause w => w

/-- A save leaves the tree of a save that goes to its end. -/
theorem Scheduler.KeptIn.cut_save {s : Scheduler σ} {store : Store} {Fit : FileTree → Prop}
    {tree : σ → FileTree} (h : s.KeptIn store Fit tree) (q : Progress) (w : σ) :
    ∃ now, (s.save q w).1 = some now ∧
      store.Cut (tree w) { q with lastRun := some now } (tree (s.save q w).2) := by
  obtain ⟨now, hnow, htree⟩ := h.save_eq q w
  refine ⟨now, hnow, ?_⟩
  rw [htree]
  exact .finished

/-- The scheduler of the program saves in its store, and keeps its queue there if the work on an
item and a pause spare the file. -/
theorem Lesson.Analyzer.scheduler_keptIn (a : Lesson.Analyzer) (around : Lesson.Surroundings)
    (store : Store) (batchSize : Nat) (throttle : Duration) {Fit : FileTree → Prop}
    (hprocess : ∀ item w, Fit w.tree →
      store.Spares Fit w.tree (a.process around item w).2.tree)
    (hpause : ∀ w, Fit w.tree → store.Spares Fit w.tree
      ((a.scheduler around store batchSize throttle).pause w).tree) :
    (a.scheduler around store batchSize throttle).KeptIn store Fit Lesson.World.tree where
  process_spares := hprocess
  pause_spares := hpause
  save_eq _ _ := ⟨around.now, rfl, rfl⟩

/-! ## A scheduler in a tree -/

/-- The scheduler whose world is the tree itself: it has an outcome for each item, and changes
nothing but the file. -/
def keeper (store : Store) (outcome : String → Outcome) : Scheduler FileTree where
  process item t := (outcome item, t)
  save q t := (some "now", (store.save "now" t q).1)
  stopRequested _ := false
  pause t := t
  batchSize := 1

theorem keeper_keptIn (store : Store) (outcome : String → Outcome) (Fit : FileTree → Prop) :
    (keeper store outcome).KeptIn store Fit id where
  process_spares _ _ hfit := ⟨hfit, rfl⟩
  pause_spares _ hfit := ⟨hfit, rfl⟩
  save_eq _ _ := ⟨"now", rfl, rfl⟩

/-- The keeper has nothing to do. -/
theorem keeper_run_none (store : Store) (outcome : String → Outcome) {q : Progress}
    (hq : q.pending = []) (t : FileTree) :
    (keeper store outcome).runCalls q t = [] ∧ ((keeper store outcome).run q t).2 = (q, t) := by
  rw [Scheduler.runCalls_eq_sweep _ Nat.one_pos, Scheduler.run_eq_sweep _ Nat.one_pos,
    Scheduler.sweep_of_pending_nil _ _ hq, Scheduler.sweep_of_pending_nil _ _ hq]
  exact ⟨rfl, rfl⟩

/-- The keeper works on the only item that waits. -/
theorem keeper_run_one (store : Store) (outcome : String → Outcome) {q : Progress} {item : String}
    (hq : q.pending = [item]) (t : FileTree) :
    (keeper store outcome).runCalls q t = [.process item t,
        .save ({ q with pending := [] }.record item (outcome item)) t] ∧
      ((keeper store outcome).run q t).2 =
        ({ { q with pending := [] }.record item (outcome item) with lastRun := some "now" },
          (store.save "now" t ({ q with pending := [] }.record item (outcome item))).1) := by
  generalize hs : keeper store outcome = s
  have hbatch : 0 < s.batchSize := by
    rw [← hs]
    exact Nat.one_pos
  have hstop : ∀ t, s.stopRequested t = false := by
    intro t
    rw [← hs]
    rfl
  have hhandle : s.handle item { q with pending := [] } t = (outcome item,
      { { q with pending := [] }.record item (outcome item) with lastRun := some "now" },
      (store.save "now" t ({ q with pending := [] }.record item (outcome item))).1) := by
    rw [← hs]
    rfl
  have hend : (s.handle item { q with pending := [] } t).2.1.pending = [] := by
    rw [hhandle]
    cases outcome item <;> rfl
  constructor
  · have hend' : (s.noting.handle item { q with pending := [] } (t, [])).2.1.pending = [] := hend
    have hstop' : s.noting.stopRequested (t, []) = false := hstop t
    rw [s.runCalls_eq_sweep hbatch, s.noting.sweep_of_pending_cons hq hstop',
      s.noting.sweep_of_pending_nil _ hend', Scheduler.restAfter, hend', List.isEmpty_nil,
      Bool.true_or, if_pos rfl, ← hs]
    rfl
  · rw [s.run_of_pending_singleton hbatch hq (hstop t) hend, hhandle]

/-! ## A tree with a queue

The queue is kept in `state.json` at the top of the tree, beside a file to work on. -/

/-- The store whose file is at the top. -/
def note : Store := ⟨⟨["state.json"]⟩⟩

theorem note_direct : note.path.Direct :=
  ⟨[], ["state.json"], rfl, rfl, by simp⟩

/-- A tree with a file to work on, and the file of the queue. -/
def shelf (q : Progress) : FileTree :=
  ⟨[(["b.c"], .file .empty), (["state.json"], .file q.print.toUTF8)]⟩

theorem fault?_top : (⟨["."]⟩ : Path).fault? = none := by decide

theorem fault?_path : (⟨["state.json"]⟩ : Path).fault? = none := by decide

theorem fault?_temporary : (⟨["state.json.tmp"]⟩ : Path).fault? = none := by decide

theorem note_temporary : note.temporary = ⟨["state.json.tmp"]⟩ := by decide

theorem note_prepare (t : FileTree) : note.prepare t = (t, .ok ()) := by
  have hparent : note.path.parent? = some .empty := by decide
  rw [Store.prepare, hparent]
  rfl

theorem note_write {t t₁ t₂ : FileTree} {q : Progress}
    (hstage : t.write ⟨["state.json.tmp"]⟩ q.print.toUTF8 = .ok t₁)
    (hcommit : t₁.rename ⟨["state.json.tmp"]⟩ ⟨["state.json"]⟩ = .ok t₂) :
    note.write t q = (t₂, true) := by
  rw [← note_temporary] at hstage hcommit
  exact Store.write_eq_of_steps (note_prepare t) hstage hcommit

theorem write_shelf (q q' : Progress) : note.write (shelf q) q' = (shelf q', true) := by
  have hstage : (shelf q).write ⟨["state.json.tmp"]⟩ q'.print.toUTF8 =
      .ok ((shelf q).insert ["state.json.tmp"] (.file q'.print.toUTF8)) := by
    simp +decide [FileTree.write, resolve_of_no_fault fault?_temporary, walkFrom, Path.home, get?,
      shelf, List.lookup_cons, bind, Except.bind]
  refine note_write hstage ?_
  simp +decide [FileTree.rename, resolve_of_no_fault fault?_temporary,
    resolve_of_no_fault fault?_path, walkFrom, Path.home, get?, shelf, List.lookup_cons, bind,
    Except.bind, FileTree.insert, erase]

theorem load_shelf (q : Progress) : note.load (shelf q) = q := by
  refine Store.load_of_read_eq_ok ?_
  simp +decide [note, FileTree.read, resolve_of_no_fault fault?_path, walkFrom, Path.home, get?,
    shelf, List.lookup_cons, bind, Except.bind]

/-- No name at the top is a symbolic link. -/
theorem not_linkAt_shelf (q : Progress) {p : Path} {name : String}
    (hp : p.segments = [] ++ [name]) (hname : Path.IsName name) : ¬ (shelf q).LinkAt p := by
  have hfiles : ∀ entry ∈ (shelf q).nodes, ∃ bytes, entry.2 = .file bytes := by
    simp [shelf]
  intro hlinkAt
  obtain ⟨_, _, _, k, target, _, hget⟩ := (linkAt_iff hp hname).mp hlinkAt
  rw [get?, if_neg (by simp)] at hget
  obtain ⟨bytes, hfile⟩ := hfiles _ (mem_of_lookup hget)
  cases hfile

theorem wellFormed_shelf (q : Progress) : (shelf q).WellFormed :=
  wellFormed_of_flat (by simp [shelf])

theorem hosts_shelf (q : Progress) : note.Hosts (shelf q) := by
  have hpath : ¬ (shelf q).LinkAt note.path :=
    not_linkAt_shelf q (show note.path.segments = [] ++ ["state.json"] from rfl)
      ⟨by decide, by decide, by decide⟩
  have htemporary : ¬ (shelf q).LinkAt note.temporary :=
    not_linkAt_shelf q (show note.temporary.segments = [] ++ ["state.json.tmp"] by decide)
      ⟨by decide, by decide, by decide⟩
  exact ⟨note_direct, wellFormed_shelf q, htemporary, fun h => absurd h hpath,
    fun h => absurd h hpath⟩

/-- The store of the same file, on a way into a directory and up again. -/
def roundabout : Store := ⟨⟨["new", "..", "state.json"]⟩⟩

theorem fault?_new : (⟨["new"]⟩ : Path).fault? = none := by decide

theorem fault?_back : (⟨["new", ".."]⟩ : Path).fault? = none := by decide

theorem fault?_roundabout : (⟨["new", "..", "state.json"]⟩ : Path).fault? = none := by decide

theorem fault?_roundabout_temporary :
    (⟨["new", "..", "state.json.tmp"]⟩ : Path).fault? = none := by decide

theorem roundabout_temporary : roundabout.temporary = ⟨["new", "..", "state.json.tmp"]⟩ := by
  decide

theorem roundabout_parent : roundabout.path.parent? = some ⟨["new", ".."]⟩ := by decide

theorem back_parent : (⟨["new", ".."]⟩ : Path).parent? = some ⟨["new"]⟩ := by decide

end SourceTutor
