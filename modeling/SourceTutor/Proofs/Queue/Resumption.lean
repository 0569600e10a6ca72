import SourceTutor.Proofs.Queue.Sessions

/-!
# Work that is taken up again

Over a schedule of sessions that list the same items, with outcomes that depend on the item only and
saves that succeed, the work comes out as in one session that nobody interrupts
(`Schedule.same_as_uninterrupted`): the same items are completed and the same have failed, in the
same order, and the outcome of each item has been saved once. An item whose outcome is not saved was
being worked on when its session was killed, and there is at most one in a session.

The tree has to host the queue. Where the temporary file is a link, where the file is a link to it,
or where the path goes up behind a name, the work may come out otherwise (`Diverges`).
-/

set_option autoImplicit false

namespace SourceTutor

open FileTree Progress Scheduler

variable {store : Store} {start : Progress} {items : List String} {outcome : String → Outcome}

/-! ## Sessions of the keeper -/

theorem keeper_worksIn (store : Store) (outcome : String → Outcome) (Fit : FileTree → Prop) :
    (keeper store outcome).WorksIn store Fit outcome id :=
  ⟨keeper_keptIn store outcome Fit, fun _ _ => rfl⟩

theorem keeper_succeeds_none (store : Store) (outcome : String → Outcome) {q : Progress}
    (hq : q.pending = []) (t : FileTree) :
    ∀ call ∈ (keeper store outcome).runCalls q t,
      call.Succeeds (keeper store outcome) store id := by
  rw [(keeper_run_none store outcome hq t).1]
  exact nofun

theorem keeper_succeeds_one {q : Progress} {item : String} {t t₁ : FileTree}
    (hq : q.pending = [item])
    (hwrite : store.write t { { q with pending := [] }.record item (outcome item) with
      lastRun := some "now" } = (t₁, true)) :
    ∀ call ∈ (keeper store outcome).runCalls q t,
      call.Succeeds (keeper store outcome) store id := by
  intro call hcall
  rw [(keeper_run_one store outcome hq t).1, List.mem_cons, List.mem_singleton] at hcall
  rcases hcall with rfl | rfl
  · trivial
  · exact congrArg Prod.snd hwrite

/-- A session that finds nothing to do. -/
theorem Session.of_pending_nil {Fit : FileTree → Prop} {t t₁ : FileTree} {q : Progress}
    (hscan : Scanned store items t q t₁) (hq : q.pending = []) :
    Session store Fit items outcome t ⟨[], some q, t₁⟩ := by
  obtain ⟨hcalls, hrun⟩ := keeper_run_none store outcome hq t₁
  have hworld : id t₁ = t₁ := rfl
  have hsession : Session store Fit items outcome t _ :=
    .finished hscan (keeper_worksIn store outcome Fit) hworld
      (keeper_succeeds_none store outcome hq t₁)
  rw [hcalls, hrun] at hsession
  exact hsession

/-- A session that works on one item. -/
theorem Session.of_pending_singleton {Fit : FileTree → Prop} {t t₁ t₂ : FileTree} {q q' : Progress}
    {item : String} (hscan : Scanned store items t q t₁) (hq : q.pending = [item])
    (hq' : q' = { { q with pending := [] }.record item (outcome item) with lastRun := some "now" })
    (hwrite : store.write t₁ q' = (t₂, true)) :
    Session store Fit items outcome t ⟨[item], some q', t₂⟩ := by
  subst hq'
  obtain ⟨hcalls, hrun⟩ := keeper_run_one store outcome hq t₁
  have hworld : id t₁ = t₁ := rfl
  have hsession : Session store Fit items outcome t _ :=
    .finished hscan (keeper_worksIn store outcome Fit) hworld (keeper_succeeds_one hq hwrite)
  rw [hcalls, hrun, Store.save, hwrite] at hsession
  exact hsession

/-- A session that is killed while it works on the only item. -/
theorem Session.of_killed_singleton {Fit : FileTree → Prop} {t t₁ : FileTree} {q : Progress}
    {item : String} (hscan : Scanned store items t q t₁) (hq : q.pending = [item]) (ht₁ : Fit t₁) :
    Session store Fit items outcome t ⟨[item], none, t₁⟩ := by
  obtain ⟨hcalls, _⟩ := keeper_run_one store outcome hq t₁
  have hworld : id t₁ = t₁ := rfl
  have hsession : Session store Fit items outcome t _ :=
    .killedInRun hscan (keeper_worksIn store outcome Fit) hworld
      (hcalls.trans (List.nil_append _).symm) nofun ⟨ht₁, rfl⟩
  exact hsession

/-! ## Sessions on a shelf -/

/-- The scan of a shelf. -/
def scanning : ScanOptions := ⟨.standard, "docs", false, []⟩

theorem listFiles_top (t : FileTree) : t.listFiles ⟨["."]⟩ =
    (accessible ⟨["."]⟩ (t.regularBelow [])).map (Path.descend ⟨["."]⟩) := by
  have htop : t.resolve .entry ⟨["."]⟩ = .ok (.taken [] .directory) := by
    simp +decide [resolve_of_no_fault fault?_top, walkFrom, Path.home]
  rw [listFiles, filesBelow, htop]

theorem listFiles_of_regularBelow {t : FileTree} {keys : List Key} (h : t.regularBelow [] = keys)
    (hopen : accessible ⟨["."]⟩ keys = keys) :
    t.listFiles ⟨["."]⟩ = keys.map (Path.descend ⟨["."]⟩) := by
  rw [listFiles_top, h, hopen]

theorem listed_of_regularBelow {t : FileTree} {keys : List Key} (h : t.regularBelow [] = keys)
    (hopen : accessible ⟨["."]⟩ keys = keys)
    (hkeys : ((keys.map (Path.descend ⟨["."]⟩)).filter scanning.rules.accepts).map Path.toString =
      ["./b.c"]) : scanning.listed t ⟨["."]⟩ = ["./b.c"] := by
  rw [ScanOptions.listed, listFiles_of_regularBelow h hopen]
  exact hkeys

theorem listed_shelf (q : Progress) : scanning.listed (shelf q) ⟨["."]⟩ = ["./b.c"] := by
  have hbelow : (shelf q).regularBelow [] = [["b.c"], ["state.json"]] := by
    simp +decide [regularBelow, shelf, isRegular, namesBelow?, List.mergeSort,
      List.MergeSort.Internal.splitInTwo, keyLe]
  exact listed_of_regularBelow hbelow (by decide) (by decide)

/-- What the scan makes of a queue. -/
def rescanned (q : Progress) : Progress :=
  { q with pending := q.work ["./b.c"], lastRun := some "now" }

/-- The queue that the scan makes of the one in the file. -/
theorem reconcile_shelf {t : FileTree} (hlisted : scanning.listed t ⟨["."]⟩ = ["./b.c"])
    (q : Progress) : ({ scanning.reconcile t (t.listFiles ⟨["."]⟩) q with
      lastRun := some "now" } : Progress) = rescanned q := by
  rw [ScanOptions.reconcile_of_not_skipExisting rfl, rescanned, ← hlisted]
  rfl

theorem scanned_of_write {t t₁ : FileTree} {q : Progress}
    (hlisted : scanning.listed t ⟨["."]⟩ = ["./b.c"]) (hload : store.load t = q)
    (hwrite : store.write t (rescanned q) = (t₁, true)) :
    Scanned store ["./b.c"] t (rescanned q) t₁ := by
  have hsave : store.save "now" t (scanning.reconcile t (t.listFiles ⟨["."]⟩) (store.load t)) =
      (t₁, rescanned q, true) := by
    rw [Store.save, reconcile_shelf hlisted, hload, hwrite]
  have hscan := Scanned.scan rfl hlisted (congrArg (·.2.2) hsave)
  rw [ScanOptions.scan, hsave] at hscan
  exact hscan

theorem scanned_shelf (q : Progress) :
    Scanned note ["./b.c"] (shelf q) (rescanned q) (shelf (rescanned q)) :=
  scanned_of_write (listed_shelf q) (load_shelf q) (write_shelf q _)

/-- A scan that is killed on the way to its save. -/
theorem Session.of_killed_scan {Fit : FileTree → Prop} {t t' : FileTree} {q : Progress}
    (hlisted : scanning.listed t ⟨["."]⟩ = ["./b.c"]) (hload : store.load t = q)
    (hcut : store.Cut t (rescanned q) t') :
    Session store Fit ["./b.c"] outcome t ⟨[], none, t'⟩ := by
  rw [← reconcile_shelf hlisted, ← hload] at hcut
  exact .killedInScan rfl hlisted hcut

/-! ## Any number of sessions -/

/-- After a schedule the file has come to some item, and the outcomes of the items before have been
saved in order. -/
theorem Schedule.reaches {t₀ t : FileTree} {legs : List Leg}
    (h : Schedule store store.Hosts items outcome t₀ legs t)
    (hstart : At store start items outcome 0 t₀) :
    ∃ n, At store start items outcome n t ∧
      legs.flatMap (Leg.saved · store) = (start.work items).take n ∧
      ∀ leg ∈ legs, leg.handed = leg.saved store ++ leg.lost store ∧
        (leg.lost store = [] ∨ leg.memory = none ∧ (leg.lost store).length = 1) := by
  induction h with
  | nil => exact ⟨0, hstart, rfl, nofun⟩
  | @leg legs t t' leg _ hspares hsession ih =>
      obtain ⟨n, hat, hsaved, hlegs⟩ := ih
      -- the session starts with item number `n` and saves `j` of them
      obtain ⟨j, last, htakes⟩ := hsession.takes (hat.of_spares hspares)
      refine ⟨n + j, htakes.after, ?_, fun other hother => ?_⟩
      · rw [List.flatMap_append, hsaved, List.flatMap_singleton, htakes.saved_eq, List.take_add]
      · rcases List.mem_append.mp hother with hother | hother
        · exact hlegs other hother
        · rw [List.mem_singleton.mp hother]
          exact htakes.handed_cases

/-- A session that leaves nothing waiting has come to the end of the work. -/
theorem Leg.Takes.of_drained {leg : Leg} {n j : Nat} {last : List String} {q : Progress}
    (h : leg.Takes store start items outcome n j last) (hq : leg.memory = some q)
    (hdrained : q.pending = []) :
    (start.work items).take (n + j) = start.work items ∧
      Reached start items outcome (n + j) q := by
  obtain ⟨hpending, hreached⟩ := h.memory q hq
  have hend : (start.work items).drop (n + j) = [] := hpending.symm.trans hdrained
  exact ⟨List.take_of_length_le (List.drop_eq_nil_iff.mp hend), hreached⟩

/-- Two queues that have come to the end of the work have the same items completed and failed. -/
theorem Reached.eq_of_end {n m : Nat} {q q' : Progress} (h : Reached start items outcome n q)
    (h' : Reached start items outcome m q')
    (hn : (start.work items).take n = start.work items)
    (hm : (start.work items).take m = start.work items) :
    q.completed = q'.completed ∧ q.failed = q'.failed := by
  rw [h.completed_eq, h.failed_eq, h'.completed_eq, h'.failed_eq]
  simp only [filed, hn, hm, and_self]

/-- **Work that is taken up again comes out the same.** After any schedule of sessions and one more
that leaves nothing waiting, the same items are completed and the same have failed, in the same
order, as after one session that was never interrupted, both in memory and in the file. The outcome
of each item has been saved once. An item may be worked on again only if it was in hand when its
session was killed and its outcome is not in the queue that was left in the file. -/
theorem Schedule.same_as_uninterrupted {t₀ t t' : FileTree} {legs : List Leg}
    {last reference : Leg} {q r : Progress} (hosts : store.Hosts t₀)
    (hreference : Session store store.Hosts items outcome t₀ reference)
    (hr : reference.memory = some r) (hall : r.pending = [])
    (hlegs : Schedule store store.Hosts items outcome t₀ legs t)
    (hspares : store.Spares store.Hosts t t')
    (hlast : Session store store.Hosts items outcome t' last)
    (hq : last.memory = some q) (hdrained : q.pending = []) :
    (q.completed = r.completed ∧ q.failed = r.failed) ∧
    ((store.load last.after).completed = r.completed ∧
      (store.load last.after).failed = r.failed) ∧
    reference.handed.Nodup ∧
    (legs ++ [last]).flatMap (Leg.saved · store) = reference.handed ∧
    ∀ leg ∈ legs ++ [last], leg.handed = leg.saved store ++ leg.lost store ∧
      (leg.lost store = [] ∨ leg.memory = none ∧ (leg.lost store).length = 1) := by
  have hstart : At store (store.load t₀) items outcome 0 t₀ := ⟨hosts, .zero _ _ _⟩
  obtain ⟨i, extra, href⟩ := hreference.takes hstart
  obtain ⟨n, hat, hsaved, hlost⟩ := hlegs.reaches hstart
  obtain ⟨j, extra', htakes⟩ := hlast.takes (hat.of_spares hspares)
  obtain ⟨hendr, hreachr⟩ := href.of_drained hr hall
  obtain ⟨hendq, hreachq⟩ := htakes.of_drained hq hdrained
  -- the reference has worked on the whole work, and has lost nothing
  have hhanded : reference.handed = (store.load t₀).work items := by
    rcases href.last_cases with hnone | ⟨hkilled, _⟩
    · rw [href.handed_eq, hnone, List.append_nil, List.drop_zero, ← Nat.zero_add i, hendr]
    · rw [hr] at hkilled
      cases hkilled
  refine ⟨hreachq.eq_of_end hreachr hendq hendr,
    htakes.after.2.eq_of_end hreachr hendq hendr, ?_, ?_, fun leg hleg => ?_⟩
  · rw [hhanded]
    exact nodup_due _ _
  · rw [List.flatMap_append, hsaved, List.flatMap_singleton, htakes.saved_eq, ← List.take_add,
      hendq, hhanded]
  · rcases List.mem_append.mp hleg with hleg | hleg
    · exact hlost leg hleg
    · rw [List.mem_singleton.mp hleg]
      exact htakes.handed_cases

/-- A session is killed while it works on the item, which the next one works on again. -/
theorem Schedule.same_as_uninterrupted_shelf :
    ∃ killed last : Leg, ∃ q : Progress,
      Schedule note note.Hosts ["./b.c"] (fun _ => .completed) (shelf .empty) [killed]
        killed.after ∧
      Session note note.Hosts ["./b.c"] (fun _ => .completed) killed.after last ∧
      last.memory = some q ∧ killed.handed = ["./b.c"] ∧ last.handed = ["./b.c"] ∧
      q.completed = ["./b.c"] ∧ q.failed = [] ∧
      [killed, last].flatMap (Leg.saved · note) = ["./b.c"] := by
  have hreference : Session note note.Hosts ["./b.c"] (fun _ => .completed) (shelf .empty) _ :=
    .of_pending_singleton (scanned_shelf .empty) rfl rfl (write_shelf _ _)
  have hkilled : Session note note.Hosts ["./b.c"] (fun _ => .completed) (shelf .empty) _ :=
    .of_killed_singleton (scanned_shelf .empty) rfl (hosts_shelf _)
  have hlast : Session note note.Hosts ["./b.c"] (fun _ => .completed)
      (shelf (rescanned .empty)) _ :=
    .of_pending_singleton (scanned_shelf (rescanned .empty)) rfl rfl (write_shelf _ _)
  have hschedule := Schedule.nil.leg ⟨hosts_shelf .empty, rfl⟩ hkilled
  obtain ⟨⟨hcompleted, hfailed⟩, _, _, hsaved, _⟩ := Schedule.same_as_uninterrupted
    (hosts_shelf .empty) hreference rfl rfl hschedule ⟨hosts_shelf _, rfl⟩ hlast rfl rfl
  exact ⟨_, _, _, hschedule, hlast, rfl, rfl, rfl, hcompleted, hfailed, hsaved⟩

/-! ## Trees that do not host the queue -/

/-- A queue whose only item is completed. -/
def settled : Progress := ⟨[], ["./b.c"], [], none⟩

/-- From this tree the work may come out otherwise when a session comes first: not the same items
are completed as in one session that nobody interrupts. -/
def Diverges (store : Store) (t : FileTree) : Prop :=
  t.WellFormed ∧ (store.load t).Partitioned ∧
    ∃ (outcome : String → Outcome) (reference first last : Leg) (q r : Progress),
      Session store WellFormed ["./b.c"] outcome t reference ∧
      reference.memory = some r ∧ r.pending = [] ∧
      Session store WellFormed ["./b.c"] outcome t first ∧
      Session store WellFormed ["./b.c"] outcome first.after last ∧
      last.memory = some q ∧ q.pending = [] ∧ q.completed ≠ r.completed

/-! ### The temporary file is a link to the file -/

/-- A shelf on which the temporary file is a link to the file. -/
def linked (q : Progress) : FileTree :=
  ⟨[(["b.c"], .file .empty), (["state.json"], .file q.print.toUTF8),
    (["state.json.tmp"], .link ⟨["state.json"]⟩)]⟩

/-- A shelf on which the file is a link to itself. -/
def looped : FileTree :=
  ⟨[(["b.c"], .file .empty), (["state.json"], .link ⟨["state.json"]⟩)]⟩

/-- The file is written behind the link, which takes its place. -/
theorem write_linked (q q' : Progress) : note.write (linked q) q' = (looped, true) := by
  have hstage : (linked q).write ⟨["state.json.tmp"]⟩ q'.print.toUTF8 =
      .ok ((linked q).insert ["state.json"] (.file q'.print.toUTF8)) := by
    simp +decide [FileTree.write, resolve_of_no_fault fault?_temporary, walkFrom, Path.home, get?,
      linked, List.lookup_cons, bind, Except.bind, linkBudget]
  refine note_write hstage ?_
  simp +decide [FileTree.rename, resolve_of_no_fault fault?_temporary,
    resolve_of_no_fault fault?_path, walkFrom, Path.home, get?, linked, looped, List.lookup_cons,
    bind, Except.bind, FileTree.insert, erase]

theorem write_looped (q : Progress) : note.write looped q = (shelf q, true) := by
  have hstage : looped.write ⟨["state.json.tmp"]⟩ q.print.toUTF8 =
      .ok (looped.insert ["state.json.tmp"] (.file q.print.toUTF8)) := by
    simp +decide [FileTree.write, resolve_of_no_fault fault?_temporary, walkFrom, Path.home, get?,
      looped, List.lookup_cons, bind, Except.bind]
  refine note_write hstage ?_
  simp +decide [FileTree.rename, resolve_of_no_fault fault?_temporary,
    resolve_of_no_fault fault?_path, walkFrom, Path.home, get?, shelf, looped, List.lookup_cons,
    bind, Except.bind, FileTree.insert, erase]

theorem load_linked (q : Progress) : note.load (linked q) = q := by
  refine Store.load_of_read_eq_ok ?_
  simp +decide [note, FileTree.read, resolve_of_no_fault fault?_path, walkFrom, Path.home, get?,
    linked, List.lookup_cons, bind, Except.bind]

theorem load_looped : note.load looped = .empty := by
  have hread : looped.read ⟨["state.json"]⟩ = .error .tooManyLinks := by
    simp +decide [FileTree.read, resolve_of_no_fault fault?_path, walkFrom, Path.home, get?,
      looped, List.lookup_cons, bind, Except.bind, linkBudget]
  refine Store.load_of_read_ne_ok fun bytes hok => ?_
  rw [note, hread] at hok
  cases hok

theorem scanned_linked (q : Progress) :
    Scanned note ["./b.c"] (linked q) (rescanned q) looped := by
  have hbelow : (linked q).regularBelow [] = [["b.c"], ["state.json"]] := by
    simp +decide [regularBelow, linked, isRegular, namesBelow?, List.mergeSort,
      List.MergeSort.Internal.splitInTwo, keyLe]
  have hlisted := listed_of_regularBelow hbelow (by decide) (by decide)
  exact scanned_of_write hlisted (load_linked q) (write_linked q _)

theorem scanned_looped :
    Scanned note ["./b.c"] looped (rescanned .empty) (shelf (rescanned .empty)) := by
  have hbelow : looped.regularBelow [] = [["b.c"]] := by
    simp +decide [regularBelow, looped, isRegular, namesBelow?]
  have hlisted := listed_of_regularBelow hbelow (by decide) (by decide)
  exact scanned_of_write hlisted load_looped (write_looped _)

/-- The first session replaces the file by a link to itself, and the queue is lost. -/
theorem diverges_linked : Diverges note (linked settled) := by
  have hfirst : Session note WellFormed ["./b.c"] (fun _ => .failed) (linked settled) _ :=
    .of_pending_nil (scanned_linked settled) rfl
  have hlast : Session note WellFormed ["./b.c"] (fun _ => .failed) looped _ :=
    .of_pending_singleton scanned_looped rfl rfl (write_shelf _ _)
  refine ⟨wellFormed_of_flat (by decide), ?_, _, _, _, _, _, _, hfirst, rfl, rfl, hfirst, hlast,
    rfl, rfl, by decide⟩
  rw [load_linked]
  unfold Progress.Partitioned
  decide

/-! ### The file is a link to the temporary file -/

/-- A shelf on which the file is a link to the temporary file, which has these bytes. -/
def aliased (bytes : ByteArray) : FileTree :=
  ⟨[(["b.c"], .file .empty), (["state.json"], .link ⟨["state.json.tmp"]⟩),
    (["state.json.tmp"], .file bytes)]⟩

theorem stage_aliased (bytes bytes' : ByteArray) :
    (aliased bytes).write ⟨["state.json.tmp"]⟩ bytes' = .ok (aliased bytes') := by
  simp +decide [FileTree.write, resolve_of_no_fault fault?_temporary, walkFrom, Path.home, get?,
    aliased, List.lookup_cons, bind, Except.bind, FileTree.insert, erase]

/-- The link is replaced. -/
theorem write_aliased (bytes : ByteArray) (q : Progress) :
    note.write (aliased bytes) q = (shelf q, true) := by
  refine note_write (stage_aliased bytes _) ?_
  simp +decide [FileTree.rename, resolve_of_no_fault fault?_temporary,
    resolve_of_no_fault fault?_path, walkFrom, Path.home, get?, shelf, aliased, List.lookup_cons,
    bind, Except.bind, FileTree.insert, erase]

theorem read_aliased (bytes : ByteArray) : (aliased bytes).read note.path = .ok bytes := by
  simp +decide [note, FileTree.read, resolve_of_no_fault fault?_path, walkFrom, Path.home, get?,
    aliased, List.lookup_cons, bind, Except.bind, linkBudget]

theorem load_aliased (bytes : ByteArray) : note.load (aliased bytes) = Store.decoded bytes := by
  rw [Store.load_eq, read_aliased]

theorem decoded_empty : Store.decoded .empty = .empty := by decide

theorem listed_aliased (bytes : ByteArray) :
    scanning.listed (aliased bytes) ⟨["."]⟩ = ["./b.c"] := by
  have hbelow : (aliased bytes).regularBelow [] = [["b.c"], ["state.json.tmp"]] := by
    simp +decide [regularBelow, aliased, isRegular, namesBelow?, List.mergeSort,
      List.MergeSort.Internal.splitInTwo, keyLe]
  exact listed_of_regularBelow hbelow (by decide) (by decide)

/-- The first session is killed when it begins to write, and the queue is lost. -/
theorem diverges_aliased : Diverges note (aliased settled.print.toUTF8) := by
  have hsettled := (load_aliased settled.print.toUTF8).trans (Store.decoded_print settled)
  have hemptied := (load_aliased .empty).trans decoded_empty
  have hreference : Session note WellFormed ["./b.c"] (fun _ => .failed)
      (aliased settled.print.toUTF8) _ :=
    .of_pending_nil (scanned_of_write (listed_aliased _) hsettled (write_aliased _ _)) rfl
  have hcut : note.Cut (aliased settled.print.toUTF8) (rescanned settled) (aliased .empty) := by
    refine .staging 0 (note_prepare _) ?_
    rw [note_temporary, ByteArray.extract_same]
    exact stage_aliased _ _
  have hfirst : Session note WellFormed ["./b.c"] (fun _ => .failed)
      (aliased settled.print.toUTF8) _ :=
    .of_killed_scan (listed_aliased _) hsettled hcut
  have hlast : Session note WellFormed ["./b.c"] (fun _ => .failed) (aliased .empty) _ :=
    .of_pending_singleton (scanned_of_write (listed_aliased _) hemptied (write_aliased _ _)) rfl rfl
      (write_shelf _ _)
  refine ⟨wellFormed_of_flat (by simp [aliased]), ?_, _, _, _, _, _, _, hreference, rfl, rfl,
    hfirst, hlast, rfl, rfl, by decide⟩
  rw [hsettled]
  unfold Progress.Partitioned
  decide

/-! ### The path goes up behind a name -/

/-- A shelf and the directory on the way, just made. -/
def opened (q : Progress) : FileTree :=
  ⟨[(["b.c"], .file .empty), (["state.json"], .file q.print.toUTF8), (["new"], .directory)]⟩

/-- The same shelf when the queue has been saved. -/
def detoured (q : Progress) : FileTree :=
  ⟨[(["b.c"], .file .empty), (["new"], .directory), (["state.json"], .file q.print.toUTF8)]⟩

theorem prepare_shelf (q : Progress) : roundabout.prepare (shelf q) = (opened q, .ok ()) := by
  simp +decide [Store.prepare, roundabout_parent, back_parent, createDirectories, createUpward,
    createDirectory, resolve_of_no_fault fault?_new, resolve_of_no_fault fault?_back, walkFrom,
    Path.home, get?, shelf, List.lookup_cons, bind, Except.bind, FileTree.insert, erase, opened,
    isDirectory, node?, Key.above]

theorem prepare_opened (q : Progress) : roundabout.prepare (opened q) = (opened q, .ok ()) := by
  simp +decide [Store.prepare, roundabout_parent, createDirectories, createUpward,
    createDirectory, resolve_of_no_fault fault?_back, walkFrom,
    Path.home, get?, List.lookup_cons, bind, Except.bind, opened,
    isDirectory, node?, Key.above]

theorem prepare_detoured (q : Progress) :
    roundabout.prepare (detoured q) = (detoured q, .ok ()) := by
  simp +decide [Store.prepare, roundabout_parent, createDirectories, createUpward,
    createDirectory, resolve_of_no_fault fault?_back, walkFrom,
    Path.home, get?, List.lookup_cons, bind, Except.bind, detoured,
    isDirectory, node?, Key.above]

theorem write_of_prepare {t t₁ : FileTree} {q : Progress} (q' : Progress)
    (hprepare : roundabout.prepare t = (t₁, .ok ())) (ht₁ : t₁ = opened q ∨ t₁ = detoured q) :
    roundabout.write t q' = (detoured q', true) := by
  have hstage : t₁.write roundabout.temporary q'.print.toUTF8 =
      .ok (t₁.insert ["state.json.tmp"] (.file q'.print.toUTF8)) := by
    rw [roundabout_temporary]
    rcases ht₁ with rfl | rfl <;>
    simp +decide [FileTree.write, resolve_of_no_fault fault?_roundabout_temporary, walkFrom,
      Path.home, get?, opened, detoured, List.lookup_cons, bind, Except.bind, Key.above]
  refine Store.write_eq_of_steps hprepare hstage ?_
  rw [roundabout_temporary]
  rcases ht₁ with rfl | rfl <;>
  simp +decide [roundabout, FileTree.rename, resolve_of_no_fault fault?_roundabout_temporary,
    resolve_of_no_fault fault?_roundabout, walkFrom, Path.home, get?, opened, detoured,
    List.lookup_cons, bind, Except.bind, FileTree.insert, erase, Key.above]

theorem load_shelf_roundabout (q : Progress) : roundabout.load (shelf q) = .empty := by
  have hread : (shelf q).read ⟨["new", "..", "state.json"]⟩ = .error .notFound := by
    simp +decide [FileTree.read, resolve_of_no_fault fault?_roundabout, walkFrom, Path.home, get?,
      shelf, List.lookup_cons, bind, Except.bind]
  refine Store.load_of_read_ne_ok fun bytes hok => ?_
  rw [roundabout, hread] at hok
  cases hok

theorem load_opened (q : Progress) : roundabout.load (opened q) = q := by
  refine Store.load_of_read_eq_ok ?_
  simp +decide [roundabout, FileTree.read, resolve_of_no_fault fault?_roundabout, walkFrom,
    Path.home, get?, opened, List.lookup_cons, bind, Except.bind, Key.above]

theorem listed_opened (q : Progress) : scanning.listed (opened q) ⟨["."]⟩ = ["./b.c"] := by
  have hbelow : (opened q).regularBelow [] = [["b.c"], ["state.json"]] := by
    simp +decide [regularBelow, opened, isRegular, namesBelow?, List.mergeSort,
      List.MergeSort.Internal.splitInTwo, keyLe]
  exact listed_of_regularBelow hbelow (by decide) (by decide)

/-- The first session is killed when it has made the directory, and a queue comes to light. -/
theorem diverges_upward : Diverges roundabout (shelf settled) := by
  have hreference : Session roundabout WellFormed ["./b.c"] (fun _ => .failed) (shelf settled) _ :=
    .of_pending_singleton (scanned_of_write (listed_shelf _) (load_shelf_roundabout _)
      (write_of_prepare _ (prepare_shelf _) (.inl rfl))) rfl rfl
      (write_of_prepare _ (prepare_detoured _) (.inr rfl))
  have hcut : roundabout.Cut (shelf settled) (rescanned .empty) (opened settled) := by
    have hmade := Store.prepare_madeAbove roundabout (shelf settled)
    rw [prepare_shelf] at hmade
    exact .preparing hmade
  have hfirst : Session roundabout WellFormed ["./b.c"] (fun _ => .failed) (shelf settled) _ :=
    .of_killed_scan (listed_shelf _) (load_shelf_roundabout _) hcut
  have hlast : Session roundabout WellFormed ["./b.c"] (fun _ => .failed) (opened settled) _ :=
    .of_pending_nil (scanned_of_write (listed_opened _) (load_opened _)
      (write_of_prepare _ (prepare_opened _) (.inl rfl))) rfl
  refine ⟨wellFormed_of_flat (by simp [shelf]), ?_, _, _, _, _, _, _, hreference, rfl, rfl, hfirst,
    hlast, rfl, rfl, by decide⟩
  rw [load_shelf_roundabout]
  unfold Progress.Partitioned
  decide

/-- **Not every tree will do**: neither one in which the temporary file is a link, nor one in which
the file is a link to it, nor a path that goes up behind a name. -/
theorem not_same_as_uninterrupted :
    Diverges note (linked settled) ∧ Diverges note (aliased settled.print.toUTF8) ∧
      Diverges roundabout (shelf settled) :=
  ⟨diverges_linked, diverges_aliased, diverges_upward⟩

end SourceTutor
