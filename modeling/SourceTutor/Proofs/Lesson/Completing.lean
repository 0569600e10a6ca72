import SourceTutor.Proofs.FileTree.Room
import SourceTutor.Proofs.Lesson.Explaining
import SourceTutor.Proofs.Queue.BatchSize
import SourceTutor.Proofs.Queue.Resumption

/-!
# Runs that complete everything

When the service answers whatever it is asked and there is room for the artifacts of an item, the
item is completed (`Analyzer.Prepared.process`). A run of such items that nobody stops works on all
of them, and when there is room for the queue as well, all of them are completed at its end and the
queue is in its file (`Analyzer.run_completes`). So it is with `a.c` and `a.cpp` beside a directory
for their artifacts (`Analyzer.twinRun_spec`).
-/

set_option autoImplicit false

namespace SourceTutor

open FileTree SourceTutor.Chat

/-! ## Courses -/

namespace Scheduler

variable {σ : Type} {s : Scheduler σ} {q₀ q : Progress} {w₀ w : σ} {pace : Pace}
  {calls : List (Call σ)}

/-- A run that nobody stops works on all that waits. -/
theorem handed_runCalls (s : Scheduler σ) (hb : 0 < s.batchSize)
    (hstop : ∀ w, s.stopRequested w = false) (q : Progress) (w : σ) :
    handed (s.runCalls q w) = q.pending.eraseDups := by
  obtain ⟨pace, hcourse⟩ := s.course_run q w
  have hended : (s.run q w).2.1.pending = [] := by
    rw [s.run_eq_sweep hb]
    refine (s.sweep_ended q w).resolve_right ?_
    rw [hstop]
    exact Bool.false_ne_true
  have hall := hcourse.handed_append_pending
  rwa [hended, List.eraseDups_nil, List.append_nil] at hall

/-- Nothing comes to wait that did not wait at the start. -/
theorem Course.mem_pending (h : Course s q₀ w₀ pace calls q w) {item : String}
    (hitem : item ∈ q.pending) : item ∈ q₀.pending := by
  have hmem : item ∈ handed calls ++ q.pending.eraseDups :=
    List.mem_append_right _ (List.mem_eraseDups.mpr hitem)
  rw [h.handed_append_pending] at hmem
  exact List.mem_eraseDups.mp hmem

/-- **A course on which every item is completed**: this is recorded of each. What holds of the world
between two items may be lost while an item is worked on, as long as saving the queue brings it
back. -/
theorem Course.completes (Between Within : σ → Prop) (h : Course s q₀ w₀ pace calls q w)
    (hw₀ : Between w₀)
    (hprocess : ∀ item ∈ q₀.pending, ∀ w, Between w →
      (s.process item w).1 = .completed ∧ Within (s.process item w).2)
    (hsave : ∀ q w, Within w → Between (s.save q w).2)
    (hpause : ∀ w, Between w → Between (s.pause w)) :
    Between w ∧ ∀ item ∈ handed calls, item ∈ q.completed := by
  induction h with
  | start => exact ⟨hw₀, fun item hitem => nomatch hitem⟩
  | @item calls q w item waiting hcourse hq _ ih =>
      obtain ⟨hw, hdone⟩ := ih
      have hwaits : item ∈ q.pending := by simp [hq]
      obtain ⟨hcompleted, hworked⟩ := hprocess item (hcourse.mem_pending hwaits) w hw
      refine ⟨hsave _ _ hworked, fun other hother => ?_⟩
      have hrecorded : other = item ∨ other ∈ q.completed := by
        simp only [handed_append, handed_process, handed_save, handed_nil, List.mem_append,
          List.mem_singleton] at hother
        exact hother.symm.imp_right (hdone other)
      show other ∈ (Progress.record { q with pending := waiting } item
        (s.process item w).1).completed
      rw [hcompleted]
      exact Progress.mem_addOnce.mpr hrecorded.symm
  | pause _ _ _ ih =>
      obtain ⟨hw, hdone⟩ := ih
      refine ⟨hpause _ hw, fun item hitem => ?_⟩
      rw [handed_append, handed_pause, handed_nil, List.append_nil] at hitem
      exact hdone item hitem

end Scheduler

/-! ## The queue -/

/-- The file of the queue and the temporary file have room, in a directory that is there. -/
structure Store.Prepared (kept : List Key) (s : Store) (t : FileTree) : Prop where
  directory : ∀ dir, s.path.parent? = some dir → dir.isEmpty = true ∨ t.HasDirectory dir
  rooms : ∃ key key', key ∉ kept ∧ key' ∉ kept ∧ key' ≠ key ∧ t.HasRoom s.temporary key ∧
    t.HasRoom s.path key'

section

variable {kept : List Key} {t₀ t : FileTree}

/-- A save comes through: the temporary file is written, taken away, and put in place of the file. -/
theorem Store.Prepared.write_eq {s : Store} (h : s.Prepared kept t₀) (ht : Steady kept t₀ t)
    (q : Progress) :
    ∃ key key', key ∉ kept ∧ key' ∉ kept ∧ key' ≠ key ∧ t.HasRoom s.temporary key ∧
      t.HasRoom s.path key' ∧ s.write t q =
        (((t.insert key (.file q.print.toUTF8)).erase key).insert key' (.file q.print.toUTF8),
          true) := by
  have hprepare : s.prepare t = (t, .ok ()) := by
    rw [Store.prepare]
    cases hparent : s.path.parent? with
    | none => rfl
    | some dir =>
        rcases h.directory dir hparent with hempty | hdir
        · exact if_pos hempty
        · dsimp only
          split
          · rfl
          · exact (ht.ways.hasDirectory hdir).createDirectories_eq
  obtain ⟨key, key', hkey, hkey', hne, hroom, hroom'⟩ := h.rooms
  obtain ⟨hstage, hstaged⟩ := ht.write hroom hkey q.print.toUTF8
  have hget : (t.insert key (.file q.print.toUTF8)).get? key = some (.file q.print.toUTF8) :=
    get?_insert_self (ht.ways.writable hroom.1).ne_nil
  have hcommit := (hstaged.ways.hasRoom hroom).rename_eq hget (hstaged.ways.hasRoom hroom') hne
  exact ⟨key, key', hkey, hkey', hne, ht.ways.hasRoom hroom, ht.ways.hasRoom hroom',
    Store.write_eq_of_steps hprepare hstage hcommit⟩

/-- When a save has come through, the queue is in its file. -/
theorem Store.Prepared.write {s : Store} (h : s.Prepared kept t₀) (ht : Steady kept t₀ t)
    (q : Progress) :
    ∃ t', s.write t q = (t', true) ∧ Steady kept t₀ t' ∧ t'.read s.path = .ok q.print.toUTF8 := by
  obtain ⟨key, key', hkey, hkey', _, hroom, hroom', hwrite⟩ := h.write_eq ht q
  have hstaged := ht.insert_file hroom.1 hkey q.print.toUTF8
  have hget : (t.insert key (.file q.print.toUTF8)).get? key = some (.file q.print.toUTF8) :=
    get?_insert_self hroom.1.ne_nil
  have herased := hstaged.erase_file (writable_of_file hget) hkey
  have hways := ht.ways.symm.trans herased.ways
  have hmoved := herased.insert_file (hways.writable hroom'.1) hkey' q.print.toUTF8
  exact ⟨_, hwrite, hmoved, ((ht.ways.symm.trans hmoved.ways).hasRoom hroom').read_eq_ok
    (get?_insert_self hroom'.1.ne_nil)⟩

end

namespace Lesson

/-! ## The service -/

/-- The service answers whatever it is asked. -/
def Surroundings.Answering (around : Surroundings) : Prop :=
  ∀ sent, ∃ text, completionOf (around.reply sent) = .ok text

theorem Surroundings.Answering.send {around : Surroundings} (h : around.Answering)
    (client : Client) (messages : List Message) (w : World) :
    ∃ text w', client.send around.service messages w = (.answered text, w') := by
  obtain ⟨text, htext⟩ := h (w.sent ++ [client.request client.model messages])
  have hreply : completionOf (around.service.exchange
      (client.request client.model messages) w).1 = .ok text := htext
  have hsame : client.replacement? (around.service.exchange
      (client.request client.model messages) w).1 = none := by
    rw [Client.replacement?, hreply]
  refine ⟨text, (around.service.exchange (client.request client.model messages) w).2, ?_⟩
  rw [Client.send, Client.ask_of_not_replaced around.service hsame,
    Client.askFrom_of_ok around.service _ hreply]
  rfl

/-- An artifact is written where there is room, in a directory that is there. -/
theorem writeArtifact_eq {questions : List Question} {index : Nat} {question : Question}
    (hquestion : questions[index]? = some question) {t : FileTree} {source dir : Path}
    {outputDir : String} {key : Key}
    (hparent : (artifactPath source outputDir question.suffix).parent? = some dir)
    (hdir : t.isDirectory dir = true)
    (hroom : t.HasRoom (artifactPath source outputDir question.suffix) key) (answer : String) :
    writeArtifact t source outputDir questions index answer =
      (t.insert key (.file (artifactText source question answer).toUTF8),
        .ok (artifactPath source outputDir question.suffix)) := by
  have hmade : makeOutputDir t (artifactPath source outputDir question.suffix) = (t, .ok ()) := by
    rw [makeOutputDir, hparent]
    exact if_pos hdir
  rw [writeArtifact, hquestion]
  dsimp only
  rw [hmade]
  dsimp only
  rw [hroom.write_eq]

namespace Analyzer

/-- The item is a file that is kept, and there is room for the artifacts about it, in directories
that are there. -/
structure Prepared (kept : List Key) (a : Analyzer) (item : String) (t : FileTree) : Prop where
  source : ∃ key ∈ kept, ∃ bytes, t.HasRoom (.ofString item) key ∧ t.get? key = some (.file bytes)
  artifacts : ∀ question ∈ a.questions, ∃ key, key ∉ kept ∧
    t.HasRoom (artifactPath (.ofString item) a.outputDir question.suffix) key ∧
    ∃ dir, (artifactPath (.ofString item) a.outputDir question.suffix).parent? = some dir ∧
      t.HasDirectory dir

variable {a : Analyzer} {around : Surroundings} {store : Store} {kept : List Key}
  {t₀ t : FileTree} {item : String}

/-- An answer is written down. -/
theorem Prepared.writer (h : a.Prepared kept item t₀) {index : Nat} {question : Question}
    (hquestion : a.questions[index]? = some question) (answer : String) {w : World}
    (hw : Steady kept t₀ w.tree) :
    ∃ path w', a.writer (.ofString item) index answer w = (.ok path, w') ∧
      Steady kept t₀ w'.tree := by
  obtain ⟨key, hkey, hroom, dir, hparent, hdir⟩ :=
    h.artifacts question (List.mem_of_getElem? hquestion)
  let bytes := (artifactText (.ofString item) question answer).toUTF8
  have hwrite := writeArtifact_eq hquestion hparent (hw.ways.hasDirectory hdir).isDirectory
    (hw.ways.hasRoom hroom) answer
  refine ⟨artifactPath (.ofString item) a.outputDir question.suffix,
    { w with tree := w.tree.insert key (.file bytes) }, ?_, (hw.write hroom hkey bytes).2⟩
  rw [Analyzer.writer, hwrite]

/-- A conversation comes to its end, from any question on. The induction is on the questions
left. -/
theorem Prepared.converseFrom (h : a.Prepared kept item t₀) (hanswers : around.Answering)
    {done questions : List Question} (hdone : a.questions = done ++ questions)
    (turns : List Message) {w : World} (hw : Steady kept t₀ w.tree) :
    ∃ artifacts w', Lesson.converseFrom a.client around.service (a.writer (.ofString item))
        a.pacing done.length questions turns w = (.completed artifacts, w') ∧
      Steady kept t₀ w'.tree := by
  induction questions generalizing done turns w with
  | nil => exact ⟨[], w, rfl, hw⟩
  | cons question rest ih =>
      have hquestion : a.questions[done.length]? = some question := by
        rw [hdone]
        simp
      obtain ⟨text, w₁, hsend⟩ := hanswers.send a.client (turns ++ [.user question.prompt]) w
      have hw₁ : Steady kept t₀ w₁.tree := by
        have htree := a.client.tree_send around (turns ++ [.user question.prompt]) w
        rw [hsend] at htree
        rw [htree]
        exact hw
      obtain ⟨path, w₂, hwriter, hw₂⟩ := h.writer hquestion text hw₁
      have hw₃ : Steady kept t₀
          (if rest.isEmpty then w₂ else Lesson.pause around.service a.pacing w₂).tree := by
        rw [(pause_spec around a.pacing rest.isEmpty w₂).1]
        exact hw₂
      have hlength : (done ++ [question]).length = done.length + 1 := by simp
      have hdone' : a.questions = (done ++ [question]) ++ rest := by
        rw [hdone, List.append_assoc]
        rfl
      obtain ⟨artifacts, w₄, hrest, hw₄⟩ :=
        ih hdone' (turns ++ [.user question.prompt] ++ [.assistant text]) hw₃
      rw [hlength] at hrest
      exact ⟨path :: artifacts, w₄, converseFrom_of_written rest hsend hwriter hrest, hw₄⟩

/-- **An item is completed** when the service answers and there is room for its artifacts. -/
theorem Prepared.process (h : a.Prepared kept item t₀) (hanswers : around.Answering) {w : World}
    (hw : Steady kept t₀ w.tree) :
    (a.process around item w).1 = .completed ∧
      Steady kept t₀ (a.process around item w).2.tree := by
  obtain ⟨key, hkey, bytes, hroom, hget⟩ := h.source
  have hread := hw.read_eq_ok hroom hkey hget
  obtain ⟨artifacts, w', hconverse, hw'⟩ := h.converseFrom hanswers
    (List.nil_append a.questions).symm
    (opening (.ofString item) (Text.decode bytes) a.maxCodeLength) hw
  rw [Analyzer.process, hread]
  dsimp only
  rw [explain, converse]
  rw [List.length_nil] at hconverse
  rw [hconverse]
  exact ⟨rfl, hw'⟩

/-- **A run completes all that waits**, when the service answers, there is room for the artifacts
and the queue, and nobody asks to stop. At its end the file of the queue holds a queue. -/
theorem run_completes (hanswers : around.Answering) (hstop : ∀ w, around.stopRequested w = false)
    {batchSize : Nat} (hb : 0 < batchSize) (throttle : Duration)
    (hstore : store.Prepared kept t₀) {q : Progress}
    (hitems : ∀ item ∈ q.pending, a.Prepared kept item t₀) {w : World}
    (hw : Steady kept t₀ w.tree)
    (hkept : ∃ q', w.tree.read store.path = .ok (Progress.print q').toUTF8) :
    handed ((a.scheduler around store batchSize throttle).runCalls q w) = q.pending.eraseDups ∧
      (∀ item ∈ q.pending,
        item ∈ ((a.scheduler around store batchSize throttle).run q w).2.1.completed) ∧
      ∃ q', ((a.scheduler around store batchSize throttle).run q w).2.2.tree.read store.path =
        .ok (Progress.print q').toUTF8 := by
  have hhanded := (a.scheduler around store batchSize throttle).handed_runCalls hb hstop q w
  obtain ⟨pace, hcourse⟩ := (a.scheduler around store batchSize throttle).course_run q w
  obtain ⟨⟨_, hqueue⟩, hcompleted⟩ := hcourse.completes
    (fun w : World => Steady kept t₀ w.tree ∧
      ∃ q', w.tree.read store.path = .ok (Progress.print q').toUTF8)
    (fun w : World => Steady kept t₀ w.tree) ⟨hw, hkept⟩
    (fun item hitem w hw => (hitems item hitem).process hanswers hw.1)
    (fun q w hw => by
      obtain ⟨t', hwrite, hsteady, hread⟩ := hstore.write hw { q with lastRun := some around.now }
      have htree : ((a.scheduler around store batchSize throttle).save q w).2.tree = t' :=
        congrArg Prod.fst hwrite
      rw [htree]
      exact ⟨hsteady, _, hread⟩)
    (fun w hw => by rwa [tree_pause])
  refine ⟨hhanded, fun item hitem => hcompleted item ?_, hqueue⟩
  rw [hhanded]
  exact List.mem_eraseDups.mpr hitem

/-! ### Two files with one stem -/

/-- Two source files with one stem, and the directory for their artifacts. -/
def twins : FileTree :=
  ⟨[(["a.c"], .file .empty), (["a.cpp"], .file .empty), (["docs"], .directory)]⟩

/-- The keys of the two. -/
def twinKeys : List Key := [["a.c"], ["a.cpp"]]

/-- The queue of the two. -/
def twinQueue : Progress := ⟨["./a.c", "./a.cpp"], [], [], some "now"⟩

/-- A service that gives the same answer to everything, and nobody who asks to stop. -/
def chatty : Surroundings where
  reply _ := .ok (.ofContent "Fine.")
  draw low _ := low
  stopRequested _ := false
  now := "now"

/-- The three questions, without a pause between them. -/
def explainer : Analyzer where
  client := .patient
  questions := Question.standard
  outputDir := "docs"
  maxCodeLength := 100
  pacing := .zero

/-- The store whose file is one of the artifacts. -/
def album : Store := ⟨⟨[".", "docs", "a_overview.md"]⟩⟩

theorem chatty_answering : chatty.Answering := by
  have hreply : completionOf (.ok (.ofContent "Fine.")) = .ok "Fine." := by decide +kernel
  exact fun _ => ⟨"Fine.", hreply⟩

theorem linkFree_twins : twins.LinkFree := linkFree_of_nodes (by simp [twins])

/-- The way into the directory of the artifacts. -/
theorem leads_docs (links : Nat) : Leads twins links [] [".", "docs"] links ["docs"] :=
  .stay (.down ⟨by decide, by decide, by decide⟩ (by decide) (by decide) .here)

/-- In the directory of the artifacts there is room under a free name. -/
theorem hasRoom_docs {name : String} (hname : Path.IsName name)
    (hfault : (⟨[".", "docs"] ++ [name]⟩ : Path).fault? = none)
    (hsize : FileName.size name ≤ longestName) (hget : twins.get? (["docs"] ++ [name]) = none) :
    twins.HasRoom ⟨[".", "docs"] ++ [name]⟩ (["docs"] ++ [name]) :=
  ⟨writable_of_none hget, _, name, rfl, hname, hfault, hsize, _, _, leads_docs _, rfl⟩

theorem hasDirectory_docs : twins.HasDirectory ⟨[".", "docs"]⟩ :=
  ⟨["."], "docs", ["docs"], rfl, ⟨by decide, by decide, by decide⟩,
    ⟨by decide, by decide, linkBudget, [], .stay .here, rfl⟩, by decide⟩

/-- The artifacts about either file are the same. -/
theorem artifactPath_twins : ∀ item ∈ twinQueue.pending, ∀ question ∈ Question.standard,
    artifactPath (.ofString item) "docs" question.suffix =
      ⟨[".", "docs"] ++ ["a" ++ question.suffix]⟩ := by
  decide

/-- There is room for the artifacts about either file. -/
theorem hasRoom_twins {item : String} (hitem : item ∈ twinQueue.pending) {question : Question}
    (hquestion : question ∈ Question.standard) :
    twins.HasRoom (artifactPath (.ofString item) "docs" question.suffix)
      ["docs", "a" ++ question.suffix] := by
  have hfault : ∀ question ∈ Question.standard,
      (⟨[".", "docs"] ++ ["a" ++ question.suffix]⟩ : Path).fault? = none := by decide
  have hlength : ∀ question ∈ Question.standard,
      2 < ("a" ++ question.suffix).toList.length ∧
        FileName.size ("a" ++ question.suffix) ≤ longestName := by decide
  have hfree : ∀ question ∈ Question.standard,
      twins.get? (["docs"] ++ ["a" ++ question.suffix]) = none := by decide
  rw [artifactPath_twins item hitem question hquestion]
  exact hasRoom_docs (Path.isName_of_length (hlength question hquestion).1)
    (hfault question hquestion) (hlength question hquestion).2 (hfree question hquestion)

/-- Either file is there. -/
theorem hasSource_twins {item : String} (hitem : item ∈ twinQueue.pending) :
    ∃ key ∈ twinKeys, ∃ bytes, twins.HasRoom (.ofString item) key ∧
      twins.get? key = some (.file bytes) := by
  have hget : twins.get? ["a.c"] = some (.file .empty) ∧
      twins.get? ["a.cpp"] = some (.file .empty) := by decide
  have hname : Path.IsName "a.c" ∧ Path.IsName "a.cpp" :=
    ⟨Path.isName_of_length (by decide), Path.isName_of_length (by decide)⟩
  simp only [twinQueue, List.mem_cons, List.not_mem_nil, or_false] at hitem
  rcases hitem with rfl | rfl
  · exact ⟨["a.c"], by decide, .empty, ⟨writable_of_file hget.1, ["."], "a.c", by decide,
      hname.1, by decide, by decide, linkBudget, [], .stay .here, rfl⟩, hget.1⟩
  · exact ⟨["a.cpp"], by decide, .empty, ⟨writable_of_file hget.2, ["."], "a.cpp", by decide,
      hname.2, by decide, by decide, linkBudget, [], .stay .here, rfl⟩, hget.2⟩

/-- Everything is ready for work on either of the two. -/
theorem prepared_twins {item : String} (hitem : item ∈ twinQueue.pending) :
    explainer.Prepared twinKeys item twins where
  source := hasSource_twins hitem
  artifacts := by
    intro question hquestion
    have hparent : ∀ question ∈ Question.standard,
        ["docs", "a" ++ question.suffix] ∉ twinKeys ∧
          (⟨[".", "docs"] ++ ["a" ++ question.suffix]⟩ : Path).parent? =
            some ⟨[".", "docs"]⟩ := by decide
    obtain ⟨hkey, hdir⟩ := hparent question hquestion
    rw [← artifactPath_twins item hitem question hquestion] at hdir
    exact ⟨_, hkey, hasRoom_twins hitem hquestion, _, hdir, hasDirectory_docs⟩

theorem prepared_note : note.Prepared twinKeys twins where
  directory := by
    intro dir hparent
    obtain rfl : Path.empty = dir := Option.some.inj hparent
    exact .inl rfl
  rooms := by
    have hname : Path.IsName "state.json" ∧ Path.IsName "state.json.tmp" :=
      ⟨Path.isName_of_length (by decide), Path.isName_of_length (by decide)⟩
    rw [note_temporary]
    refine ⟨["state.json.tmp"], ["state.json"], by decide, by decide, by decide,
      ⟨writable_of_none (by decide), [], "state.json.tmp", rfl, hname.2, ?_⟩,
      ⟨writable_of_none (by decide), [], "state.json", rfl, hname.1, ?_⟩⟩
    · exact ⟨fault?_temporary, by decide, linkBudget, [], .here, rfl⟩
    · exact ⟨fault?_path, by decide, linkBudget, [], .here, rfl⟩

theorem prepared_album : album.Prepared twinKeys twins where
  directory := by
    intro dir hparent
    obtain rfl : ⟨[".", "docs"]⟩ = dir := Option.some.inj hparent
    exact .inr hasDirectory_docs
  rooms := by
    have htemporary : album.temporary = ⟨[".", "docs"] ++ ["a_overview.json.tmp"]⟩ := by decide
    rw [htemporary]
    have hname : Path.IsName "a_overview.json.tmp" ∧ Path.IsName "a_overview.md" :=
      ⟨Path.isName_of_length (by decide), Path.isName_of_length (by decide)⟩
    exact ⟨_, _, by decide, by decide, by decide,
      hasRoom_docs hname.1 (by decide) (by decide) (by decide),
      hasRoom_docs hname.2 (by decide) (by decide) (by decide)⟩

/-- What the scan of the two leaves. -/
theorem scanned_twins {store : Store} (hstore : store.Prepared twinKeys twins)
    (hfree : twins.get? store.path.key = none) :
    ∃ t, scanning.scan store "now" ⟨["."]⟩ twins = (t, twinQueue) ∧
      Steady twinKeys twins t ∧
      ∃ q, t.read store.path = .ok (Progress.print q).toUTF8 := by
  have hbelow : twins.regularBelow [] = twinKeys := by
    simp +decide [regularBelow, twins, twinKeys, isRegular, namesBelow?, List.mergeSort,
      List.MergeSort.Internal.splitInTwo, keyLe]
  have hreconcile : scanning.reconcile twins (twinKeys.map (Path.descend ⟨["."]⟩))
      .empty = { twinQueue with lastRun := none } := by decide
  have hread : ∀ bytes, twins.read store.path ≠ .ok bytes := by
    intro bytes hread
    obtain ⟨_, hget⟩ := linkFree_twins.of_read hread
    rw [hfree] at hget
    cases hget
  obtain ⟨t, hwrite, hsteady, hkept⟩ := hstore.write (.refl _ _) twinQueue
  refine ⟨t, ?_, hsteady, twinQueue, hkept⟩
  rw [ScanOptions.scan, Store.load_of_read_ne_ok hread, listFiles_of_regularBelow hbelow (by decide),
    hreconcile, Store.save]
  show ((store.write twins twinQueue).1, twinQueue) = (t, twinQueue)
  rw [hwrite]

/-- The run of the queue that the scan leaves. -/
def twinRun (store : Store) : RunSummary × Progress × World :=
  (explainer.scheduler chatty store 10 .zero).run (scanning.scan store "now" ⟨["."]⟩ twins).2
    (.start (scanning.scan store "now" ⟨["."]⟩ twins).1)

/-- The calls of this run. -/
def twinCalls (store : Store) : List (Call World) :=
  (explainer.scheduler chatty store 10 .zero).runCalls
    (scanning.scan store "now" ⟨["."]⟩ twins).2
    (.start (scanning.scan store "now" ⟨["."]⟩ twins).1)

/-- Both are worked on and recorded as completed, and the queue is in its file. -/
theorem twinRun_spec {store : Store} (hstore : store.Prepared twinKeys twins)
    (hfree : twins.get? store.path.key = none) :
    handed (twinCalls store) = ["./a.c", "./a.cpp"] ∧
      (∀ item ∈ twinQueue.pending, item ∈ (twinRun store).2.1.completed) ∧
      ∃ q, (twinRun store).2.2.tree.read store.path = .ok (Progress.print q).toUTF8 := by
  obtain ⟨t, hscan, hsteady, hkept⟩ := scanned_twins hstore hfree
  rw [twinCalls, twinRun, hscan]
  exact run_completes chatty_answering (fun _ => rfl) (by decide) .zero hstore
    (fun item hitem => prepared_twins hitem) hsteady hkept

end Analyzer

end Lesson

end SourceTutor
