import SourceTutor.Proofs.FileTree.Below
import SourceTutor.Proofs.FileTree.Growing
import SourceTutor.Proofs.Lesson.Lasting
import SourceTutor.Proofs.Queue.Refilling

/-!
# Work that survives the queue

What a run has completed can be told from the artifacts alone, and so it survives the loss of the
file in which the queue is kept: a scan finds the artifacts and files the item as completed again
(`Analyzer.completed_survives`). Working on an item lets the tree grow, whatever links there are, and
when the item is completed there is an artifact for every question. Saving the queue lets every file
stay but the temporary one, as long as neither that nor the file of the queue is a link
(`Store.Avoids.isFile`).

The exceptions are real: where an artifact is the temporary file, the save that follows takes it away
(`Analyzer.not_completed_survives`).
-/

set_option autoImplicit false

namespace SourceTutor

open FileTree SourceTutor.Chat

/-! ## Saving -/

namespace Store

variable {s : Store} {p : Path} {t : FileTree}

/-- When a save has made the directory of the queue, the path leads elsewhere than to the temporary
file, and neither this nor the file of the queue is a link. -/
structure Avoids (s : Store) (p : Path) (t : FileTree) : Prop where
  path_not_link : ¬ (s.prepare t).1.LinkAt s.path
  temporary_not_link : ¬ (s.prepare t).1.LinkAt s.temporary
  apart : ∀ key, (s.prepare t).1.FindsAt p key → ¬ (s.prepare t).1.FindsAt s.temporary key

/-- In a tree without links only the names matter. -/
theorem avoids_of_linkFree (ht : t.LinkFree) (h : s.temporary.key ≠ p.key) : s.Avoids p t := by
  have hprepared : (s.prepare t).1.LinkFree := by
    rw [prepare]
    split
    · exact ht
    · rename_i dir hdir
      split
      · exact ht
      · exact (ht.createDirectories hdir).linkFree
  refine ⟨hprepared.not_linkAt _, hprepared.not_linkAt _, fun key hkey htemporary => h ?_⟩
  rw [← hprepared.key_of_findsAt hkey, hprepared.key_of_findsAt htemporary]

theorem grows_prepare (s : Store) (t : FileTree) : Grows t (s.prepare t).1 := by
  rw [prepare]
  split
  · exact .refl t
  · rename_i dir hdir
    split
    · exact .refl t
    · exact grows_createDirectories t hdir

/-- **A save lets the files stay**, also when it fails half-way. -/
theorem Avoids.isFile (h : s.Avoids p t) (hp : t.isFile p = true) (q : Progress) :
    (s.write t q).1.isFile p = true := by
  obtain ⟨hpath, htemporary, hapart⟩ := h
  have hprepared := (s.grows_prepare t).isFile hp
  rw [write]
  rcases hprepare : s.prepare t with ⟨t₁, e | _⟩
  · rwa [hprepare] at hprepared
  rw [hprepare] at hpath htemporary hapart hprepared
  cases hstage : s.stage t₁ q with
  | error e =>
      simp only [hstage]
      exact hprepared
  | ok t₂ =>
      obtain ⟨hgrows, hsame⟩ := grows_of_write hstage
      have hstaged := hgrows.isFile hprepared
      cases hcommit : s.commit t₂ with
      | error e =>
          simp only [hstage, hcommit]
          exact hstaged
      | ok t₃ =>
          simp only [hstage, hcommit]
          exact isFile_of_rename hcommit (read_written hstage)
            (mt hsame.back.linkAt_of_linkAt htemporary) (mt hsame.back.linkAt_of_linkAt hpath)
            hstaged fun key hkey htemporary' =>
              hapart key (hsame.symm.findsAt hkey) (hsame.symm.findsAt htemporary')

end Store

namespace Lesson

variable {t : FileTree} {source : Path}

/-! ## Working on an item -/

theorem grows_makeOutputDir (t : FileTree) (artifact : Path) :
    Grows t (makeOutputDir t artifact).1 := by
  rw [makeOutputDir]
  split
  · exact .refl t
  · rename_i dir hdir
    have hmade := grows_createDirectories t hdir
    split
    · exact .refl t
    · split <;> (rename_i heq; rw [heq] at hmade; exact hmade)

/-- Writing an artifact lets the tree grow, and when it succeeds the artifact is there. -/
theorem grows_writeArtifact (t : FileTree) (source : Path) (outputDir : String)
    {questions : List Question} {index : Nat} {question : Question}
    (hquestion : questions[index]? = some question) (answer : String) :
    Grows t (writeArtifact t source outputDir questions index answer).1 ∧
      ∀ path, (writeArtifact t source outputDir questions index answer).2 = .ok path →
        (writeArtifact t source outputDir questions index answer).1.isFile
          (artifactPath source outputDir question.suffix) = true := by
  have hmade := grows_makeOutputDir t (artifactPath source outputDir question.suffix)
  rw [writeArtifact, hquestion]
  dsimp only
  split
  · rename_i heq
    rw [heq] at hmade
    refine ⟨hmade, fun path hpath => ?_⟩
    cases hpath
  · rename_i t₁ heq
    rw [heq] at hmade
    split
    · rename_i t₂ hwrite
      exact ⟨hmade.trans (grows_of_write hwrite).1, fun _ _ =>
        isFile_iff_read.mpr ⟨_, read_written hwrite⟩⟩
    · refine ⟨hmade, fun path hpath => ?_⟩
      cases hpath

namespace Analyzer

variable {a : Analyzer} {around : Surroundings}

/-- There is an artifact about the source file for each of the questions. -/
def Documented (questions : List Question) (outputDir : String) (source : Path) (t : FileTree) :
    Prop :=
  ∀ question ∈ questions, t.isFile (artifactPath source outputDir question.suffix) = true

theorem Documented.of_grows {questions : List Question} {outputDir : String} {t t' : FileTree}
    (h : Documented questions outputDir source t) (hgrows : Grows t t') :
    Documented questions outputDir source t' :=
  fun question hquestion => hgrows.isFile (h question hquestion)

theorem artifactsExist_of_documented {questions : List Question} {outputDir : String}
    (h : Documented questions outputDir source t) (hne : questions ≠ []) :
    artifactsExist t source outputDir (questions.map Question.suffix) = true := by
  simp only [artifactsExist, Bool.and_eq_true, Bool.not_eq_true', List.isEmpty_eq_false_iff,
    List.all_eq_true, List.mem_map]
  refine ⟨by simpa using hne, ?_⟩
  rintro _ ⟨question, hquestion, rfl⟩
  exact h question hquestion

theorem artifactsExist_eq_false {outputDir suffix : String} {suffixes : List String}
    (hsuffix : suffix ∈ suffixes) (h : t.isFile (artifactPath source outputDir suffix) = false) :
    artifactsExist t source outputDir suffixes = false := by
  rw [artifactsExist, Bool.and_eq_false_iff, List.all_eq_false]
  exact .inr ⟨suffix, hsuffix, by simp [h]⟩

theorem writer_grows {index : Nat} {question : Question}
    (hquestion : a.questions[index]? = some question) (source : Path) (answer : String)
    {w w' : World} {result : Except String Path}
    (h : a.writer source index answer w = (result, w')) :
    Grows w.tree w'.tree ∧ ∀ path, result = .ok path →
      w'.tree.isFile (artifactPath source a.outputDir question.suffix) = true := by
  have hspec := grows_writeArtifact w.tree source a.outputDir hquestion answer
  rw [writer] at h
  generalize writeArtifact w.tree source a.outputDir a.questions index answer = out at h hspec
  obtain ⟨tree, written⟩ := out
  cases written with
  | ok path =>
      cases h
      exact ⟨hspec.1, fun _ _ => hspec.2 path rfl⟩
  | error e =>
      cases h
      refine ⟨hspec.1, fun path hpath => ?_⟩
      cases hpath

/-- **A conversation lets the tree grow**, from any question on, and one that is completed has left
an artifact for each of them. The induction is on the questions left. -/
theorem converseFrom_grows (source : Path) {done questions : List Question}
    (hdone : a.questions = done ++ questions) (turns : List Message) {w w' : World}
    {conclusion : Conclusion}
    (h : converseFrom a.client around.service (a.writer source) a.pacing done.length questions turns
      w = (conclusion, w')) :
    Grows w.tree w'.tree ∧ ∀ artifacts, conclusion = .completed artifacts →
      Documented questions a.outputDir source w'.tree := by
  induction questions generalizing done turns w w' conclusion with
  | nil =>
      rw [converseFrom] at h
      cases h
      refine ⟨.refl _, fun _ _ question hquestion => ?_⟩
      cases hquestion
  | cons question rest ih =>
      have htree := a.client.tree_send around (turns ++ [.user question.prompt]) w
      obtain ⟨⟨ending, w₁⟩, hsend⟩ : ∃ out,
        a.client.send around.service (turns ++ [.user question.prompt]) w = out := ⟨_, rfl⟩
      rw [hsend] at htree
      by_cases hending : ∀ text, ending ≠ .answered text
      · obtain ⟨_, hended, hfailed⟩ := converseFrom_of_unanswered rest hsend hending
        rw [hended] at h
        cases h
        rw [htree]
        exact ⟨.refl _, fun artifacts hcompleted => absurd hcompleted (hfailed artifacts)⟩
      obtain ⟨text, rfl⟩ : ∃ text, ending = .answered text := by simpa using hending
      obtain ⟨⟨result, w₂⟩, hwriter⟩ : ∃ out, a.writer source done.length text w₁ = out := ⟨_, rfl⟩
      have hquestion : a.questions[done.length]? = some question := by simp [hdone]
      obtain ⟨hwritten, hartifact⟩ := writer_grows hquestion source text hwriter
      rw [htree] at hwritten
      cases result with
      | error reason =>
          rw [converseFrom_of_unwritten rest hsend hwriter] at h
          cases h
          refine ⟨hwritten, fun artifacts hcompleted => ?_⟩
          cases hcompleted
      | ok path =>
          obtain ⟨⟨conclusion', w₄⟩, hrest⟩ : ∃ out,
            converseFrom a.client around.service (a.writer source) a.pacing (done.length + 1) rest
              (turns ++ [.user question.prompt] ++ [.assistant text])
              (if rest.isEmpty then w₂ else Lesson.pause around.service a.pacing w₂) = out :=
            ⟨_, rfl⟩
          rw [converseFrom_of_written rest hsend hwriter hrest] at h
          cases h
          have hlength : (done ++ [question]).length = done.length + 1 := by simp
          rw [← hlength] at hrest
          obtain ⟨hlater, hdocumented⟩ := ih (by rw [hdone, List.append_assoc]; rfl) _ hrest
          rw [(pause_spec around a.pacing rest.isEmpty w₂).1] at hlater
          refine ⟨hwritten.trans hlater, fun artifacts hcompleted => ?_⟩
          obtain ⟨artifacts', rfl⟩ := Conclusion.of_after_eq_completed hcompleted
          exact List.forall_mem_cons.mpr
            ⟨hlater.isFile (hartifact path rfl), hdocumented artifacts' rfl⟩

/-- **Working on an item lets the tree grow**, and an item that is completed has all its
artifacts. -/
theorem process_grows (a : Analyzer) (around : Surroundings) (item : String) (w : World) :
    Grows w.tree (a.process around item w).2.tree ∧
      ((a.process around item w).1 = .completed →
        Documented a.questions a.outputDir (.ofString item) (a.process around item w).2.tree) := by
  cases hread : w.tree.read (.ofString item) with
  | error e =>
      rw [process, hread]
      refine ⟨.refl _, fun h => ?_⟩
      cases h
  | ok bytes =>
      generalize hconverse : converse a.client around.service (a.writer (.ofString item)) a.pacing
        a.questions (opening (.ofString item) (Text.decode bytes) a.maxCodeLength) w = out
      obtain ⟨conclusion, w'⟩ := out
      obtain ⟨hgrows, hcompleted⟩ := converseFrom_grows (.ofString item) (List.nil_append _).symm
        (opening (.ofString item) (Text.decode bytes) a.maxCodeLength) hconverse
      obtain ⟨houtcome, -, htree⟩ := process_of_converse hread hconverse
      rw [htree]
      refine ⟨hgrows, fun h => ?_⟩
      obtain ⟨artifacts, rfl⟩ := Conclusion.isCompleted_iff.mp (houtcome.mp h)
      exact hcompleted artifacts rfl

/-! ## A run -/

section

open Scheduler

variable {store : Store} {batchSize : Nat} {throttle : Duration} {q₀ q : Progress} {w₀ w w₁ : World}
  {pace : Pace} {calls before after : List (Call World)} {item : String}

/-- No save among these calls takes an artifact of the item for the temporary file, and none of them
finds a link in place of that or of the file of the queue. -/
def SavesAvoid (a : Analyzer) (store : Store) (item : String) (calls : List (Call World)) : Prop :=
  ∀ q w, .save q w ∈ calls → ∀ question ∈ a.questions,
    store.Avoids (artifactPath (.ofString item) a.outputDir question.suffix) w.tree

/-- In a tree without links no save takes an artifact for the temporary file that has another name. -/
theorem savesAvoid_of_course (hquestions : Question.Apart a.questions)
    (h : Course (a.scheduler around store batchSize throttle) q₀ w₀ pace calls q w)
    (hw₀ : w₀.tree.LinkFree) (hstore : ∀ question ∈ a.questions, store.temporary.key ≠
      (artifactPath (.ofString item) a.outputDir question.suffix).key) :
    a.SavesAvoid store item calls := by
  induction h with
  | start => exact fun _ _ hsave => nomatch hsave
  | @item calls q w other waiting hcourse _ _ ih =>
      intro q' w' hsave
      rw [List.mem_append, List.mem_cons, List.mem_singleton] at hsave
      obtain hsave | hsave | hsave := hsave
      · exact ih q' w' hsave
      · cases hsave
      · cases hsave
        have hworked := process_spec around hquestions other (linkFree_course hquestions hcourse hw₀)
        exact fun question hquestion =>
          Store.avoids_of_linkFree hworked.1.linkFree (hstore question hquestion)
  | pause _ _ _ ih =>
      intro q' w' hsave
      rw [List.mem_append, List.mem_singleton] at hsave
      exact hsave.elim (ih q' w') nofun

/-- Such a save leaves the item its artifacts. -/
theorem Documented.save {around : Surroundings}
    (h : Documented a.questions a.outputDir (.ofString item) w.tree)
    (havoids : a.SavesAvoid store item calls) (hsave : .save q w ∈ calls) :
    Documented a.questions a.outputDir (.ofString item)
      ((a.scheduler around store batchSize throttle).save q w).2.tree := by
  intro question hquestion
  exact (havoids q w hsave question hquestion).isFile (h question hquestion)
    { q with lastRun := some around.now }

/-- **From the work on an item on** it has its artifacts if it is completed. The induction is on the
calls that follow; what the later items write lets the tree grow. -/
theorem documented_of_course
    (h : Course (a.scheduler around store batchSize throttle) q₀ w₀ pace calls q w)
    (hcalls : calls = before ++ .process item w₁ :: after)
    (havoids : a.SavesAvoid store item calls) (hcompleted : item ∈ q.completed) :
    Documented a.questions a.outputDir (.ofString item) w.tree := by
  have hbehind : ∀ call ∈ after, call ∈ calls := fun call hcall => by simp [hcalls, hcall]
  have hlasts : a.SavesAvoid store item after → item ∈ q.completed →
      Documented a.questions a.outputDir (.ofString item) w.tree := by
    refine h.behind
      (P := fun after q w => a.SavesAvoid store item after → item ∈ q.completed →
        Documented a.questions a.outputDir (.ofString item) w.tree)
      (fun _ _ havoids hcompleted => ?_) (fun hlasts _ havoids hcompleted => ?_)
      (fun hlasts havoids hcompleted => ?_) hcalls
    · obtain ⟨_, hdone⟩ | ⟨hne, _⟩ := mem_completed_handle hcompleted
      · rw [handle_world]
        exact ((a.process_grows around item w₁).2 hdone).save havoids (List.mem_singleton_self _)
      · exact absurd rfl hne
    · have hearlier : a.SavesAvoid store item _ := fun q w hsave =>
        havoids q w (List.mem_append_left _ hsave)
      rw [handle_world]
      refine Documented.save ?_ havoids (by simp)
      obtain ⟨rfl, hdone⟩ | ⟨_, hkept⟩ := mem_completed_handle hcompleted
      · exact (a.process_grows around item _).2 hdone
      · exact (hlasts hearlier hkept).of_grows (a.process_grows around _ _).1
    · rw [tree_pause]
      exact hlasts (fun q w hsave => havoids q w (List.mem_append_left _ hsave)) hcompleted
  exact hlasts (fun q w hsave => havoids q w (hbehind _ hsave)) hcompleted

end

/-! ## A scan behind a run -/

/-- The scan that looks for the artifacts of the analyzer. -/
def rescan (a : Analyzer) (rules : EligibilityRules) : ScanOptions where
  rules := rules
  outputDir := a.outputDir
  skipExisting := true
  suffixes := a.questions.map Question.suffix

/-- A scan files an item that has its artifacts as done, whatever the queue it finds. -/
theorem done_scan {t : FileTree} {item : String} (hquestions : a.questions ≠ [])
    (h : Documented a.questions a.outputDir (.ofString item) t) {rules : EligibilityRules}
    {root : Path} (hlisted : .ofString item ∈ t.listFiles root)
    (haccepts : rules.accepts (.ofString item) = true) (store : Store) (now : String) :
    ((a.rescan rules).scan store now root t).2.Done item := by
  have hartifacts : (a.rescan rules).HasArtifacts t (.ofString item) := by
    refine ⟨rfl, by simpa [rescan] using hquestions, fun suffix hsuffix => ?_⟩
    obtain ⟨question, hquestion, rfl⟩ := List.mem_map.mp hsuffix
    exact h question hquestion
  have hdone := ScanOptions.done_reconcile hlisted haccepts hartifacts (store.load t)
  rwa [Path.toString_ofString] at hdone

/-- **Completed work survives the loss of the queue.** Take any run, whatever links there are,
whatever the service replies and whatever the queue it starts from, whose saves take no artifact of
the item for the temporary file and find no link in place of that or of the file of the queue. When
the run has worked on the item and recorded it as completed, all its artifacts are there at the end.
So a scan that looks for them in a tree in which they have been left alone, whatever has become of
the file of the queue, files the item as completed if it still finds and accepts it, and does not
queue it. -/
theorem completed_survives (a : Analyzer) (around : Surroundings) (store : Store) (batchSize : Nat)
    (throttle : Duration) (hquestions : a.questions ≠ []) (q₀ : Progress) (w₀ : World)
    {item : String}
    (havoids : a.SavesAvoid store item
      ((a.scheduler around store batchSize throttle).runCalls q₀ w₀))
    (hhanded : item ∈ handed ((a.scheduler around store batchSize throttle).runCalls q₀ w₀))
    (hcompleted :
      item ∈ ((a.scheduler around store batchSize throttle).run q₀ w₀).2.1.completed) :
    let final := ((a.scheduler around store batchSize throttle).run q₀ w₀).2.2.tree
    artifactsExist final (.ofString item) a.outputDir (a.questions.map Question.suffix) = true ∧
      ∀ (kept : Store) (now : String) (rules : EligibilityRules) (root : Path) (t : FileTree),
        (∀ question ∈ a.questions,
          final.isFile (artifactPath (.ofString item) a.outputDir question.suffix) = true →
            t.isFile (artifactPath (.ofString item) a.outputDir question.suffix) = true) →
        .ofString item ∈ t.listFiles root → rules.accepts (.ofString item) = true →
        item ∈ ((a.rescan rules).scan kept now root t).2.completed ∧
          item ∉ ((a.rescan rules).scan kept now root t).2.pending := by
  intro final
  obtain ⟨done, later, hsplit⟩ := List.append_of_mem hhanded
  obtain ⟨before, w₁, after, hcalls, _⟩ := Scheduler.exists_call_of_handed hsplit
  obtain ⟨pace, hcourse⟩ := (a.scheduler around store batchSize throttle).course_run q₀ w₀
  have hdocumented := documented_of_course hcourse hcalls havoids hcompleted
  refine ⟨artifactsExist_of_documented hdocumented hquestions,
    fun kept now rules root t hleft hlisted haccepts => ?_⟩
  exact done_scan hquestions (fun question hquestion => hleft question hquestion
    (hdocumented question hquestion)) hlisted haccepts kept now

/-- The tree of the two files with the artifacts about them, when the file of the queue is lost. -/
def bereft : FileTree :=
  Question.standard.foldl
    (fun t question => t.insert ["docs", "a" ++ question.suffix] (.file .empty)) twins

theorem sameWays_bereft : SameWays twins bereft := by
  have hinsert : ∀ {t : FileTree} {key : Key}, t.get? key = none →
      SameWays t (t.insert key (.file .empty)) := fun hget =>
    (writable_of_none hget).sameWays_insert (writable_of_none hget).ne_nil _
  exact ((hinsert (by decide)).trans (hinsert (by decide))).trans (hinsert (by decide))

/-- The theorem for the first of two files, and a scan once the file of the queue is lost. -/
theorem completed_survives_twins :
    artifactsExist (twinRun note).2.2.tree (.ofString "./a.c") "docs"
        (Question.standard.map Question.suffix) = true ∧
      "./a.c" ∈ ((explainer.rescan .standard).scan note "now" ⟨["."]⟩ bereft).2.completed ∧
      "./a.c" ∉ ((explainer.rescan .standard).scan note "now" ⟨["."]⟩ bereft).2.pending := by
  obtain ⟨hhanded, hcompleted, _⟩ := twinRun_spec prepared_note (by decide)
  have hstore : ∀ question ∈ explainer.questions, note.temporary.key ≠
      (artifactPath (.ofString "./a.c") "docs" question.suffix).key := by decide
  obtain ⟨pace, hcourse⟩ := (explainer.scheduler chatty note 10 .zero).course_run
    (scanning.scan note "now" ⟨["."]⟩ twins).2 (.start (scanning.scan note "now" ⟨["."]⟩ twins).1)
  have havoids := savesAvoid_of_course Question.apart_standard hcourse
    (note.disturbs_write linkFree_twins _).linkFree hstore
  have hmem : "./a.c" ∈ handed (twinCalls note) := by
    rw [hhanded]
    exact List.mem_cons_self ..
  obtain ⟨hexist, hscan⟩ := completed_survives explainer chatty note 10 .zero (by decide) _ _
    havoids hmem (hcompleted "./a.c" (by decide))
  refine ⟨hexist, hscan note "now" .standard ⟨["."]⟩ bereft (fun question hquestion _ => ?_) ?_
    (by decide)⟩
  · have hget : ∀ question ∈ Question.standard,
        bereft.get? ["docs", "a" ++ question.suffix] = some (.file .empty) := by decide
    have hitem : "./a.c" ∈ twinQueue.pending := by decide
    have hroom := sameWays_bereft.hasRoom (hasRoom_twins hitem hquestion)
    exact isFile_iff_read.mpr ⟨_, hroom.read_eq_ok (hget question hquestion)⟩
  · have hmem : (["a.c"], Node.file .empty) ∈ bereft.nodes := mem_of_lookup (by decide)
    have hplain : ∀ name ∈ ["a.c"], Path.IsPlain name :=
      List.forall_mem_singleton.mpr ⟨Path.isName_of_length (by decide), by decide⟩
    have hpath : Path.ofString "./a.c" = Path.descend ⟨["."]⟩ ["a.c"] := by decide
    have hlisted : ["a.c"] ∈ bereft.regularBelow [] :=
      mem_regularBelow_of_plain (by decide) hplain hmem
    rw [listFiles_top, hpath]
    exact List.mem_map_of_mem (mem_accessible.mpr ⟨hlisted, by decide⟩)

/-! ### Work that does not survive -/

/-- The queue in which one item waits. -/
def single (item : String) : Progress := ⟨[item], [], [], none⟩

/-- The run that works on one item of a tree. -/
def singleRun (a : Analyzer) (store : Store) (t : FileTree) (item : String) :
    RunSummary × Progress × World :=
  (a.scheduler chatty store 10 .zero).run (single item) (.start t)

/-- An item that is completed is worked on, filed, and the queue is saved. -/
theorem run_single {s : Scheduler World} (hb : 0 < s.batchSize)
    (hstop : ∀ w, s.stopRequested w = false) {item : String} {w : World}
    (hdone : (s.process item w).1 = .completed) :
    handed (s.runCalls (single item) w) = [item] ∧
      item ∈ (s.run (single item) w).2.1.completed ∧
      (s.run (single item) w).2.2 = (s.save ⟨[], [item], [], none⟩ (s.process item w).2).2 := by
  have hfiled : ({ single item with pending := [] } : Progress).record item .completed =
      ⟨[], [item], [], none⟩ := by
    simp [single, Progress.record, Progress.drop, Progress.addOnce]
  have hhandle : (s.handle item { single item with pending := [] } w).2 =
      s.saved ⟨[], [item], [], none⟩ (s.process item w).2 := by
    simp only [Scheduler.handle, hdone, hfiled]
  have hend : (s.handle item { single item with pending := [] } w).2.1.pending = [] := by
    rw [hhandle]
    rfl
  refine ⟨?_, ?_⟩
  · rw [s.handed_runCalls hb hstop]
    simp [single, List.eraseDups_cons]
  · rw [s.run_of_pending_singleton hb rfl (hstop w) hend, hhandle]
    exact ⟨List.mem_singleton_self item, rfl⟩

/-- When everything is ready the item is worked on and completed, and then the queue is saved. -/
theorem singleRun_spec {kept : List Key} {t : FileTree} {item : String}
    (h : a.Prepared kept item t) (store : Store) :
    handed ((a.scheduler chatty store 10 .zero).runCalls (single item) (.start t)) = [item] ∧
      item ∈ (singleRun a store t item).2.1.completed ∧
      ∃ t₁ q, Steady kept t t₁ ∧ (singleRun a store t item).2.2.tree = (store.write t₁ q).1 := by
  obtain ⟨hdone, hsteady⟩ := h.process chatty_answering (w := .start t) (.refl kept t)
  obtain ⟨hhanded, hcompleted, hworld⟩ := run_single (s := a.scheduler chatty store 10 .zero)
    (Nat.succ_pos 9) (fun _ => rfl) hdone
  exact ⟨hhanded, hcompleted, _, _, hsteady, congrArg World.tree hworld⟩

/-- When the run is over the item has been worked on and is recorded as completed, but its artifacts
are not all there. -/
def Forgets (a : Analyzer) (store : Store) (t : FileTree) (item : String) : Prop :=
  item ∈ handed ((a.scheduler chatty store 10 .zero).runCalls (single item) (.start t)) ∧
    item ∈ (singleRun a store t item).2.1.completed ∧
    artifactsExist (singleRun a store t item).2.2.tree (.ofString item) a.outputDir
      (a.questions.map Question.suffix) = false

/-- An analyzer with one question, whose artifacts end as temporary files do. -/
def jotter : Analyzer := { explainer with questions := [{ Question.overview with
  suffix := ".json.tmp" }] }

/-- The store whose temporary file is the artifact about the first of the two files. -/
def drawer : Store := ⟨⟨[".", "docs", "a.json"]⟩⟩

theorem hasRoom_drawer : twins.HasRoom drawer.temporary ["docs", "a.json.tmp"] := by
  have htemporary : drawer.temporary = ⟨[".", "docs"] ++ ["a.json.tmp"]⟩ := by decide
  rw [htemporary]
  exact hasRoom_docs (Path.isName_of_length (by decide)) (by decide) (by decide) (by decide)

theorem artifactPath_drawer :
    artifactPath (.ofString "./a.c") "docs" ".json.tmp" = drawer.temporary := by decide

theorem prepared_drawer : drawer.Prepared twinKeys twins where
  directory := by
    intro dir hparent
    obtain rfl : ⟨[".", "docs"]⟩ = dir := Option.some.inj hparent
    exact .inr hasDirectory_docs
  rooms := ⟨_, _, by decide, by decide, by decide, hasRoom_drawer,
    hasRoom_docs (Path.isName_of_length (by decide)) (by decide) (by decide) (by decide)⟩

theorem prepared_jotter : jotter.Prepared twinKeys "./a.c" twins where
  source := hasSource_twins (by decide)
  artifacts := by
    refine List.forall_mem_singleton.mpr ⟨["docs", "a.json.tmp"], by decide, ?_, ⟨[".", "docs"]⟩,
      by decide, hasDirectory_docs⟩
    show twins.HasRoom (artifactPath (.ofString "./a.c") "docs" ".json.tmp") _
    rw [artifactPath_drawer]
    exact hasRoom_drawer

/-- The save behind the item takes its artifact away. -/
theorem forgets_jotter : jotter.Forgets drawer twins "./a.c" := by
  obtain ⟨hhanded, hcompleted, t, q, ht, htree⟩ := singleRun_spec prepared_jotter drawer
  refine ⟨by rw [hhanded]; exact List.mem_singleton_self _, hcompleted, ?_⟩
  obtain ⟨key, key', _, _, hne, hroom, _, hwrite⟩ := prepared_drawer.write_eq ht q
  obtain ⟨t', hwrite', ht', _⟩ := prepared_drawer.write ht q
  have hgone : t'.isFile drawer.temporary = false := by
    refine ((ht.ways.symm.trans ht'.ways).hasRoom hroom).isFile_eq_false ?_
    obtain ⟨rfl, _⟩ := Prod.mk.inj (hwrite.symm.trans hwrite')
    rw [get?_insert_of_ne (Ne.symm hne), get?_erase_self hroom.1.ne_nil]
  rw [← artifactPath_drawer] at hgone
  rw [htree, hwrite']
  exact artifactsExist_eq_false (List.mem_singleton_self ".json.tmp") hgone

/-! ### A link in place of the queue -/

/-- A directory with a file, and a link to the directory. -/
def annex : FileTree :=
  ⟨[(["lib"], .directory), (["lib", "a.c"], .file .empty), (["lib", "docs"], .directory),
    (["src"], .link ⟨["lib"]⟩)]⟩

/-- The store whose file is the link. -/
def gate : Store := ⟨⟨["src"]⟩⟩

/-- The way through the link. -/
theorem leads_src {rest : List String} {links : Nat} {k : Key}
    (h : Leads annex 39 ["lib"] rest links k) : Leads annex linkBudget [] ("src" :: rest) links k := by
  have hget : annex.get? ([] ++ ["src"]) = some (.link ⟨["lib"]⟩) := by decide
  exact .follow (Path.isName_of_length (by decide)) (by decide) hget
    (.down (Path.isName_of_length (by decide)) (by decide) (by decide) h)

theorem hasDirectory_annex : annex.HasDirectory ⟨["src", "docs"]⟩ :=
  ⟨["src"], "docs", ["lib", "docs"], rfl, Path.isName_of_length (by decide),
    ⟨by decide, by decide, 39, ["lib"], leads_src .here, rfl⟩, by decide⟩

theorem artifactPath_annex : ∀ question ∈ Question.standard,
    artifactPath (.ofString "src/a.c") "docs" question.suffix =
      ⟨["src", "docs"] ++ ["a" ++ question.suffix]⟩ := by
  decide

theorem prepared_annex : explainer.Prepared [["lib", "a.c"]] "src/a.c" annex where
  source := by
    have hget : annex.get? ["lib", "a.c"] = some (.file .empty) := by decide
    exact ⟨["lib", "a.c"], List.mem_singleton_self _, .empty, ⟨writable_of_file hget, ["src"],
      "a.c", by decide, Path.isName_of_length (by decide), by decide, by decide, 39, ["lib"],
      leads_src .here, rfl⟩, hget⟩
  artifacts := by
    intro question hquestion
    have hleads : Leads annex linkBudget [] ["src", "docs"] 39 ["lib", "docs"] :=
      leads_src (.down (Path.isName_of_length (by decide)) (by decide) (by decide) .here)
    have hfree : ∀ question ∈ Question.standard,
        annex.get? ["lib", "docs", "a" ++ question.suffix] = none ∧
          ["lib", "docs", "a" ++ question.suffix] ∉ [["lib", "a.c"]] ∧
          2 < ("a" ++ question.suffix).toList.length ∧
          FileName.size ("a" ++ question.suffix) ≤ longestName ∧
          (⟨["src", "docs"] ++ ["a" ++ question.suffix]⟩ : Path).fault? = none ∧
          (⟨["src", "docs"] ++ ["a" ++ question.suffix]⟩ : Path).parent? =
            some ⟨["src", "docs"]⟩ := by decide
    obtain ⟨hget, hkey, hlength, hsize, hfault, hparent⟩ := hfree question hquestion
    rw [show explainer.outputDir = "docs" from rfl, artifactPath_annex question hquestion]
    exact ⟨_, hkey, ⟨writable_of_none hget, ["src", "docs"], _, rfl,
      Path.isName_of_length hlength, hfault, hsize, 39, ["lib", "docs"], hleads, rfl⟩, _, hparent,
      hasDirectory_annex⟩

/-- A save puts the file of the queue in place of the link. -/
theorem get?_gate {t : FileTree} (ht : Steady [["lib", "a.c"]] annex t) (q : Progress) :
    (gate.write t q).1.get? ["src"] = some (.file q.print.toUTF8) := by
  have hprepare : gate.prepare t = (t, .ok ()) := by
    have hparent : gate.path.parent? = some .empty := by decide
    rw [Store.prepare, hparent]
    rfl
  have hroom : annex.HasRoom gate.temporary ["src.json.tmp"] := by
    have htemporary : gate.temporary = ⟨["src.json.tmp"]⟩ := by decide
    rw [htemporary]
    exact ⟨writable_of_none (by decide), [], _, rfl, Path.isName_of_length (by decide), by decide,
      by decide, linkBudget, [], .here, rfl⟩
  obtain ⟨hstage, hstaged⟩ := ht.write hroom (by decide) q.print.toUTF8
  have hget : (t.insert ["src.json.tmp"] (.file q.print.toUTF8)).get? ["src.json.tmp"] =
      some (.file q.print.toUTF8) := get?_insert_self (by decide)
  have hlink : (t.insert ["src.json.tmp"] (.file q.print.toUTF8)).get? ["src"] =
      some (.link ⟨["lib"]⟩) := hstaged.ways.keepsWays.link _ _ (by decide)
  have hcommit : (t.insert ["src.json.tmp"] (.file q.print.toUTF8)).rename gate.temporary
      gate.path = .ok (((t.insert ["src.json.tmp"] (.file q.print.toUTF8)).erase
        ["src.json.tmp"]).insert ["src"] (.file q.print.toUTF8)) := by
    have hentry : (t.insert ["src.json.tmp"] (.file q.print.toUTF8)).resolve .entry gate.path =
        .ok (.taken ["src"] (.link ⟨["lib"]⟩)) := by
      rw [resolve_of_no_fault (by decide)]
      show walkFrom _ .entry linkBudget [] ["src"] = _
      rw [walkFrom_name (Path.isName_of_length (by decide)), if_neg (by decide), List.nil_append,
        hlink]
      rfl
    rw [FileTree.rename, (hstaged.ways.hasRoom hroom).resolve_eq, hget, hentry]
    rfl
  rw [Store.write_eq_of_steps hprepare hstage hcommit]
  exact get?_insert_self (by decide)

/-- Nothing lies behind that file. -/
theorem isFile_behind_gate {t : FileTree} {bytes : ByteArray}
    (hget : t.get? ["src"] = some (.file bytes)) :
    t.isFile ⟨["src", "docs"] ++ ["a" ++ Question.overview.suffix]⟩ = false := by
  rw [Bool.eq_false_iff, Ne, isFile_iff_finds]
  rintro ⟨key, _, ⟨_, hfinds⟩, _⟩
  have hname : Path.IsName "src" := Path.isName_of_length (by decide)
  rcases Finds.of_name hname hfinds with ⟨hnil, _⟩ | ⟨hdir, _⟩ | ⟨_, _, hlink, _⟩
  · cases hnil
  · exact absurd (hget.symm.trans hdir) nofun
  · exact absurd (hget.symm.trans hlink) nofun

theorem forgets_gate : explainer.Forgets gate annex "src/a.c" := by
  obtain ⟨hhanded, hcompleted, t, q, ht, htree⟩ := singleRun_spec prepared_annex gate
  refine ⟨by rw [hhanded]; exact List.mem_singleton_self _, hcompleted, ?_⟩
  have hget := get?_gate ht q
  rw [← htree] at hget
  have hmem : Question.overview.suffix ∈ explainer.questions.map Question.suffix :=
    List.mem_cons_self ..
  have hpath := artifactPath_annex .overview (List.mem_cons_self ..)
  exact artifactsExist_eq_false hmem (hpath ▸ isFile_behind_gate hget)

/-- **Work may be lost.** An artifact that is the temporary file is taken away by the save behind the
work, and a link in place of the file of the queue is replaced by the file, so that nothing is found
through it any more. -/
theorem not_completed_survives :
    twins.LinkFree ∧ jotter.Forgets drawer twins "./a.c" ∧
      explainer.Forgets gate annex "src/a.c" :=
  ⟨linkFree_twins, forgets_jotter, forgets_gate⟩

end Analyzer

end Lesson

end SourceTutor
