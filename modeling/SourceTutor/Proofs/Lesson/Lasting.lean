import SourceTutor.Proofs.Lesson.Completing

/-!
# Artifacts that last

An item that a run completes stays explained to the end of the run, unless a later item of the run
shares its artifacts or the queue is kept in one of them (`Analyzer.run_keeps_explained`). Nothing
else that a run does touches the artifacts: the later items have theirs elsewhere, the queue and its
temporary file are other files, and where a directory is made there is nothing.

The exceptions are real. Of `a.c` and `a.cpp` in one directory the one that is worked on last has
the artifacts, and a queue that is kept in an artifact takes its place
(`Analyzer.not_run_keeps_explained`).
-/

set_option autoImplicit false

namespace SourceTutor

open FileTree

namespace Scheduler

variable {σ : Type} {s : Scheduler σ} {q₀ q : Progress} {w₀ w w₁ : σ} {pace : Pace}
  {calls before after : List (Call σ)} {item : String}

/-- Where an item is worked on. -/
theorem exists_call_of_handed {done later : List String}
    (h : handed calls = done ++ item :: later) :
    ∃ before w₁ after, calls = before ++ .process item w₁ :: after ∧ handed after = later := by
  obtain ⟨before, rest, rfl, _, hrest⟩ := List.filterMap_eq_append_iff.mp h
  obtain ⟨silent, call, after, rfl, _, hcall, hafter⟩ := List.filterMap_eq_cons_iff.mp hrest
  cases call with
  | process item' w₁ =>
      cases hcall
      exact ⟨before ++ silent, w₁, after, (List.append_assoc ..).symm, hafter⟩
  | save q w => cases hcall
  | pause w => cases hcall

end Scheduler

namespace Lesson.Analyzer

open Scheduler

/-! ## A run -/

section

variable {a : Analyzer} {around : Surroundings} {store : Store} {batchSize : Nat}
  {throttle : Duration} {q₀ q : Progress} {w₀ w w₁ : World} {pace : Pace}
  {calls before after : List (Call World)} {item : String}

theorem disturbs_save (a : Analyzer) (around : Surroundings) (store : Store) (batchSize : Nat)
    (throttle : Duration) (q : Progress) {w : World} (hw : w.tree.LinkFree) :
    DisturbsOnly (fun key => key = store.temporary.key ∨ key = store.path.key) w.tree
      ((a.scheduler around store batchSize throttle).save q w).2.tree :=
  store.disturbs_write hw { q with lastRun := some around.now }

/-- A step of a run: an item is worked on and the queue is saved. -/
theorem disturbs_handle (around : Surroundings) (store : Store) (batchSize : Nat)
    (throttle : Duration) (hquestions : Question.Apart a.questions) (item : String) (q : Progress)
    {w : World} (hw : w.tree.LinkFree) :
    DisturbsOnly (fun key => ArtifactKey a.questions a.outputDir (.ofString item) key ∨
        key = store.temporary.key ∨ key = store.path.key) w.tree
      ((a.scheduler around store batchSize throttle).handle item q w).2.2.tree := by
  have hworked := (process_spec around hquestions item hw).1
  rw [handle_world]
  exact (hworked.mono fun _ => Or.inl).trans
    ((a.disturbs_save around store batchSize throttle _ hworked.linkFree).mono fun _ => Or.inr)

/-- There is no link at any time. -/
theorem linkFree_course (hquestions : Question.Apart a.questions)
    (h : Course (a.scheduler around store batchSize throttle) q₀ w₀ pace calls q w)
    (hw₀ : w₀.tree.LinkFree) : w.tree.LinkFree := by
  induction h with
  | start => exact hw₀
  | item _ _ _ ih => exact (disturbs_handle _ _ _ _ hquestions _ _ ih).linkFree
  | pause _ _ _ ih =>
      rw [tree_pause]
      exact ih

/-- What is recorded of an item and of the others. -/
theorem mem_completed_handle {s : Scheduler World} {other : String}
    (h : item ∈ (s.handle other q w).2.1.completed) :
    (item = other ∧ (s.process other w).1 = .completed) ∨ item ≠ other ∧ item ∈ q.completed := by
  have hfiled : item ∈ (q.record other (s.process other w).1).completed := h
  by_cases heq : item = other
  · refine .inl ⟨heq, ?_⟩
    cases ho : (s.process other w).1 with
    | completed => rfl
    | failed => simp [ho, Progress.record, heq] at hfiled
  · refine .inr ⟨heq, ?_⟩
    cases ho : (s.process other w).1 <;> simpa [ho, Progress.record, heq] using hfiled

/-- What holds behind the work on an item, when these calls have followed: unless one of them has
been about an item that shares its artifacts, the item is explained if it is completed. -/
def Lasts (a : Analyzer) (around : Surroundings) (item : String) (w₁ : World)
    (after : List (Call World)) (q : Progress) (w : World) : Prop :=
  (∀ other ∈ handed after, ¬ SharesArtifacts a.outputDir (.ofString item) (.ofString other)) →
    w.tree.LinkFree ∧ (item ∈ q.completed → a.Explained around item w₁ w.tree)

section

variable (hquestions : Question.Apart a.questions)
  (hstore : ∀ question ∈ a.questions,
    store.path.key ≠ (artifactPath (.ofString item) a.outputDir question.suffix).key)

include hquestions hstore

/-- Neither the queue nor its temporary file is an artifact of the item. -/
theorem not_artifactKey_of_store {key : Key}
    (hkey : ArtifactKey a.questions a.outputDir (.ofString item) key) :
    ¬ (key = store.temporary.key ∨ key = store.path.key) := by
  obtain ⟨question, hquestion, heq⟩ := hkey
  rw [heq]
  rintro (htemporary | hpath)
  · exact key_temporary_ne hquestions hquestion (hstore question hquestion) htemporary.symm
  · exact hstore question hquestion hpath.symm

/-- It holds when the item has been worked on. -/
theorem lasts_item {waiting : List String} (hw₁ : w₁.tree.LinkFree) :
    a.Lasts around item w₁
      [.save ({ q with pending := waiting }.record item (a.process around item w₁).1)
        (a.process around item w₁).2]
      ((a.scheduler around store batchSize throttle).handle item
        { q with pending := waiting } w₁).2.1
      ((a.scheduler around store batchSize throttle).handle item
        { q with pending := waiting } w₁).2.2 := by
  intro _
  obtain ⟨hworked, hexplained⟩ := process_spec around hquestions item hw₁
  have hsaved := a.disturbs_save around store batchSize throttle
    ({ q with pending := waiting }.record item (a.process around item w₁).1) hworked.linkFree
  rw [handle_world]
  refine ⟨hsaved.linkFree, fun hrecorded => ?_⟩
  obtain ⟨_, hdone⟩ | ⟨hne, _⟩ := mem_completed_handle hrecorded
  · exact (hexplained hdone).of_disturbsOnly hworked.linkFree hsaved
      fun _ => not_artifactKey_of_store hquestions hstore
  · exact absurd rfl hne

/-- It still holds when another item has been worked on. -/
theorem Lasts.next (h : a.Lasts around item w₁ after q w) {other : String}
    {waiting : List String} :
    a.Lasts around item w₁
      (after ++ [.process other w,
        .save ({ q with pending := waiting }.record other (a.process around other w).1)
          (a.process around other w).2])
      ((a.scheduler around store batchSize throttle).handle other
        { q with pending := waiting } w).2.1
      ((a.scheduler around store batchSize throttle).handle other
        { q with pending := waiting } w).2.2 := by
  intro hothers
  rw [handed_append, handed_process, handed_save, handed_nil] at hothers
  obtain ⟨hw, hexplained⟩ := h fun x hx => hothers x (List.mem_append_left _ hx)
  have hother := hothers other (by simp)
  have hdisturbs := disturbs_handle around store batchSize throttle hquestions other
    { q with pending := waiting } hw
  refine ⟨hdisturbs.linkFree, fun hrecorded => ?_⟩
  obtain ⟨rfl, _⟩ | ⟨_, hbefore⟩ := mem_completed_handle hrecorded
  · exact absurd ⟨rfl, rfl⟩ hother
  refine (hexplained hbefore).of_disturbsOnly hw hdisturbs fun key hkey htouched => ?_
  rcases htouched with ⟨asked, hasked, htheirs⟩ | hstored
  · obtain ⟨question, hquestion, heq⟩ := hkey
    exact hother (sharesArtifacts_of_key hquestions hquestion hasked (heq.symm.trans htheirs))
  · exact not_artifactKey_of_store hquestions hstore hkey hstored

/-- **An item that is completed stays explained**, unless a later item of the course shares its
artifacts or the queue is kept in one of them. -/
theorem explained_of_course
    (h : Course (a.scheduler around store batchSize throttle) q₀ w₀ pace calls q w)
    (hw₀ : w₀.tree.LinkFree) (hcalls : calls = before ++ .process item w₁ :: after)
    (hcompleted : item ∈ q.completed)
    (halone : ∀ other ∈ handed after,
      ¬ SharesArtifacts a.outputDir (.ofString item) (.ofString other)) :
    a.Explained around item w₁ w.tree := by
  have hlasts : a.Lasts around item w₁ after q w := by
    refine h.behind (fun hcourse _ => ?_) (fun hlasts _ => ?_) (fun hlasts => ?_) hcalls
    · exact lasts_item hquestions hstore (linkFree_course hquestions hcourse hw₀)
    · exact hlasts.next hquestions hstore
    · intro hothers
      rw [handed_append, handed_pause, handed_nil, List.append_nil] at hothers
      rw [tree_pause]
      exact hlasts hothers
  exact (hlasts halone).2 hcompleted

/-- The same of a run. -/
theorem explained_of_run (hw₀ : w₀.tree.LinkFree) {done later : List String}
    (hhanded : handed ((a.scheduler around store batchSize throttle).runCalls q₀ w₀) =
      done ++ item :: later)
    (hcompleted : item ∈ ((a.scheduler around store batchSize throttle).run q₀ w₀).2.1.completed)
    (halone : ∀ other ∈ later, ¬ SharesArtifacts a.outputDir (.ofString item) (.ofString other)) :
    ∃ w₁, .process item w₁ ∈ (a.scheduler around store batchSize throttle).runCalls q₀ w₀ ∧
      a.Explained around item w₁
        ((a.scheduler around store batchSize throttle).run q₀ w₀).2.2.tree := by
  obtain ⟨before, w₁, after, hcalls, rfl⟩ := exists_call_of_handed hhanded
  obtain ⟨pace, hcourse⟩ := course_run (a.scheduler around store batchSize throttle) q₀ w₀
  refine ⟨w₁, by rw [hcalls]; simp, ?_⟩
  exact explained_of_course hquestions hstore hcourse hw₀ hcalls hcompleted halone

end

end

/-- **No completed analysis is lost during a run**, unless a later item of the run shares its
artifacts or the queue is kept in one of them. Take a tree without links, a scan of it, whatever
the rules, and a run of the queue it leaves, whatever the service replies. When an item that the run
has worked on is recorded as completed at the end, every question about it has been answered once,
in order and after the text of the file, and each artifact holds the title and the answer. -/
theorem run_keeps_explained (a : Analyzer) (around : Surroundings) (store : Store)
    (batchSize : Nat) (throttle : Duration) (hquestions : a.questions = Question.standard)
    (options : ScanOptions) (now : String) (root : Path) {t : FileTree} (ht : t.LinkFree)
    {w : World} (hw : w.tree = (options.scan store now root t).1) {done later : List String}
    {item : String}
    (hhanded : handed ((a.scheduler around store batchSize throttle).runCalls
      (options.scan store now root t).2 w) = done ++ item :: later)
    (hcompleted : item ∈ ((a.scheduler around store batchSize throttle).run
      (options.scan store now root t).2 w).2.1.completed)
    (halone : ∀ other ∈ later, ¬ SharesArtifacts a.outputDir (.ofString item) (.ofString other))
    (hstore : ∀ question ∈ Question.standard,
      store.path.key ≠ (artifactPath (.ofString item) a.outputDir question.suffix).key) :
    ∃ w₁, .process item w₁ ∈ (a.scheduler around store batchSize throttle).runCalls
        (options.scan store now root t).2 w ∧
      a.Explained around item w₁ ((a.scheduler around store batchSize throttle).run
        (options.scan store now root t).2 w).2.2.tree := by
  have hapart : Question.Apart a.questions := by
    rw [hquestions]
    exact Question.apart_standard
  have hscanned : w.tree.LinkFree := by
    rw [hw]
    exact (store.disturbs_write ht _).linkFree
  refine explained_of_run hapart ?_ hscanned hhanded hcompleted halone
  rw [hquestions]
  exact hstore

/-! ### Two files that share their artifacts -/

/-- The theorem for the file that is worked on last. -/
theorem run_keeps_explained_twins :
    ∃ w₁, .process "./a.cpp" w₁ ∈ twinCalls note ∧
      explainer.Explained chatty "./a.cpp" w₁ (twinRun note).2.2.tree := by
  obtain ⟨hhanded, hcompleted, _⟩ := twinRun_spec prepared_note (by decide)
  have hlast : handed (twinCalls note) = ["./a.c"] ++ "./a.cpp" :: [] := hhanded
  have hstore : ∀ question ∈ Question.standard, note.path.key ≠
      (artifactPath (.ofString "./a.cpp") "docs" question.suffix).key := by decide
  exact run_keeps_explained explainer chatty note 10 .zero rfl scanning "now" ⟨["."]⟩
    linkFree_twins rfl hlast (hcompleted _ (by decide)) nofun hstore

/-- When the run is over the item is recorded as completed, but its overview is not there, whatever
the answer was. -/
def Loses (store : Store) (item : String) : Prop :=
  item ∈ (twinRun store).2.1.completed ∧
    ∀ answer, ¬ Holds (twinRun store).2.2.tree "docs" (.ofString item) .overview answer

/-- An artifact about the one file is none about the other. -/
theorem not_holds_twins {t : FileTree} {answer answer' : String}
    (h : Holds t "docs" (.ofString "./a.cpp") .overview answer) :
    ¬ Holds t "docs" (.ofString "./a.c") .overview answer' := by
  intro h'
  have hpath : artifactPath (.ofString "./a.c") "docs" Question.overview.suffix =
      artifactPath (.ofString "./a.cpp") "docs" Question.overview.suffix := by decide
  rw [Holds, hpath, h] at h'
  have htext := String.toByteArray_inj.mp (Except.ok.inj h')
  have htitle : ∀ source answer, artifactText source .overview answer =
      artifactText source .overview "" ++ answer := by simp [artifactText]
  have hstarts := congrArg (fun s : String => s.toList.take 21) htext
  rw [htitle, htitle _ answer'] at hstarts
  simp only [String.toList_append] at hstarts
  rw [List.take_append_of_le_length (by decide), List.take_append_of_le_length (by decide)]
    at hstarts
  exact absurd hstarts (by decide)

/-- A queue is no artifact. -/
theorem not_holds_album {t : FileTree} {q : Progress} {answer : String}
    (h : t.read album.path = .ok (Progress.print q).toUTF8) :
    ¬ Holds t "docs" (.ofString "./a.cpp") .overview answer := by
  intro h'
  have hpath : artifactPath (.ofString "./a.cpp") "docs" Question.overview.suffix =
      album.path := by decide
  rw [Holds, hpath, h] at h'
  have htext := String.toByteArray_inj.mp (Except.ok.inj h')
  have hstarts := congrArg (fun s : String => s.toList.head?) htext
  simp [artifactText, Progress.print, Json.print, Progress.toJson, Json.record,
    Json.render] at hstarts

/-- **An analysis may be lost during a run.** The scan finds `a.c` and `a.cpp` in one directory, the
run works on both and records both as completed. The artifacts about `a.c` are gone, since those
about `a.cpp` have taken their place; and where the queue is kept in one of these, it has taken the
place of that one. -/
theorem not_run_keeps_explained :
    twins.LinkFree ∧ Loses note "./a.c" ∧ Loses album "./a.cpp" := by
  refine ⟨linkFree_twins, ?_, ?_⟩
  · obtain ⟨hhanded, hcompleted, _⟩ := twinRun_spec prepared_note (by decide)
    have hlast : handed (twinCalls note) = ["./a.c"] ++ "./a.cpp" :: [] := hhanded
    have hstore : ∀ question ∈ explainer.questions, note.path.key ≠
        (artifactPath (.ofString "./a.cpp") "docs" question.suffix).key := by decide
    obtain ⟨w₁, _, _, answers, _, _, hholds⟩ := explained_of_run Question.apart_standard hstore
      (note.disturbs_write linkFree_twins _).linkFree hlast (hcompleted "./a.cpp" (by decide))
      nofun
    refine ⟨hcompleted _ (by decide), fun answer => ?_⟩
    cases hholds with
    | cons hholds _ => exact not_holds_twins hholds
  · obtain ⟨_, hcompleted, q, hread⟩ := twinRun_spec prepared_album (by decide)
    exact ⟨hcompleted _ (by decide), fun answer => not_holds_album hread⟩

end Lesson.Analyzer

end SourceTutor
