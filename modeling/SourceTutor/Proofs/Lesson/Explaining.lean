import Mathlib.Data.List.Forall2
import SourceTutor.Proofs.Lesson.Answers
import SourceTutor.Proofs.Lesson.ArtifactKeys

/-!
# What explaining a file leaves

Working on an item changes no file but its artifacts, and when the item is completed every question
has been answered once, in order, and each artifact holds the answer to its question
(`Analyzer.process_spec`). Both come from one induction over the questions, along which an artifact
that is written stays as it is, since the later ones are other files. Saving the queue changes the
file of the queue and the temporary file only.
-/

set_option autoImplicit false

namespace SourceTutor

open FileTree SourceTutor.Chat

/-! ## Saving -/

/-- A save disturbs the file of the queue and the temporary file, also when it fails half-way. -/
theorem Store.disturbs_write {t : FileTree} (ht : t.LinkFree) (store : Store) (q : Progress) :
    DisturbsOnly (fun key => key = store.temporary.key ∨ key = store.path.key) t
      (store.write t q).1 := by
  have hprepare : DisturbsOnly (fun _ => False) t (store.prepare t).1 := by
    rw [Store.prepare]
    split
    · exact .refl ht
    · rename_i dir hdir
      split
      · exact .refl ht
      · exact ht.createDirectories hdir
  have hprepared : DisturbsOnly (fun key => key = store.temporary.key ∨ key = store.path.key) t
      (store.prepare t).1 := hprepare.mono fun _ => False.elim
  rw [Store.write]
  split
  · rename_i hfailed
    rw [hfailed] at hprepared
    exact hprepared
  · rename_i t₁ hdone
    rw [hdone] at hprepared
    split
    · exact hprepared
    · rename_i t₂ hstage
      have hstaged := hprepared.trans
        ((hprepared.linkFree.write hstage).mono fun _ => Or.inl)
      split
      · exact hstaged
      · rename_i t₃ hcommit
        exact hstaged.trans (hstaged.linkFree.rename (read_written hstage) hcommit)

namespace Lesson

/-! ## Writing an artifact -/

/-- The key belongs to an artifact about the source file. -/
def ArtifactKey (questions : List Question) (outputDir : String) (source : Path) (key : Key) :
    Prop :=
  ∃ question ∈ questions, key = (artifactPath source outputDir question.suffix).key

/-- The artifact of a question is none of those of the questions behind it. -/
theorem not_artifactKey_behind {questions done rest : List Question} {question : Question}
    (hquestions : Question.Apart questions) (hdone : questions = done ++ question :: rest)
    (item outputDir : String) :
    ¬ ArtifactKey rest outputDir (.ofString item)
      (artifactPath (.ofString item) outputDir question.suffix).key := by
  rintro ⟨asked, hasked, hkey⟩
  have hmem : question ∈ questions := by simp [hdone]
  have hmem' : asked ∈ questions := by simp [hdone, hasked]
  have hsame := eq_of_key_artifactPath hquestions hmem hmem' hkey
  have hnodup := hquestions.nodup
  rw [hdone] at hnodup
  have hfresh := (List.nodup_cons.mp (List.nodup_append.mp hnodup).2.1).1
  exact hfresh (hsame ▸ hasked)

/-- Making the directory of an artifact makes directories above it, also when it fails half-way. -/
theorem makeOutputDir_madeAbove (t : FileTree) (artifact : Path) :
    MadeAbove artifact t (makeOutputDir t artifact).1 := by
  rw [makeOutputDir]
  split
  · exact .refl
  · rename_i dir hdir
    have hmade : MadeAbove artifact t (t.createDirectories dir).1 :=
      createUpward_madeAbove _ t dir (Path.above_of_parent? hdir)
    split
    · exact .refl
    · split
      · rename_i heq
        rw [heq] at hmade
        exact hmade
      · rename_i heq
        rw [heq] at hmade
        exact hmade

/-- Writing an artifact disturbs no other file, and when it succeeds the artifact is there. -/
theorem writeArtifact_spec {t : FileTree} (ht : t.LinkFree) {questions : List Question}
    {index : Nat} {question : Question} (hquestion : questions[index]? = some question)
    (source : Path) (outputDir answer : String) :
    DisturbsOnly (· = (artifactPath source outputDir question.suffix).key) t
        (writeArtifact t source outputDir questions index answer).1 ∧
      ∀ path, (writeArtifact t source outputDir questions index answer).2 = .ok path →
        (writeArtifact t source outputDir questions index answer).1.read
            (artifactPath source outputDir question.suffix) =
          .ok (artifactText source question answer).toUTF8 := by
  have hdir : DisturbsOnly (· = (artifactPath source outputDir question.suffix).key) t
      (makeOutputDir t (artifactPath source outputDir question.suffix)).1 :=
    (ht.madeAbove (makeOutputDir_madeAbove t _)).mono fun _ => False.elim
  rw [writeArtifact, hquestion]
  dsimp only
  split
  · rename_i heq
    rw [heq] at hdir
    exact ⟨hdir, nofun⟩
  · rename_i t₁ heq
    rw [heq] at hdir
    split
    · rename_i t₂ hwrite
      exact ⟨hdir.trans (hdir.linkFree.write hwrite), fun _ _ => read_written hwrite⟩
    · exact ⟨hdir, nofun⟩

/-! ## A conversation -/

/-- The conversation after the given turns, up to each of the questions, and the answers. -/
def dialogue : List Message → List Question → List String → List (List Message × String)
  | turns, question :: questions, answer :: answers =>
    (turns ++ [.user question.prompt], answer) ::
      dialogue (turns ++ [.user question.prompt] ++ [.assistant answer]) questions answers
  | _, _, _ => []

/-- The artifact about the source file holds the answer to the question. -/
def Holds (t : FileTree) (outputDir : String) (source : Path) (question : Question)
    (answer : String) : Prop :=
  t.read (artifactPath source outputDir question.suffix) =
    .ok (artifactText source question answer).toUTF8

theorem Conclusion.of_after_eq_completed {path : Path} {conclusion : Conclusion}
    {artifacts : List Path} (h : conclusion.after path = .completed artifacts) :
    ∃ rest, conclusion = .completed rest := by
  cases conclusion with
  | completed rest => exact ⟨rest, rfl⟩
  | failed question reason rest => cases h
  | impossibleWait => cases h

theorem Conclusion.isCompleted_iff {conclusion : Conclusion} :
    conclusion.isCompleted = true ↔ ∃ artifacts, conclusion = .completed artifacts := by
  cases conclusion with
  | completed artifacts => exact ⟨fun _ => ⟨artifacts, rfl⟩, fun _ => rfl⟩
  | failed question reason artifacts => exact ⟨nofun, nofun⟩
  | impossibleWait => exact ⟨nofun, nofun⟩

/-! ### The equations of a conversation -/

section

variable {σ : Type} {client : Client} {service : Service σ} {writer : Writer σ} {pacing : Duration}
  {index : Nat} {question : Question} {turns : List Message} {w w₁ w₂ : σ}

/-- A question without an answer ends the conversation. -/
theorem converseFrom_of_unanswered (rest : List Question) {ending : Ending}
    (hsend : client.send service (turns ++ [.user question.prompt]) w = (ending, w₁))
    (hending : ∀ text, ending ≠ .answered text) :
    ∃ conclusion, converseFrom client service writer pacing index (question :: rest) turns w =
        (conclusion, w₁) ∧ ∀ artifacts, conclusion ≠ .completed artifacts := by
  rw [converseFrom, hsend]
  cases ending with
  | answered text => exact absurd rfl (hending text)
  | failed failure => exact ⟨_, rfl, nofun⟩
  | impossibleWait => exact ⟨_, rfl, nofun⟩

/-- So it does when the request fails, and the failure is the reason. -/
theorem converseFrom_of_failed (rest : List Question) {failure : Failure}
    (hsend : client.send service (turns ++ [.user question.prompt]) w = (.failed failure, w₁)) :
    converseFrom client service writer pacing index (question :: rest) turns w =
      (.failed index failure.message [], w₁) := by
  rw [converseFrom, hsend]

variable {text : String}

/-- An answer that cannot be written ends the conversation. -/
theorem converseFrom_of_unwritten (rest : List Question) {reason : String}
    (hsend : client.send service (turns ++ [.user question.prompt]) w = (.answered text, w₁))
    (hwriter : writer index text w₁ = (.error reason, w₂)) :
    converseFrom client service writer pacing index (question :: rest) turns w =
      (.failed index reason [], w₂) := by
  rw [converseFrom, hsend]
  dsimp only
  rw [hwriter]

/-- When the answer is written the conversation goes on, behind a pause if a question is left. -/
theorem converseFrom_of_written (rest : List Question) {path : Path}
    (hsend : client.send service (turns ++ [.user question.prompt]) w = (.answered text, w₁))
    (hwriter : writer index text w₁ = (.ok path, w₂)) {conclusion : Conclusion} {w' : σ}
    (hrest : converseFrom client service writer pacing (index + 1) rest
      (turns ++ [.user question.prompt] ++ [.assistant text])
      (if rest.isEmpty then w₂ else pause service pacing w₂) = (conclusion, w')) :
    converseFrom client service writer pacing index (question :: rest) turns w =
      (conclusion.after path, w') := by
  rw [converseFrom, hsend]
  dsimp only
  rw [hwriter]
  dsimp only
  rw [hrest]

end

namespace Analyzer

variable {a : Analyzer} {around : Surroundings}

/-- Writing the answer to a question down. -/
theorem writer_spec {index : Nat} {question : Question}
    (hquestion : a.questions[index]? = some question) (source : Path) (answer : String)
    {w w' : World} (hw : w.tree.LinkFree) {result : Except String Path}
    (h : a.writer source index answer w = (result, w')) :
    DisturbsOnly (· = (artifactPath source a.outputDir question.suffix).key) w.tree w'.tree ∧
      w'.sent = w.sent ∧
      ∀ path, result = .ok path → Holds w'.tree a.outputDir source question answer := by
  have hspec := writeArtifact_spec hw hquestion source a.outputDir answer
  rw [writer] at h
  generalize writeArtifact w.tree source a.outputDir a.questions index answer = out at h hspec
  obtain ⟨tree, written⟩ := out
  cases written with
  | ok path =>
      cases h
      exact ⟨hspec.1, rfl, fun _ _ => hspec.2 path rfl⟩
  | error e =>
      cases h
      exact ⟨hspec.1, rfl, nofun⟩

/-- A pause, if there is one, leaves the files and the requests alone. -/
theorem pause_spec (around : Surroundings) (pacing : Duration) (last : Bool) (w : World) :
    (if last then w else Lesson.pause around.service pacing w).tree = w.tree ∧
      (if last then w else Lesson.pause around.service pacing w).sent = w.sent := by
  rw [Lesson.pause]
  split
  · exact ⟨rfl, rfl⟩
  · split
    · exact ⟨rfl, rfl⟩
    · exact around.sleep_spec pacing w

/-- The pause between two items leaves the files alone. -/
theorem tree_pause (a : Analyzer) (around : Surroundings) (store : Store) (batchSize : Nat)
    (throttle : Duration) (w : World) :
    ((a.scheduler around store batchSize throttle).pause w).tree = w.tree := by
  show (if throttle.isZero then w else around.service.sleep throttle w).tree = w.tree
  split
  · rfl
  · exact (around.sleep_spec throttle w).1

/-- The files after a conversation, from any question on. The induction is on the questions left; an
artifact that is written outlasts the rest, whose artifacts are other files. -/
theorem converseFrom_spec (hquestions : Question.Apart a.questions) (item : String)
    {done questions : List Question} (hdone : a.questions = done ++ questions)
    (turns : List Message) {w : World} (hw : w.tree.LinkFree) {conclusion : Conclusion} {w' : World}
    (h : converseFrom a.client around.service (a.writer (.ofString item)) a.pacing done.length
      questions turns w = (conclusion, w')) :
    DisturbsOnly (ArtifactKey questions a.outputDir (.ofString item)) w.tree w'.tree ∧
      ∀ artifacts, conclusion = .completed artifacts →
        ∃ answers, around.Hears w w' (dialogue turns questions answers) ∧
          List.Forall₂ (Holds w'.tree a.outputDir (.ofString item)) questions answers := by
  induction questions generalizing done turns w conclusion w' with
  | nil =>
      rw [converseFrom] at h
      cases h
      exact ⟨.refl hw, fun _ _ => ⟨[], around.hears_nil rfl, .nil⟩⟩
  | cons question rest ih =>
      have htree := a.client.tree_send around (turns ++ [.user question.prompt]) w
      obtain ⟨⟨ending, w₁⟩, hsend⟩ : ∃ out,
        a.client.send around.service (turns ++ [.user question.prompt]) w = out := ⟨_, rfl⟩
      rw [hsend] at htree
      have hasked : DisturbsOnly (ArtifactKey (question :: rest) a.outputDir (.ofString item))
          w.tree w₁.tree := by
        rw [htree]
        exact .refl hw
      by_cases hending : ∀ text, ending ≠ .answered text
      · obtain ⟨_, hended, hfailed⟩ := converseFrom_of_unanswered rest hsend hending
        rw [hended] at h
        cases h
        exact ⟨hasked, fun artifacts hcompleted => absurd hcompleted (hfailed artifacts)⟩
      obtain ⟨text, rfl⟩ : ∃ text, ending = .answered text := by simpa using hending
      have hheard := a.client.hears_send (congrArg Prod.fst hsend)
      rw [hsend] at hheard
      have hquestion : a.questions[done.length]? = some question := by
        rw [hdone]
        simp
      obtain ⟨⟨result, w₂⟩, hwriter⟩ : ∃ out,
        a.writer (.ofString item) done.length text w₁ = out := ⟨_, rfl⟩
      obtain ⟨hdisturbs, hsent, hholds⟩ :=
        writer_spec hquestion (.ofString item) text hasked.linkFree hwriter
      have hwritten := hasked.trans (hdisturbs.mono fun key hkey =>
        ⟨question, List.mem_cons_self .., hkey⟩)
      cases result with
      | error reason =>
          rw [converseFrom_of_unwritten rest hsend hwriter] at h
          cases h
          exact ⟨hwritten, nofun⟩
      | ok path =>
          obtain ⟨⟨conclusion', w₄⟩, hrest⟩ : ∃ out,
            converseFrom a.client around.service (a.writer (.ofString item)) a.pacing
              (done.length + 1) rest (turns ++ [.user question.prompt] ++ [.assistant text])
              (if rest.isEmpty then w₂ else Lesson.pause around.service a.pacing w₂) = out :=
            ⟨_, rfl⟩
          rw [converseFrom_of_written rest hsend hwriter hrest] at h
          cases h
          have hpaused := pause_spec around a.pacing rest.isEmpty w₂
          generalize (if rest.isEmpty then w₂
            else Lesson.pause around.service a.pacing w₂) = w₃ at hrest hpaused
          have hlength : (done ++ [question]).length = done.length + 1 := by simp
          rw [← hlength] at hrest
          have hw₃ : w₃.tree.LinkFree := by
            rw [hpaused.1]
            exact hwritten.linkFree
          obtain ⟨hlater, hanswers⟩ := ih (by rw [hdone, List.append_assoc]; rfl) _ hw₃ hrest
          rw [hpaused.1] at hlater
          refine ⟨hwritten.trans (hlater.mono fun key ⟨asked, hasked, hkey⟩ =>
            ⟨asked, List.mem_cons_of_mem _ hasked, hkey⟩), fun artifacts hcompleted => ?_⟩
          obtain ⟨artifacts', rfl⟩ := Conclusion.of_after_eq_completed hcompleted
          obtain ⟨answers, hears, hrestHolds⟩ := hanswers artifacts' rfl
          refine ⟨text :: answers, ?_, .cons ?_ hrestHolds⟩
          · have hsilent : around.Hears w₁ w₃ [] := around.hears_nil (hpaused.2.trans hsent)
            exact hheard.trans (hsilent.trans hears)
          · -- none of the later artifacts is the one of this question
            exact hlater.read_eq_ok hwritten.linkFree
              (not_artifactKey_behind hquestions hdone item a.outputDir) (hholds path rfl)

/-! ## An item -/

/-- Working on the item in this world, the service has answered every question once, in order and
after the text of the file; and in the tree each artifact holds the answer to its question. -/
def Explained (a : Analyzer) (around : Surroundings) (item : String) (w : World) (t : FileTree) :
    Prop :=
  ∃ bytes answers, w.tree.read (.ofString item) = .ok bytes ∧
    around.Hears w (a.process around item w).2 (dialogue
      (opening (.ofString item) (Text.decode bytes) a.maxCodeLength) a.questions answers) ∧
    List.Forall₂ (Holds t a.outputDir (.ofString item)) a.questions answers

/-- What is explained stays so as long as the artifacts are left alone. -/
theorem Explained.of_disturbsOnly {touched : Key → Prop} {item : String} {w : World}
    {t t' : FileTree} (h : a.Explained around item w t) (ht : t.LinkFree)
    (hdisturbs : DisturbsOnly touched t t')
    (hkeys : ∀ key, ArtifactKey a.questions a.outputDir (.ofString item) key → ¬ touched key) :
    a.Explained around item w t' := by
  obtain ⟨bytes, answers, hread, hears, hholds⟩ := h
  refine ⟨bytes, answers, hread, hears, ?_⟩
  rw [List.forall₂_iff_get] at hholds ⊢
  refine ⟨hholds.1, fun i hi hi' => ?_⟩
  exact hdisturbs.read_eq_ok ht (hkeys _ ⟨_, List.get_mem _ _, rfl⟩) (hholds.2 i hi hi')

/-- The outcome of an item is that of the conversation about it; behind the conversation its outcome
is printed and the item is counted. -/
theorem process_of_converse {item : String} {w w' : World} {bytes : ByteArray}
    {conclusion : Conclusion} (hread : w.tree.read (.ofString item) = .ok bytes)
    (hconverse : converse a.client around.service (a.writer (.ofString item)) a.pacing a.questions
      (opening (.ofString item) (Text.decode bytes) a.maxCodeLength) w = (conclusion, w')) :
    ((a.process around item w).1 = .completed ↔ conclusion.isCompleted = true) ∧
      (a.process around item w).2.sent = w'.sent ∧
      (a.process around item w).2.tree = w'.tree := by
  rw [process, hread]
  dsimp only
  rw [explain, hconverse]
  cases conclusion with
  | completed artifacts => exact ⟨⟨fun _ => rfl, fun _ => rfl⟩, rfl, rfl⟩
  | failed question reason artifacts => exact ⟨⟨nofun, nofun⟩, rfl, rfl⟩
  | impossibleWait => exact ⟨⟨nofun, nofun⟩, rfl, rfl⟩

/-- **What working on an item leaves**: it disturbs the artifacts of the item only, and when the
item is completed it is explained. -/
theorem process_spec (around : Surroundings) (hquestions : Question.Apart a.questions)
    (item : String) {w : World} (hw : w.tree.LinkFree) :
    DisturbsOnly (ArtifactKey a.questions a.outputDir (.ofString item)) w.tree
        (a.process around item w).2.tree ∧
      ((a.process around item w).1 = .completed →
        a.Explained around item w (a.process around item w).2.tree) := by
  cases hread : w.tree.read (.ofString item) with
  | error e =>
      rw [process, hread]
      exact ⟨.refl hw, nofun⟩
  | ok bytes =>
      generalize hconverse : converse a.client around.service (a.writer (.ofString item)) a.pacing
        a.questions (opening (.ofString item) (Text.decode bytes) a.maxCodeLength) w = out
      obtain ⟨conclusion, w'⟩ := out
      obtain ⟨hdisturbs, hcompleted⟩ := converseFrom_spec hquestions item (List.nil_append _).symm
        (opening (.ofString item) (Text.decode bytes) a.maxCodeLength) hw hconverse
      obtain ⟨houtcome, hsent, htree⟩ := process_of_converse hread hconverse
      rw [htree]
      refine ⟨hdisturbs, fun h => ?_⟩
      obtain ⟨artifacts, rfl⟩ := Conclusion.isCompleted_iff.mp (houtcome.mp h)
      obtain ⟨answers, ⟨requests, hrequests, hfound⟩, hholds⟩ := hcompleted artifacts rfl
      exact ⟨bytes, answers, hread, ⟨requests, hsent.trans hrequests, hfound⟩, hholds⟩

end Analyzer

end Lesson

end SourceTutor
