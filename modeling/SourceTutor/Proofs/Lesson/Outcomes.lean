import SourceTutor.Proofs.FileTree.Changing
import SourceTutor.Proofs.Lesson.Completing
import SourceTutor.Proofs.Lesson.Dialogue

/-!
# What the outcome of an item says

Working on an item goes as far as the answers go: each question is answered and its answer stored
before the next one is asked. `Yields` says how far a conversation comes and what it leaves: the
answers of the service are those stored, and perhaps one more; the artifacts of the questions with
stored answers hold them; and besides directories for the artifacts nothing else changes. It holds
of every conversation in a tree without links, wherever it ends and for whatever reason
(`converseFrom_yields`), if the suffixes of the questions are different names without slashes. So an
item is completed exactly if its file can be read and every question is answered and every answer
stored (`process_outcome`).
-/

set_option autoImplicit false

namespace SourceTutor.Lesson

open FileTree SourceTutor.Chat

/-! ## The artifacts about one file -/

section

variable {t t' : FileTree} {item outputDir suffix suffix' : String} {bytes : ByteArray}

/-- An artifact that can be read has a name, and no other suffix leads to it. -/
theorem suffix_eq_of_key_eq (hplain : '/' ∉ suffix.toList) (hplain' : '/' ∉ suffix'.toList)
    (hread : t.read (artifactPath (.ofString item) outputDir suffix) = .ok bytes)
    (h : (artifactPath (.ofString item) outputDir suffix').key =
      (artifactPath (.ofString item) outputDir suffix).key) : suffix' = suffix := by
  have hslash := not_mem_artifactName item hplain
  have hslash' := not_mem_artifactName item hplain'
  rw [artifactPath_of_not_mem (not_mem_stem item)] at hread
  rw [artifactPath_of_not_mem (not_mem_stem item), artifactPath_of_not_mem (not_mem_stem item)] at h
  obtain ⟨front, _, -, -, hsegments, -⟩ :=
    (artifactDir (.ofString item) outputDir).segments_child hslash
  have hname : Path.IsName (artifactName (.ofString item) suffix) := isName_of_read hsegments hread
  have hstep : (artifactDir (.ofString item) outputDir).key.step
      (artifactName (.ofString item) suffix') =
        (artifactDir (.ofString item) outputDir).key ++ [artifactName (.ofString item) suffix] := by
    rw [← Path.key_child_eq_step _ hslash', ← Path.key_child _ hname hslash]
    exact h
  have hsame := eq_of_step_eq_concat hname hstep
  exact (String.append_right_inj _).mp hsame

/-- Making the directory of an artifact makes components of that directory only. -/
theorem makeOutputDir_changes (ht : t.LinkFree) (hplain : '/' ∉ suffix.toList)
    {written : Key → Prop} :
    ChangesOnly (artifactDir (.ofString item) outputDir).Through written t
      (makeOutputDir t (artifactPath (.ofString item) outputDir suffix)).1 := by
  have hmade := makeOutputDir_madeAbove t (artifactPath (.ofString item) outputDir suffix)
  rw [artifactPath_of_not_mem (not_mem_stem item)] at hmade ⊢
  exact ht.changes_madeAbove (not_mem_artifactName item hplain) hmade

/-- Storing an answer writes its artifact, or fails and writes nothing. -/
theorem writeArtifact_changes (ht : t.LinkFree) {questions : List Question} {index : Nat}
    {question : Question} (hquestion : questions[index]? = some question)
    (hplain : '/' ∉ question.suffix.toList) (answer : String) {result : Except Fault Path}
    (h : writeArtifact t (.ofString item) outputDir questions index answer = (t', result)) :
    ChangesOnly (artifactDir (.ofString item) outputDir).Through
      (fun key => (∃ path, result = .ok path) ∧
        key = (artifactPath (.ofString item) outputDir question.suffix).key) t t' := by
  have hdir : ChangesOnly (artifactDir (.ofString item) outputDir).Through
      (fun key => (∃ path, result = .ok path) ∧
        key = (artifactPath (.ofString item) outputDir question.suffix).key) t
      (makeOutputDir t (artifactPath (.ofString item) outputDir question.suffix)).1 :=
    makeOutputDir_changes ht hplain
  rw [writeArtifact, hquestion] at h
  dsimp only at h
  split at h
  · next heq =>
      rw [heq] at hdir
      cases h
      exact hdir
  · next t₁ heq =>
      rw [heq] at hdir
      split at h
      · next t₂ hwrite =>
          cases h
          obtain ⟨hw, rfl⟩ := (hdir.linkFree ht).of_write hwrite
          exact hdir.trans (.insert_file hw ⟨⟨_, rfl⟩, rfl⟩ _)
      · cases h
        exact hdir

end

/-! ## How far a conversation comes -/

theorem dialogue_nil (turns : List Message) (questions : List Question) :
    dialogue turns questions [] = [] := by
  cases questions <;> rfl

namespace Analyzer

/-- A conversation about these questions behind these turns, the first of which has the number
`first`, leads from one world to another: the service answers so many questions, and so many of the
answers are stored. -/
structure Yields (a : Analyzer) (around : Surroundings) (item : String) (first : Nat)
    (questions : List Question) (turns : List Message) (w w' : World) (log : List Happening)
    (conclusion : Conclusion) (given stored : List String) : Prop where
  stored_eq : storedIn log = stored.zipIdx first
  /-- The last answer may be lost. -/
  given_eq : given = stored ∨ ∃ lost, given = stored ++ [lost]
  given_le : given.length ≤ questions.length
  hears : around.Hears w w' (dialogue turns questions given)
  completed_iff : conclusion.isCompleted = true ↔ stored.length = questions.length
  holds : List.Forall₂ (Holds w'.tree a.outputDir (.ofString item)) (questions.take stored.length)
    stored
  changes : ChangesOnly (artifactDir (.ofString item) a.outputDir).Through
    (ArtifactKey (questions.take stored.length) a.outputDir (.ofString item)) w.tree w'.tree

section

variable {a : Analyzer} {around : Surroundings} {item : String} {first : Nat}
  {questions rest : List Question} {question : Question} {turns : List Message}
  {w w₁ w₂ w₃ w' : World} {log more : List Happening} {events : List Event}
  {conclusion : Conclusion} {answer : String} {given stored : List String} {path : Path}

/-- Nothing is asked. -/
theorem yields_nil (w : World) :
    Yields a around item first [] turns w w [] (.completed []) [] [] where
  stored_eq := rfl
  given_eq := .inl rfl
  given_le := Nat.le_refl 0
  hears := around.hears_nil rfl
  completed_iff := ⟨fun _ => rfl, fun _ => rfl⟩
  holds := .nil
  changes := .refl w.tree

/-- The first question fails: it is not answered, or the answer is lost. -/
theorem yields_failed (rest : List Question) {text? : Option String}
    (hears : around.Hears w w' (text?.toList.map (turns ++ [.user question.prompt], ·)))
    (hmore : storedIn more = []) (hconclusion : conclusion.isCompleted = false)
    (hchanges : ChangesOnly (artifactDir (.ofString item) a.outputDir).Through (fun _ => False)
      w.tree w'.tree) :
    Yields a around item first (question :: rest) turns w w' (events.map .chatted ++ more)
      conclusion text?.toList [] where
  stored_eq := by
    rw [storedIn_chatted, hmore]
    rfl
  given_eq := by
    cases text? with
    | none => exact .inl rfl
    | some text => exact .inr ⟨text, rfl⟩
  given_le := by
    cases text? with
    | none => exact Nat.zero_le _
    | some text => exact Nat.succ_le_succ (Nat.zero_le _)
  hears := by
    cases text? with
    | none => exact hears
    | some text =>
        show around.Hears w w' ((turns ++ [.user question.prompt], text) ::
          dialogue (turns ++ [.user question.prompt] ++ [.assistant text]) rest [])
        rw [dialogue_nil]
        exact hears
  completed_iff := by
    rw [hconclusion]
    constructor
    · intro h
      cases h
    · intro h
      cases h
  holds := .nil
  changes := hchanges.mono (fun _ => id) fun _ => False.elim

/-- The first answer is stored, and the conversation goes on. -/
theorem Yields.cons (hdistinct : ((question :: rest).map Question.suffix).Nodup)
    (hplain : ∀ asked ∈ question :: rest, '/' ∉ asked.suffix.toList) (hw : w.tree.LinkFree)
    (hears : around.Hears w w₃ [(turns ++ [.user question.prompt], answer)])
    (hchanges : ChangesOnly (artifactDir (.ofString item) a.outputDir).Through
      (· = (artifactPath (.ofString item) a.outputDir question.suffix).key) w.tree w₃.tree)
    (hholds : Holds w₃.tree a.outputDir (.ofString item) question answer)
    (h : Yields a around item (first + 1) rest
      (turns ++ [.user question.prompt] ++ [.assistant answer]) w₃ w' log conclusion given stored) :
    Yields a around item first (question :: rest) turns w w'
      (events.map .chatted ++
        .wrote first answer (.ok path) :: ((pauses a.pacing rest).map .chatted ++ log))
      (conclusion.after path) (answer :: given) (answer :: stored) where
  stored_eq := by
    have hlog := h.stored_eq
    rw [storedIn_chatted, List.zipIdx_cons, ← hlog]
    show (answer, first) :: storedIn ((pauses a.pacing rest).map .chatted ++ log) = _
    rw [storedIn_chatted]
  given_eq := by
    rcases h.given_eq with rfl | ⟨lost, rfl⟩
    · exact .inl rfl
    · exact .inr ⟨lost, rfl⟩
  given_le := Nat.succ_le_succ h.given_le
  hears := hears.trans h.hears
  completed_iff := by
    rw [List.length_cons, List.length_cons, Nat.succ_inj, ← h.completed_iff]
    cases conclusion <;> rfl
  holds := by
    refine .cons ?_ h.holds
    -- what is written later are other artifacts
    apply (h.changes.disturbsOnly (hchanges.linkFree hw)).read_eq_ok (hchanges.linkFree hw) _ hholds
    rintro ⟨later, hlater, hkey⟩
    have hmem : later ∈ rest := List.mem_of_mem_take hlater
    have hsuffix := suffix_eq_of_key_eq (hplain _ (List.mem_cons_self ..))
      (hplain _ (List.mem_cons_of_mem _ hmem)) hholds hkey.symm
    rw [List.map_cons, List.nodup_cons] at hdistinct
    exact hdistinct.1 (hsuffix ▸ List.mem_map_of_mem hmem)
  changes := by
    have hfirst : ∀ key, key = (artifactPath (.ofString item) a.outputDir question.suffix).key →
        ArtifactKey ((question :: rest).take (stored.length + 1)) a.outputDir (.ofString item)
          key :=
      fun key hkey => ⟨question, List.mem_cons_self .., hkey⟩
    have hlater : ∀ key, ArtifactKey (rest.take stored.length) a.outputDir (.ofString item) key →
        ArtifactKey ((question :: rest).take (stored.length + 1)) a.outputDir (.ofString item)
          key :=
      fun key ⟨asked, hasked, hkey⟩ => ⟨asked, List.mem_cons_of_mem _ hasked, hkey⟩
    exact (hchanges.mono (fun _ => id) hfirst).trans (h.changes.mono (fun _ => id) hlater)

/-- What storing an answer does to the world. -/
theorem writer_changes {index : Nat} (hquestion : a.questions[index]? = some question)
    (hplain : '/' ∉ question.suffix.toList) (hw : w.tree.LinkFree)
    {result : Except String Path} (h : a.writer (.ofString item) index answer w = (result, w')) :
    ChangesOnly (artifactDir (.ofString item) a.outputDir).Through
      (fun key => (∃ path, result = .ok path) ∧
        key = (artifactPath (.ofString item) a.outputDir question.suffix).key) w.tree w'.tree := by
  rw [writer] at h
  generalize hwrite : writeArtifact w.tree (.ofString item) a.outputDir a.questions index answer =
    out at h
  obtain ⟨tree, written⟩ := out
  have hchanges := writeArtifact_changes hw hquestion hplain answer hwrite
  cases written with
  | ok path =>
      cases h
      exact hchanges.mono (fun _ => id) fun _ hkey => ⟨⟨path, rfl⟩, hkey.2⟩
  | error e =>
      cases h
      refine hchanges.mono (fun _ => id) ?_
      rintro key ⟨⟨path, hok⟩, -⟩
      cases hok

/-- An answer that is lost changes no file. -/
theorem writer_error {index : Nat} (hquestion : a.questions[index]? = some question)
    (hplain : '/' ∉ question.suffix.toList) (hw : w.tree.LinkFree) {reason : String}
    (h : a.writer (.ofString item) index answer w = (.error reason, w')) :
    w'.sent = w.sent ∧ ChangesOnly (artifactDir (.ofString item) a.outputDir).Through
      (fun _ => False) w.tree w'.tree := by
  have hsent := (writer_spec hquestion (.ofString item) answer hw h).2.1
  have hchanges := writer_changes hquestion hplain hw h
  refine ⟨hsent, hchanges.mono (fun _ => id) ?_⟩
  rintro key ⟨⟨path, hok⟩, -⟩
  cases hok

/-- An answer that is stored is held by its artifact, also behind the pause. -/
theorem writer_ok {index : Nat} (hquestion : a.questions[index]? = some question)
    (hplain : '/' ∉ question.suffix.toList) (hw : w.tree.LinkFree)
    (h : a.writer (.ofString item) index answer w = (.ok path, w₂))
    (hpause : (if rest.isEmpty then w₂ else Lesson.pause around.service a.pacing w₂) = w₃) :
    w₃.sent = w.sent ∧
      ChangesOnly (artifactDir (.ofString item) a.outputDir).Through
        (· = (artifactPath (.ofString item) a.outputDir question.suffix).key) w.tree w₃.tree ∧
      Holds w₃.tree a.outputDir (.ofString item) question answer := by
  obtain ⟨-, hsent, hholds⟩ := writer_spec hquestion (.ofString item) answer hw h
  have hchanges := writer_changes hquestion hplain hw h
  obtain ⟨htree, hsent'⟩ := pause_spec around a.pacing rest.isEmpty w₂
  rw [hpause] at htree hsent'
  rw [htree]
  exact ⟨hsent'.trans hsent, hchanges.mono (fun _ => id) fun _ hkey => hkey.2, hholds path rfl⟩

/-- Asking a question leaves the files alone, and at most its own answer is heard. -/
theorem exists_asked (a : Analyzer) (around : Surroundings) (messages : List Message) (w : World)
    (before : List Happening) :
    ∃ ending, ∃ events : List Event, ∃ w₁, ∃ text? : Option String,
      a.client.send (listening around.service) messages (w, before) =
        (ending, w₁, before ++ events.map .chatted) ∧
      w₁.tree = w.tree ∧ around.Hears w w₁ (text?.toList.map (messages, ·)) ∧
      ∀ text, ending = .answered text → text? = some text := by
  obtain ⟨text?, hheard, hanswered⟩ := a.client.hears_send_opt around messages w
  exact ⟨_, _, _, text?, send_listening a.client around.service messages w before,
    a.client.tree_send around messages w, hheard, hanswered⟩

/-- **How far a conversation comes**, from any question on. The induction is on those left. -/
theorem converseFrom_yields (a : Analyzer) (around : Surroundings) (item : String)
    {done questions : List Question} (hdone : a.questions = done ++ questions)
    (hdistinct : (questions.map Question.suffix).Nodup)
    (hplain : ∀ question ∈ questions, '/' ∉ question.suffix.toList) (turns : List Message)
    {w : World} (hw : w.tree.LinkFree) (before : List Happening) :
    ∃ conclusion w' log given stored,
      converseFrom a.client (listening around.service) (recording (a.writer (.ofString item)))
        a.pacing done.length questions turns (w, before) = (conclusion, w', before ++ log) ∧
      Yields a around item done.length questions turns w w' log conclusion given stored := by
  induction questions generalizing done turns w before with
  | nil => exact ⟨_, w, [], [], [], by rw [converseFrom, List.append_nil], yields_nil w⟩
  | cons question rest ih =>
      have hslash := hplain question (List.mem_cons_self ..)
      obtain ⟨ending, events, w₁, text?, hsend, htree, hheard, hanswered⟩ :=
        a.exists_asked around (turns ++ [.user question.prompt]) w before
      by_cases hending : ∀ text, ending ≠ .answered text
      · -- the question is not answered
        obtain ⟨conclusion, hended, hfailed⟩ := converseFrom_of_unanswered rest hsend hending
        have hasked : ChangesOnly (artifactDir (.ofString item) a.outputDir).Through
            (fun _ => False) w.tree w₁.tree := by
          rw [htree]
          exact .refl w.tree
        have hincomplete : conclusion.isCompleted = false := by
          rw [Bool.eq_false_iff]
          intro h
          obtain ⟨artifacts, hcompleted⟩ := Conclusion.isCompleted_iff.mp h
          exact hfailed artifacts hcompleted
        refine ⟨conclusion, w₁, events.map .chatted ++ [], text?.toList, [], ?_,
          yields_failed rest hheard rfl hincomplete hasked⟩
        rw [hended, List.append_nil]
      obtain ⟨text, rfl⟩ : ∃ text, ending = .answered text := by simpa using hending
      obtain rfl := hanswered text rfl
      have hquestion : a.questions[done.length]? = some question := by
        rw [hdone]
        simp
      have hw₁ : w₁.tree.LinkFree := by
        rw [htree]
        exact hw
      obtain ⟨⟨result, w₂⟩, hwriter⟩ : ∃ out,
        a.writer (.ofString item) done.length text w₁ = out := ⟨_, rfl⟩
      have hrecord : recording (a.writer (.ofString item)) done.length text
          (w₁, before ++ events.map .chatted) =
            (result, w₂, before ++ events.map .chatted ++ [.wrote done.length text result]) := by
        rw [recording, hwriter]
      cases result with
      | error reason =>
          -- the answer is lost
          obtain ⟨hsent, hchanges⟩ := writer_error hquestion hslash hw₁ hwriter
          rw [htree] at hchanges
          refine ⟨.failed done.length reason [], w₂,
            events.map .chatted ++ [.wrote done.length text (.error reason)], (some text).toList,
            [], ?_, yields_failed rest (hheard.trans (around.hears_nil hsent)) rfl rfl
              hchanges⟩
          rw [converseFrom_of_unwritten rest hsend hrecord, List.append_assoc]
      | ok path =>
          -- the conversation goes on behind the pause
          have hlistens := pause_listening around.service a.pacing rest w₂
            (before ++ events.map .chatted ++ [.wrote done.length text (.ok path)])
          obtain ⟨w₃, hw₃⟩ : ∃ w₃,
            (if rest.isEmpty then w₂ else Lesson.pause around.service a.pacing w₂) = w₃ := ⟨_, rfl⟩
          obtain ⟨hsent, hchanges, hholds⟩ := writer_ok hquestion hslash hw₁ hwriter hw₃
          rw [htree] at hchanges
          rw [hw₃] at hlistens
          have hdone' : a.questions = (done ++ [question]) ++ rest := by
            rw [hdone, List.append_assoc]
            rfl
          have hlength : (done ++ [question]).length = done.length + 1 := by simp
          obtain ⟨conclusion, w', log, given, stored, hrest, hyields⟩ := ih hdone'
            (List.nodup_cons.mp hdistinct).2
            (fun asked hasked => hplain asked (List.mem_cons_of_mem _ hasked))
            (turns ++ [.user question.prompt] ++ [.assistant text]) (hchanges.linkFree hw)
            (before ++ events.map .chatted ++ [.wrote done.length text (.ok path)] ++
              (pauses a.pacing rest).map .chatted)
          rw [hlength] at hrest hyields
          rw [← hlistens] at hrest
          refine ⟨conclusion.after path, w', events.map .chatted ++
            .wrote done.length text (.ok path) :: ((pauses a.pacing rest).map .chatted ++ log),
            text :: given, text :: stored, ?_, hyields.cons hdistinct hplain hw
              (hheard.trans (around.hears_nil hsent)) hchanges hholds⟩
          rw [converseFrom_of_written rest hsend hrecord hrest]
          simp only [List.append_assoc, List.cons_append, List.nil_append]

/-! ## Items -/

/-- What happens while an item is worked on; nothing if its file cannot be read. -/
def happenings (a : Analyzer) (around : Surroundings) (item : String) (w : World) :
    List Happening :=
  match w.tree.read (.ofString item) with
  | .error _ => []
  | .ok bytes =>
    Lesson.happenings a.client around.service (a.writer (.ofString item)) a.pacing a.questions
      (opening (.ofString item) (Text.decode bytes) a.maxCodeLength) w

/-- What has become of an item: these answers the service has given, and these are stored. -/
structure Accounted (a : Analyzer) (around : Surroundings) (item : String) (w : World)
    (given stored : List String) : Prop where
  /-- The item is completed if its file can be read, every question is answered and every answer
  stored; otherwise it fails. -/
  completed_iff : (a.process around item w).1 = .completed ↔
    (∃ bytes, w.tree.read (.ofString item) = .ok bytes) ∧
      given.length = a.questions.length ∧ stored.length = a.questions.length
  /-- The answers of the service are given to the questions in order, each after the text of the
  file and the questions before. -/
  hears : ∀ bytes, w.tree.read (.ofString item) = .ok bytes →
    around.Hears w (a.process around item w).2 (dialogue
      (opening (.ofString item) (Text.decode bytes) a.maxCodeLength) a.questions given)
  given_le : given.length ≤ a.questions.length
  /-- They are stored in order, except perhaps the last. -/
  stored_eq : storedIn (a.happenings around item w) = stored.zipIdx
  given_eq : given = stored ∨ ∃ lost, given = stored ++ [lost]
  /-- The artifacts of as many questions hold them. -/
  holds : List.Forall₂ (Holds (a.process around item w).2.tree a.outputDir (.ofString item))
    (a.questions.take stored.length) stored
  /-- Nothing else changes, but for components of the directory of the artifacts that are made. -/
  changes : ChangesOnly (artifactDir (.ofString item) a.outputDir).Through
    (ArtifactKey (a.questions.take stored.length) a.outputDir (.ofString item)) w.tree
    (a.process around item w).2.tree
  /-- So the artifacts of the other questions are the files that they were. -/
  later : ∀ question ∈ a.questions.drop stored.length, ∀ bytes,
    (a.process around item w).2.tree.get?
        (artifactPath (.ofString item) a.outputDir question.suffix).key = some (.file bytes) ↔
      w.tree.get? (artifactPath (.ofString item) a.outputDir question.suffix).key =
        some (.file bytes)
  unreadable : ∀ e, w.tree.read (.ofString item) = .error e →
    (a.process around item w).1 = .failed ∧ (a.process around item w).2.sent = w.sent ∧
      (a.process around item w).2.tree = w.tree

/-- The artifacts that hold an answer are none of those of the questions behind. -/
theorem not_artifactKey_of_holds {t : FileTree}
    (hdistinct : (questions.map Question.suffix).Nodup)
    (hplain : ∀ question ∈ questions, '/' ∉ question.suffix.toList)
    (hholds : List.Forall₂ (Holds t a.outputDir (.ofString item)) (questions.take stored.length)
      stored) (hquestion : question ∈ questions.drop stored.length) :
    ¬ ArtifactKey (questions.take stored.length) a.outputDir (.ofString item)
      (artifactPath (.ofString item) a.outputDir question.suffix).key := by
  rintro ⟨asked, hasked, hkey⟩
  obtain ⟨answer, hanswer⟩ : ∃ answer, Holds t a.outputDir (.ofString item) asked answer := by
    obtain ⟨i, rfl⟩ := List.mem_iff_get.mp hasked
    obtain ⟨hlength, hget⟩ := List.forall₂_iff_get.mp hholds
    have hi : i.val < stored.length := Nat.lt_of_lt_of_eq i.isLt hlength
    exact ⟨stored.get ⟨i, hi⟩, hget i i.isLt hi⟩
  have hsuffix := suffix_eq_of_key_eq (hplain _ (List.mem_of_mem_take hasked))
    (hplain _ (List.mem_of_mem_drop hquestion)) hanswer hkey
  rw [← List.take_append_drop stored.length questions, List.map_append,
    List.nodup_append] at hdistinct
  exact hdistinct.2.2 _ (List.mem_map_of_mem hasked) _ (List.mem_map_of_mem hquestion) hsuffix.symm

/-- An item whose file cannot be read is accounted for. -/
theorem accounted_unreadable {e : IoFault} (hread : w.tree.read (.ofString item) = .error e) :
    a.Accounted around item w [] [] := by
  have hprocess : (a.process around item w).1 = .failed ∧
      (a.process around item w).2.sent = w.sent ∧ (a.process around item w).2.tree = w.tree := by
    rw [process, hread]
    exact ⟨rfl, rfl, rfl⟩
  have hunread : ∀ bytes, w.tree.read (.ofString item) ≠ .ok bytes := by
    intro bytes hbytes
    rw [hread] at hbytes
    cases hbytes
  refine ⟨?_, ?_, Nat.zero_le _, ?_, .inl rfl, .nil, ?_, ?_, fun _ _ => hprocess⟩
  · rw [hprocess.1]
    constructor
    · intro h
      cases h
    · rintro ⟨⟨bytes, hbytes⟩, -⟩
      exact absurd hbytes (hunread bytes)
  · intro bytes hbytes
    exact absurd hbytes (hunread bytes)
  · rw [happenings, hread]
    rfl
  · rw [hprocess.2.2]
    exact .refl w.tree
  · intro question _ bytes
    rw [hprocess.2.2]

/-- **What the outcome of an item says**, whatever the service replies and wherever the work on the
item ends: it is accounted for. -/
theorem process_outcome (a : Analyzer) (around : Surroundings)
    (hdistinct : (a.questions.map Question.suffix).Nodup)
    (hplain : ∀ question ∈ a.questions, '/' ∉ question.suffix.toList) (item : String) {w : World}
    (hw : w.tree.LinkFree) : ∃ given stored, a.Accounted around item w given stored := by
  cases hread : w.tree.read (.ofString item) with
  | error e => exact ⟨[], [], accounted_unreadable hread⟩
  | ok bytes =>
      obtain ⟨conclusion, w', log, given, stored, hnoted, hyields⟩ :=
        a.converseFrom_yields around item (List.nil_append a.questions).symm hdistinct hplain
          (opening (.ofString item) (Text.decode bytes) a.maxCodeLength) hw []
      rw [List.nil_append, List.length_nil] at hnoted
      have hconverse : converse a.client around.service (a.writer (.ofString item)) a.pacing
          a.questions (opening (.ofString item) (Text.decode bytes) a.maxCodeLength) w =
            (conclusion, w') := by
        have hsame := converse_noted a.client around.service (a.writer (.ofString item)) a.pacing
          a.questions (opening (.ofString item) (Text.decode bytes) a.maxCodeLength) (w, [])
        rw [hsame, converse, hnoted]
        rfl
      have hlog : a.happenings around item w = log := by
        rw [happenings, hread]
        dsimp only
        rw [Lesson.happenings, converse, hnoted]
      obtain ⟨houtcome, hsent, htree⟩ := process_of_converse hread hconverse
      refine ⟨given, stored, ?_, ?_, hyields.given_le, ?_, hyields.given_eq, ?_, ?_, ?_, ?_⟩
      · rw [houtcome, hyields.completed_iff]
        constructor
        · intro hall
          have hle := hyields.given_le
          refine ⟨⟨bytes, hread⟩, ?_, hall⟩
          rcases hyields.given_eq with rfl | ⟨lost, rfl⟩
          · exact hall
          · rw [List.length_append, List.length_singleton] at hle
            omega
        · rintro ⟨-, -, hall⟩
          exact hall
      · intro found hfound
        rw [hread] at hfound
        cases hfound
        obtain ⟨requests, hrequests, hanswers⟩ := hyields.hears
        exact ⟨requests, hsent.trans hrequests, hanswers⟩
      · rw [hlog]
        exact hyields.stored_eq
      · rw [htree]
        exact hyields.holds
      · rw [htree]
        exact hyields.changes
      · intro question hquestion found
        rw [htree]
        exact hyields.changes.file_iff
          (not_artifactKey_of_holds hdistinct hplain hyields.holds hquestion)
      · intro e he
        rw [hread] at he
        cases he

/-- An instance: a file beside a directory for its artifacts, and a service that always answers. -/
theorem process_outcome_twins :
    (explainer.questions.map Question.suffix).Nodup ∧
      (∀ question ∈ explainer.questions, '/' ∉ question.suffix.toList) ∧
      (World.start twins).tree.LinkFree ∧
      ∃ given stored, explainer.Accounted chatty "./a.c" (World.start twins) given stored := by
  have hdistinct : (explainer.questions.map Question.suffix).Nodup := by decide
  have hplain : ∀ question ∈ explainer.questions, '/' ∉ question.suffix.toList := by decide
  exact ⟨hdistinct, hplain, linkFree_twins,
    process_outcome explainer chatty hdistinct hplain "./a.c" linkFree_twins⟩

end

end Analyzer

end SourceTutor.Lesson
