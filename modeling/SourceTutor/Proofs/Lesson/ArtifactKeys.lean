import SourceTutor.Lesson.Artifact
import SourceTutor.Proofs.FileTree.LinkFree
import SourceTutor.Queue.Store

/-!
# Where artifacts are kept

Without links two artifacts are one file exactly if they lie in one directory under one name. The
name is the stem of the source file with the suffix of the question, and the suffixes of the
questions keep the names apart (`Question.Apart`): artifacts about one file are different files, and
artifacts about two files are, unless the two share their artifacts (`SharesArtifacts`). They do if
they have the same stem and the same directory for their artifacts, as `a.c` and `a.cpp` have.
-/

set_option autoImplicit false

namespace SourceTutor

open FileTree

/-! ## Names -/

/-- A long text names something in a directory. -/
theorem Path.isName_of_length {name : String} (h : 2 < name.toList.length) : IsName name := by
  refine ⟨?_, ?_, ?_⟩ <;>
  · rintro rfl
    exact absurd h (by decide)

/-- A stem and an extension without dots make a name. -/
theorem Path.isName_append_dot {stem extension : String} (hempty : extension ≠ "")
    (hdot : '.' ∉ extension.toList) : IsName (stem ++ "." ++ extension) := by
  have hne : ∀ other : String, stem ++ "." ++ extension ≠ other ++ "." ++ "" :=
    fun other heq => hempty (append_dot_inj hdot (by simp) heq).2
  refine ⟨fun heq => ?_, hne "", hne "."⟩
  have htext := congrArg String.toList heq
  rw [toList_append_dot] at htext
  simp at htext

/-- The suffixes make a name of every stem, and of two stems and two suffixes always two names. No
such name is that of a temporary file. -/
structure Question.Apart (questions : List Question) : Prop where
  nodup : questions.Nodup
  plain : ∀ question ∈ questions,
    '/' ∉ question.suffix.toList ∧ 2 < question.suffix.toList.length
  apart : ∀ question ∈ questions, ∀ other ∈ questions, ∀ stem stem' : String,
    stem ++ question.suffix = stem' ++ other.suffix → stem = stem' ∧ question = other
  not_temporary : ∀ question ∈ questions, ∀ stem stem' : String,
    stem ++ question.suffix ≠ stem' ++ "." ++ "json.tmp"

/-- Two texts that are the same end in the same way. -/
theorem take_reverse_of_append_eq {stem stem' ending ending' : String} {n : Nat}
    (h : stem ++ ending = stem' ++ ending') (hn : n ≤ ending.toList.length)
    (hn' : n ≤ ending'.toList.length) :
    ending.toList.reverse.take n = ending'.toList.reverse.take n := by
  have htext := congrArg (fun s : String => s.toList.reverse.take n) h
  simp only [String.toList_append, List.reverse_append] at htext
  rwa [List.take_append_of_le_length (by simpa using hn),
    List.take_append_of_le_length (by simpa using hn')] at htext

/-- The suffixes of the standard questions differ in the fourth letter from their end. -/
theorem Question.apart_standard : Question.Apart Question.standard where
  nodup := by
    have hsuffixes : (Question.standard.map Question.suffix).Nodup := by decide
    exact List.Pairwise.of_map Question.suffix (fun _ _ => mt (congrArg _)) hsuffixes
  plain := by decide
  apart question hquestion other hother stem stem' h := by
    have hlong : ∀ question ∈ Question.standard, 4 ≤ question.suffix.toList.length := by decide
    have hends := take_reverse_of_append_eq h (hlong _ hquestion) (hlong _ hother)
    have hsame : question = other := by
      simp only [Question.standard, List.mem_cons, List.not_mem_nil, or_false] at hquestion hother
      rcases hquestion with rfl | rfl | rfl <;> rcases hother with rfl | rfl | rfl <;>
        first | exact absurd hends (by decide) | rfl
    subst hsame
    exact ⟨String.append_left_inj _ |>.mp h, rfl⟩
  not_temporary question hquestion stem stem' h := by
    have hlong : ∀ question ∈ Question.standard, 1 ≤ question.suffix.toList.length := by decide
    have hends := take_reverse_of_append_eq h (hlong _ hquestion) (by decide)
    simp only [Question.standard, List.mem_cons, List.not_mem_nil, or_false] at hquestion
    rcases hquestion with rfl | rfl | rfl <;> exact absurd hends (by decide)

namespace Lesson

/-! ## Keys of artifacts -/

/-- The directory in which the artifacts about a source file are kept. -/
def artifactDir (source : Path) (outputDir : String) : Path :=
  ((source.parent?).getD .empty).child outputDir

/-- The source files have the same stem and keep their artifacts in the same directory. -/
def SharesArtifacts (outputDir : String) (source other : Path) : Prop :=
  source.stem? = other.stem? ∧
    (artifactDir source outputDir).key = (artifactDir other outputDir).key

/-- When the artifacts are kept in a directory beside the source file, the source files have to be
in the same directory. -/
theorem sharesArtifacts_iff {outputDir : String} (hname : Path.IsName outputDir)
    (hslash : '/' ∉ outputDir.toList) (source other : Path) :
    SharesArtifacts outputDir source other ↔ source.stem? = other.stem? ∧
      ((source.parent?).getD .empty).key = ((other.parent?).getD .empty).key := by
  rw [SharesArtifacts, artifactDir, artifactDir, Path.key_child _ hname hslash,
    Path.key_child _ hname hslash, List.append_left_inj]

variable {questions : List Question} {question asked : Question} {item other outputDir : String}

/-- The name of an artifact: the stem of the source file with the suffix of the question. -/
def artifactName (source : Path) (suffix : String) : String := source.stem?.getD "" ++ suffix

/-- The stem of a path with a text is text. -/
theorem not_mem_stem (item : String) : '/' ∉ ((Path.ofString item).stem?.getD "").toList := by
  cases h : (Path.ofString item).stem? with
  | none => exact List.not_mem_nil
  | some stem =>
      obtain ⟨_, segment, hsegment, hsub⟩ := Path.stem?_eq_some h
      exact fun hslash => Path.not_mem_of_mem_ofString hsegment (hsub _ hslash)

/-- No slash comes from the stem. -/
theorem not_mem_artifactName (item : String) {suffix : String} (hslash : '/' ∉ suffix.toList) :
    '/' ∉ (artifactName (.ofString item) suffix).toList := by
  rw [artifactName, String.toList_append, List.mem_append, not_or]
  exact ⟨not_mem_stem item, hslash⟩

/-- The stem of a source file whose name is text stands in the name of its artifact as it is. -/
theorem artifactPath_of_not_mem {source : Path} (h : '/' ∉ (source.stem?.getD "").toList)
    (outputDir suffix : String) :
    artifactPath source outputDir suffix =
      (artifactDir source outputDir).child (artifactName source suffix) := by
  rw [artifactPath, FileName.text_of_not_mem h]
  rfl

/-- An artifact is kept under the stem of the source file and the suffix of the question. -/
theorem key_artifactPath (hquestions : Question.Apart questions) (hquestion : question ∈ questions)
    (item outputDir : String) :
    (artifactPath (.ofString item) outputDir question.suffix).key =
      (artifactDir (.ofString item) outputDir).key ++
        [(Path.ofString item).stem?.getD "" ++ question.suffix] := by
  obtain ⟨hslash, hlength⟩ := hquestions.plain question hquestion
  rw [artifactPath_of_not_mem (not_mem_stem item)]
  refine Path.key_child _ (Path.isName_of_length ?_) (not_mem_artifactName item hslash)
  rw [artifactName, String.toList_append, List.length_append]
  omega

/-- The artifacts about one source file are different files. -/
theorem eq_of_key_artifactPath (hquestions : Question.Apart questions)
    (hquestion : question ∈ questions) (hasked : asked ∈ questions)
    (h : (artifactPath (.ofString item) outputDir question.suffix).key =
      (artifactPath (.ofString item) outputDir asked.suffix).key) : question = asked := by
  rw [key_artifactPath hquestions hquestion, key_artifactPath hquestions hasked] at h
  obtain ⟨_, hname⟩ := List.append_singleton_inj.mp h
  exact (hquestions.apart _ hquestion _ hasked _ _ hname).2

/-- **Artifacts about two source files are one file only if the source files share them.** -/
theorem sharesArtifacts_of_key (hquestions : Question.Apart questions)
    (hquestion : question ∈ questions) (hasked : asked ∈ questions)
    (h : (artifactPath (.ofString item) outputDir question.suffix).key =
      (artifactPath (.ofString other) outputDir asked.suffix).key) :
    SharesArtifacts outputDir (.ofString item) (.ofString other) := by
  rw [key_artifactPath hquestions hquestion, key_artifactPath hquestions hasked] at h
  obtain ⟨hdir, hname⟩ := List.append_singleton_inj.mp h
  obtain ⟨hstem, _⟩ := hquestions.apart _ hquestion _ hasked _ _ hname
  refine ⟨?_, hdir⟩
  -- a stem that is there is not empty, so that it differs from one that is missing
  cases hs : (Path.ofString item).stem? with
  | none =>
      cases hs' : (Path.ofString other).stem? with
      | none => rfl
      | some stem =>
          rw [hs, hs'] at hstem
          exact absurd hstem.symm (Path.stem?_eq_some hs').1
  | some stem =>
      cases hs' : (Path.ofString other).stem? with
      | none =>
          rw [hs, hs'] at hstem
          exact absurd hstem (Path.stem?_eq_some hs).1
      | some stem' =>
          rw [hs, hs'] at hstem
          exact congrArg some hstem

/-- The temporary file of a queue is no artifact, unless it is the file of the queue. -/
theorem key_temporary_ne (hquestions : Question.Apart questions) (hquestion : question ∈ questions)
    {store : Store}
    (hstore : store.path.key ≠ (artifactPath (.ofString item) outputDir question.suffix).key) :
    store.temporary.key ≠ (artifactPath (.ofString item) outputDir question.suffix).key := by
  rw [Store.temporary, Path.withExtension]
  split
  · exact hstore
  · rename_i stem hstem
    rw [key_artifactPath hquestions hquestion]
    intro h
    have hname := Path.isSilent_append_dot stem (show 1 < "json.tmp".toList.length by decide)
    rw [Path.key_concat (Path.segments_assemble hname.1) (IsName_of_loud hname.1 hname.2.1)] at h
    obtain ⟨_, hlast⟩ := List.append_singleton_inj.mp h
    exact hquestions.not_temporary _ hquestion _ _ hlast.symm

end Lesson

end SourceTutor
