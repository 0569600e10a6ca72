import SourceTutor.Proofs.FileTree.Below
import SourceTutor.Proofs.Lesson.ArtifactKeys
import SourceTutor.Proofs.Lesson.Grouping

/-!
# What is found

A file below the directory of an index is found if and only if it is an artifact (`Index.IsArtifact`):
it lies in a directory of the right name that can be opened, and what its own name reads as ends in
the suffix of a question, the first such question counting. Of two findings the later one takes the
place of the other exactly when they lie in one directory and their names read alike
(`Index.FoundAt.replaces_iff`).
-/

set_option autoImplicit false

namespace SourceTutor.Lesson

open FileTree

namespace Index

variable {f later : Finding} {t : FileTree} {root : Path} {outputDir name other stem label : String}
  {questions : List Question} {question : Question} {directory dirs names : Key}
  {place first : Nat}

/-! ## The question of a name -/

theorem dropEnding?_eq_some {s ending : String} :
    dropEnding? s ending = some stem ↔ s = stem ++ ending := by
  rw [dropEnding?, endsWith]
  constructor
  · intro h
    split at h
    · rename_i hends
      obtain ⟨before, hbefore⟩ := List.isSuffixOf_iff_suffix.mp hends
      obtain rfl := Option.some.inj h
      refine String.toList_injective ?_
      rw [String.toList_append, String.toList_ofList, ← hbefore]
      simp
    · cases h
  · rintro rfl
    rw [if_pos (List.isSuffixOf_iff_suffix.mpr ⟨stem.toList, by simp⟩)]
    simp

theorem endsWith_iff {s ending : String} :
    endsWith s ending = true ↔ ∃ stem, s = stem ++ ending := by
  constructor
  · intro h
    have hdrop : dropEnding? s ending = some _ := if_pos h
    exact ⟨_, dropEnding?_eq_some.mp hdrop⟩
  · rintro ⟨stem, rfl⟩
    exact List.isSuffixOf_iff_suffix.mpr ⟨stem.toList, by simp⟩

theorem dropEnding?_eq_none {s ending : String} :
    dropEnding? s ending = none ↔ endsWith s ending = false := by
  rw [dropEnding?]
  split <;> simp_all

/-- The question that is found, and what stands before its suffix. -/
theorem questionOf?_eq_some (h : questionOf? name first questions = some (place, label, stem)) :
    ∃ question, questions.find? (fun other => endsWith name other.suffix) = some question ∧
      first ≤ place ∧ questions[place - first]? = some question ∧ label = question.label ∧
      name = stem ++ question.suffix := by
  induction questions generalizing first with
  | nil => cases h
  | cons other rest ih =>
      rw [questionOf?] at h
      cases hdrop : dropEnding? name other.suffix with
      | some stem' =>
          rw [hdrop] at h
          cases h
          have hname := dropEnding?_eq_some.mp hdrop
          have hends : endsWith name other.suffix = true := endsWith_iff.mpr ⟨_, hname⟩
          exact ⟨other, by simp [hends], Nat.le_refl _, by simp, rfl, hname⟩
      | none =>
          rw [hdrop] at h
          obtain ⟨question, hfind, hle, hget, hrest⟩ := ih h
          have hends := dropEnding?_eq_none.mp hdrop
          have hindex : place - first = place - (first + 1) + 1 := by omega
          refine ⟨question, by simp [hends, hfind], by omega, ?_, hrest⟩
          rw [hindex, List.getElem?_cons_succ, hget]

/-- A name that ends in the suffix of a question has one. -/
theorem exists_questionOf? (first : Nat)
    (h : questions.find? (fun other => endsWith name other.suffix) = some question) :
    ∃ place stem, questionOf? name first questions = some (place, question.label, stem) ∧
      name = stem ++ question.suffix := by
  induction questions generalizing first with
  | nil => cases h
  | cons other rest ih =>
      rw [questionOf?]
      cases hends : endsWith name other.suffix with
      | true =>
          rw [List.find?_cons, hends] at h
          obtain rfl := Option.some.inj h
          obtain ⟨stem, hname⟩ := endsWith_iff.mp hends
          exact ⟨first, stem, by rw [dropEnding?_eq_some.mpr hname], hname⟩
      | false =>
          rw [List.find?_cons, hends] at h
          rw [dropEnding?_eq_none.mpr hends]
          exact ih (first + 1) h

/-- The question of an artifact is the one whose suffix it has. -/
theorem find?_suffix (hquestions : Question.Apart questions) (hquestion : question ∈ questions)
    (stem : String) :
    questions.find? (fun asked => endsWith (stem ++ question.suffix) asked.suffix) =
      some question := by
  cases hfind : questions.find? fun asked => endsWith (stem ++ question.suffix) asked.suffix with
  | none =>
      have hends : endsWith (stem ++ question.suffix) question.suffix = true :=
        endsWith_iff.mpr ⟨stem, rfl⟩
      exact absurd hends (List.find?_eq_none.mp hfind question hquestion)
  | some asked =>
      have hends : endsWith (stem ++ question.suffix) asked.suffix = true := by
        simpa using List.find?_some hfind
      obtain ⟨stem', hname⟩ := endsWith_iff.mp hends
      have hasked := List.mem_of_find?_eq_some hfind
      rw [(hquestions.apart _ hquestion _ hasked _ _ hname).2]

/-! ## Artifacts -/

/-- A regular file below the directory of the index is an artifact of this question: it lies in a
directory of the right name, which can be opened, and this is the first question whose suffix ends
what its own name reads as. -/
structure IsArtifact (t : FileTree) (root : Path) (outputDir : String) (questions : List Question)
    (directory : Key) (name : String) (question : Question) : Prop where
  below : Key.isOutside (directory ++ [name]) = false
  file : ∃ bytes, t.get? (root.key ++ (directory ++ [name])) = some (.file bytes)
  opens : opens root directory = true
  beside : (root.descend (directory ++ [name])).parent?.bind Path.fileName? = some outputDir
  text : FileName.isText outputDir = true
  question :
    questions.find? (fun asked => endsWith (FileName.text name) asked.suffix) = some question

/-- A file in a directory of the right name, named as an artifact is, is one. -/
theorem isArtifact_of_plain (hquestions : Question.Apart questions)
    (hquestion : question ∈ questions) (hdirs : ∀ next ∈ dirs, Path.IsPlain next)
    (houtput : Path.IsPlain outputDir) (hname : Path.IsPlain (stem ++ question.suffix))
    (hopens : FileTree.opens root (dirs ++ [outputDir]) = true) {bytes : ByteArray}
    (hget : t.get? (root.key ++ (dirs ++ [outputDir, stem ++ question.suffix])) =
      some (.file bytes)) :
    IsArtifact t root outputDir questions (dirs ++ [outputDir]) (stem ++ question.suffix)
      question := by
  obtain ⟨above, habove⟩ := root.exists_front hdirs
  have hfile := habove outputDir [stem ++ question.suffix] houtput
  have hparent := Path.parent?_of_two hfile houtput.1 hname.1
  have hconcat : dirs ++ [outputDir] ++ [stem ++ question.suffix] =
      dirs ++ [outputDir, stem ++ question.suffix] := by simp
  refine ⟨?_, ⟨bytes, hconcat ▸ hget⟩, hopens, ?_, FileName.isText_iff.mpr houtput.2, ?_⟩
  · cases dirs with
    | nil => exact isOutside_of_plain houtput
    | cons next dirs => exact isOutside_of_plain (hdirs next List.mem_cons_self)
  · rw [hconcat, hparent, Option.bind_some]
    exact Path.fileName?_concat rfl houtput.1
  · rw [FileName.text_of_not_mem hname.2]
    exact find?_suffix hquestions hquestion stem

/-! ## Findings -/

/-- The finding is that of the file with this name in its directory, and it knows the question. -/
structure FoundAt (questions : List Question) (f : Finding) (name : String) (question : Question) :
    Prop where
  names : f.names = f.directory ++ [name]
  asked : questionOf? (FileName.text name) 0 questions = some (f.question, f.label, f.stem)
  place : questions[f.question]? = some question
  label : f.label = question.label
  text : FileName.text name = f.stem ++ question.suffix

theorem FoundAt.link (h : FoundAt questions f name question) :
    f.link = ⟨f.directory ++ [name]⟩ := by
  rw [Finding.link, h.names, if_neg (by simp)]

/-- **Findings take each other's places** when they lie in one directory and read alike. -/
theorem FoundAt.replaces_iff {asked : Question} (h : FoundAt questions f name question)
    (h' : FoundAt questions later other asked) :
    later.Replaces f ↔
      later.directory = f.directory ∧ FileName.text other = FileName.text name := by
  rw [Finding.Replaces, Finding.key, Finding.key, Prod.mk.injEq]
  constructor
  · rintro ⟨⟨hdirectory, hstem⟩, hplace⟩
    have hasked := h'.place
    rw [hplace, h.place] at hasked
    obtain rfl := Option.some.inj hasked
    exact ⟨hdirectory, by rw [h'.text, h.text, hstem]⟩
  · rintro ⟨hdirectory, htext⟩
    have hasked := h'.asked
    rw [htext, h.asked] at hasked
    obtain ⟨hplace, hrest⟩ := Prod.mk.inj (Option.some.inj hasked)
    exact ⟨⟨hdirectory, (Prod.mk.inj hrest).2.symm⟩, hplace.symm⟩

/-- What is known of a finding: its directory has the right name, and its own name is that of an
artifact. -/
theorem finding?_eq_some (h : finding? root outputDir questions names = some f) :
    ∃ name, (if names.isEmpty then root.fileName? else names.getLast?) = some name ∧
      (root.descend names).parent? = some f.path ∧ f.path.fileName? = some outputDir ∧
      FileName.isText outputDir = true ∧
      questionOf? (FileName.text name) 0 questions = some (f.question, f.label, f.stem) ∧
      f.directory = names.dropLast ∧ f.names = names := by
  simp only [finding?, Option.bind_eq_bind] at h
  -- the name is that of the root if nothing leads to the file
  split at h
  all_goals
    rename_i hempty
    obtain ⟨name, hname, h⟩ := Option.bind_eq_some_iff.mp h
    obtain ⟨path, hpath, h⟩ := Option.bind_eq_some_iff.mp h
    split at h
    · cases h
    · rename_i hno
      simp only [Bool.or_eq_true, bne_iff_ne, ne_eq, Bool.not_eq_true', not_or, not_not,
        Bool.not_eq_false] at hno
      obtain ⟨⟨place, label, stem⟩, hasked, h⟩ := Option.bind_eq_some_iff.mp h
      cases h
      exact ⟨name, by simpa [hempty] using hname, hpath, hno.1, hno.2, hasked, rfl, rfl⟩

/-- What is found at a file. -/
theorem of_finding? (h : finding? root outputDir questions (directory ++ [name]) = some f) :
    f.directory = directory ∧ (root.descend (directory ++ [name])).parent? = some f.path ∧
      f.path.fileName? = some outputDir ∧ FileName.isText outputDir = true ∧
      ∃ question, FoundAt questions f name question ∧
        questions.find? (fun asked => endsWith (FileName.text name) asked.suffix) =
          some question := by
  obtain ⟨last, hlast, hpath, hdir, htext, hasked, hdirectory, hnames⟩ := finding?_eq_some h
  rw [List.dropLast_concat] at hdirectory
  rw [if_neg (by simp), List.getLast?_concat] at hlast
  obtain rfl := Option.some.inj hlast
  obtain ⟨question, hfind, -, hplace, hlabel, hname⟩ := questionOf?_eq_some hasked
  exact ⟨hdirectory, hpath, hdir, htext, question,
    ⟨hdirectory ▸ hnames, hasked, hplace, hlabel, hname⟩, hfind⟩

/-- An artifact has a finding. -/
theorem IsArtifact.exists_finding?
    (h : IsArtifact t root outputDir questions directory name question) :
    ∃ f, finding? root outputDir questions (directory ++ [name]) = some f ∧
      f.directory = directory ∧ FoundAt questions f name question := by
  obtain ⟨path, hpath, hname⟩ := Option.bind_eq_some_iff.mp h.beside
  obtain ⟨place, stem, hasked, -⟩ := exists_questionOf? 0 h.question
  have hf : finding? root outputDir questions (directory ++ [name]) =
      some ⟨directory, path, stem, place, question.label, directory ++ [name]⟩ := by
    simp [finding?, hpath, hname, hasked, h.text]
  obtain ⟨hdirectory, -, -, -, asked, hfound, hfind⟩ := of_finding? hf
  obtain rfl := Option.some.inj (h.question.symm.trans hfind)
  exact ⟨_, hf, hdirectory, hfound⟩

variable (ht : t.LinkFree) (hroot : t.isDirectory root = true)

include ht hroot

/-- The findings are those at the files of the tree. -/
theorem mem_findings : f ∈ findings t root outputDir questions ↔
    ∃ directory name bytes, Key.isOutside (directory ++ [name]) = false ∧
      (root.key ++ (directory ++ [name]), .file bytes) ∈ t.nodes ∧
      FileTree.opens root directory = true ∧
      finding? root outputDir questions (directory ++ [name]) = some f := by
  rw [findings, ht.filesBelow_eq hroot, List.mem_filterMap]
  constructor
  · rintro ⟨names, hnames, hf⟩
    obtain ⟨hlisted, hopens⟩ := mem_accessible.mp hnames
    obtain ⟨head, rest, bytes, rfl, hinside, hmem⟩ := mem_regularBelow.mp hlisted
    have hlast := (List.dropLast_concat_getLast (List.cons_ne_nil head rest)).symm
    generalize (head :: rest).dropLast = directory at hopens hlast
    generalize (head :: rest).getLast (List.cons_ne_nil head rest) = name at hlast
    refine ⟨directory, name, bytes, ?_, hlast ▸ hmem, hopens, hlast ▸ hf⟩
    rw [← hlast]
    exact hinside
  · rintro ⟨directory, name, bytes, hinside, hmem, hopens, hf⟩
    obtain ⟨head, rest, hcons⟩ := List.exists_cons_of_ne_nil (l := directory ++ [name]) (by simp)
    refine ⟨directory ++ [name], mem_accessible.mpr ⟨?_, ?_⟩, hf⟩
    · refine mem_regularBelow.mpr ⟨head, rest, bytes, hcons, ?_, hmem⟩
      rw [hcons] at hinside
      exact hinside
    · rwa [List.dropLast_concat]

/-- **An artifact is found.** -/
theorem IsArtifact.mem_findings (h : IsArtifact t root outputDir questions directory name question)
    (hf : finding? root outputDir questions (directory ++ [name]) = some f) :
    f ∈ findings t root outputDir questions := by
  obtain ⟨bytes, hget⟩ := h.file
  rw [get?, if_neg (by simp)] at hget
  exact (Index.mem_findings ht hroot).mpr
    ⟨directory, name, bytes, h.below, mem_of_lookup hget, h.opens, hf⟩

end Index

end SourceTutor.Lesson
