import Mathlib.Data.List.Find
import SourceTutor.Proofs.FileTree.Growing
import SourceTutor.Proofs.Lesson.Arranging

/-!
# An index that is built again

An index is written beside what it lists: its file is no artifact of the standard questions
(`Index.findings_write`), so that the same is found afterwards. But the file may be taken for the
source of an artifact, when the rules accept its extension and the artifact is named after it; then
the next index differs (`Index.build_write_ne`). Otherwise it is the same.

An index does not list what it cannot tell apart or come to: of the artifacts of a directory whose
names read alike only the last one is linked to, and none in a directory that cannot be opened
(`Index.not_indexed_once`).
-/

set_option autoImplicit false

namespace SourceTutor

open FileTree

namespace FileTree

variable {t t' : FileTree} {p q : Path} {bytes : ByteArray}

/-- Without links a file that is written is one for the paths to its own key only. -/
theorem LinkFree.isFile_write (ht : t.LinkFree) (h : t.write p bytes = .ok t')
    (hq : t.isFile p = true ∨ q.key ≠ p.key) : t'.isFile q = t.isFile q := by
  obtain ⟨hgrows, hways⟩ := grows_of_write h
  rw [Bool.eq_iff_iff]
  refine ⟨fun hfile => ?_, hgrows.isFile⟩
  obtain ⟨key, new, hfound, hget⟩ := isFile_iff_finds.mp hfile
  have hfound' := hways.findsAt_iff.mp hfound
  obtain rfl := ht.key_of_findsAt hfound'
  by_cases heq : q.key = p.key
  · obtain ⟨key', old, hplace, hold⟩ := isFile_iff_finds.mp (hq.resolve_right (not_not.mpr heq))
    rw [ht.key_of_findsAt hplace, ← heq] at hold
    exact isFile_iff_finds.mpr ⟨_, old, hfound', hold⟩
  · rw [(ht.of_write h).2, get?_insert_of_ne heq] at hget
    exact isFile_iff_finds.mpr ⟨_, new, hfound', hget⟩

end FileTree

namespace Lesson

namespace Index

variable {t t' : FileTree} {root p : Path} {outputDir date : String} {names : Key} {key : Key}
  {questions : List Question} {question : Question} {rules : EligibilityRules}

/-! ## The file of an index -/

/-- How the file of an index is named. -/
theorem segments_path (root : Path) (outputDir : String) :
    ∃ dir name, (path root outputDir).segments = dir ++ [name ++ "_index.md"] :=
  root.segments_child_append outputDir (by decide)

theorem key_path (root : Path) (outputDir : String) :
    ∃ dir name, (path root outputDir).key = dir ++ [name ++ "_index.md"] := by
  obtain ⟨dir, name, hsegments⟩ := segments_path root outputDir
  have hname : Path.IsName (name ++ "_index.md") := Path.isName_of_length (by simp)
  exact ⟨_, name, Path.key_concat hsegments hname⟩

/-- No artifact is named like an index. -/
theorem append_index_ne (hquestion : question ∈ Question.standard) (name stem : String) :
    name ++ "_index.md" ≠ stem ++ question.suffix := by
  intro heq
  have htext := congrArg String.toList heq
  rw [String.toList_append, String.toList_append] at htext
  have hsuffix : ∀ other ∈ Question.standard,
      "_index.md".toList.length ≤ other.suffix.toList.length ∧
        ¬ "_index.md".toList <:+ other.suffix.toList := by decide
  obtain ⟨hlength, hno⟩ := hsuffix question hquestion
  have hindex : "_index.md".toList <:+ stem.toList ++ question.suffix.toList :=
    ⟨name.toList, htext⟩
  exact hno (List.suffix_of_suffix_length_le hindex (List.suffix_append _ _) hlength)

/-- **Nothing is found at an index.** -/
theorem finding?_path (h : root.key ++ names = (path root outputDir).key) (hne : names ≠ []) :
    finding? root outputDir Question.standard names = none := by
  obtain ⟨directory, last, rfl⟩ : ∃ directory last, names = directory ++ [last] :=
    ⟨_, _, (List.dropLast_concat_getLast hne).symm⟩
  cases hfinding : finding? root outputDir Question.standard (directory ++ [last]) with
  | none => rfl
  | some f =>
      obtain ⟨-, -, -, htext, question, hfound, hfind⟩ := of_finding? hfinding
      have hslash : '/' ∉ (outputDir ++ "_index.md").toList := by
        rw [String.toList_append, List.mem_append, not_or]
        exact ⟨FileName.isText_iff.mp htext, by decide⟩
      have hname : Path.IsName (outputDir ++ "_index.md") := Path.isName_of_length (by simp)
      rw [path, Path.key_child _ hname hslash, ← List.append_assoc] at h
      obtain ⟨-, rfl⟩ := List.append_singleton_inj.mp h
      have hread := hfound.text
      rw [FileName.text_of_not_mem hslash] at hread
      exact absurd hread (append_index_ne (List.mem_of_find?_eq_some hfind) _ _)

/-! ## What is found and looked for -/

/-- What is found needs no files at the key of the index. -/
theorem filterMap_accessible (t : FileTree) (root : Path) (outputDir : String) :
    (accessible root (t.regularBelow root.key)).filterMap
        (finding? root outputDir Question.standard) =
      (accessible root ((t.regularBelow root.key).filter fun names =>
        root.key ++ names != (path root outputDir).key)).filterMap
          (finding? root outputDir Question.standard) := by
  rw [accessible, accessible, List.filterMap_filter, List.filter_filter, List.filterMap_filter]
  apply List.filterMap_congr
  intro names hnames
  obtain ⟨head, rest, -, rfl, -⟩ := mem_regularBelow.mp hnames
  by_cases heq : root.key ++ (head :: rest) = (path root outputDir).key
  · simp [heq, finding?_path heq (List.cons_ne_nil _ _)]
  · simp [heq]

/-- What is found is the same after an index has been written. -/
theorem findings_write (ht : t.LinkFree) (hroot : t.isDirectory root = true) {bytes : ByteArray}
    (h : t.write (path root outputDir) bytes = .ok t') :
    findings t' root outputDir Question.standard = findings t root outputDir Question.standard := by
  have hframe := ht.write h
  have hroot' : t'.isDirectory root = true := ht.isDirectory_congr hframe.directory hroot
  have hmade := (ht.of_write h).2
  rw [findings, findings, hframe.linkFree.filesBelow_eq hroot', ht.filesBelow_eq hroot,
    filterMap_accessible t', filterMap_accessible t, hmade, filter_regularBelow_insert]

/-- The source of an artifact is looked for at this key: beside the directory of the artifact, by
its stem and an extension of the rules. -/
def Seeks (t : FileTree) (root : Path) (outputDir : String) (questions : List Question)
    (rules : EligibilityRules) (key : Key) : Prop :=
  ∃ f ∈ findings t root outputDir questions, ∃ extension ∈ rules.extensions,
    ((f.path.parent?.getD root).child (f.stem ++ "." ++ extension)).key = key

/-- **An index is built again** as it was, unless its own file is new and is where the source of an
artifact is looked for. -/
theorem build_write (ht : t.LinkFree) (hroot : t.isDirectory root = true) {bytes : ByteArray}
    (h : t.write (path root outputDir) bytes = .ok t')
    (hseeks : t.isFile (path root outputDir) = true ∨
      ¬ Seeks t root outputDir Question.standard rules (path root outputDir).key) :
    build t' root outputDir Question.standard rules =
      build t root outputDir Question.standard rules := by
  have htitle : ∀ g ∈ groups (findings t root outputDir Question.standard),
      title t' root rules g = title t root rules g := by
    intro g hg
    have hsource : g.source? t' root rules = g.source? t root rules := by
      apply List.find?_congr
      intro candidate hcandidate
      obtain ⟨extension, hextension, rfl⟩ := List.mem_map.mp hcandidate
      refine ht.isFile_write h (hseeks.imp_right ?_)
      -- a source at the key of the index would be looked for there
      intro hno hkey
      apply hno
      obtain ⟨f, hfound, hfkey, hpath⟩ := (formed_of_mem_groups hg).path
      obtain ⟨-, hstem⟩ := Prod.mk.inj hfkey
      refine ⟨f, hfound, extension, hextension, ?_⟩
      rw [hpath, hstem]
      exact hkey
    rw [title, title, hsource]
  rw [build, build, findings_write ht hroot h, List.map_congr_left htitle]

/-- With extensions that are names without dots, only `md` can lead to the file of an index. -/
theorem not_seeks_path (t : FileTree) (root : Path) (outputDir : String)
    (questions : List Question) (hrules : ∀ extension ∈ rules.extensions,
      Path.IsPlain extension ∧ '.' ∉ extension.toList ∧ extension ≠ "md") :
    ¬ Seeks t root outputDir questions rules (path root outputDir).key := by
  rintro ⟨f, -, extension, hextension, hkey⟩
  obtain ⟨⟨⟨hempty, -, -⟩, hslash⟩, hdot, hmd⟩ := hrules extension hextension
  have hplain : '/' ∉ ("." ++ extension).toList := by simpa using hslash
  obtain ⟨front, last, hsegments⟩ :=
    (f.path.parent?.getD root).segments_child_append f.stem hplain
  rw [← String.append_assoc, ← String.append_assoc] at hsegments
  have hname : Path.IsName (last ++ "." ++ extension) := Path.isName_append_dot hempty hdot
  obtain ⟨dir, name, hpath⟩ := key_path root outputDir
  rw [Path.key_concat hsegments hname, hpath] at hkey
  obtain ⟨-, heq⟩ := List.append_singleton_inj.mp hkey
  have hindex : name ++ "_index.md" = name ++ "_index" ++ "." ++ "md" := by
    simp [String.append_assoc]
  rw [hindex] at heq
  exact hmd (Path.append_dot_inj hdot (by decide) heq).2

/-- An index is written under its path, as the text that it has at this time. -/
theorem write_eq_ok : write t root outputDir questions rules date = .ok (t', p) ↔
    p = path root outputDir ∧ t.write (path root outputDir)
      ((build t root outputDir questions rules).render date).toUTF8 = .ok t' := by
  unfold write
  dsimp only
  split
  next made hmade =>
    rw [hmade]
    simp [and_comm, eq_comm]
  next e hfault =>
    rw [hfault]
    simp

/-- **An index lists every artifact once and in order**, and writing it changes its own file only.
The index that is built afterwards is the same if the file was there before, or if it is not where
the source of an artifact is looked for. -/
theorem artifacts_indexed_once (ht : Plain t root) (outputDir : String)
    (rules : EligibilityRules) (date : String) :
    (∀ questions, (build t root outputDir questions rules).Faithful t root outputDir questions
      rules) ∧
    ∀ t' p, write t root outputDir Question.standard rules date = .ok (t', p) →
      p = path root outputDir ∧ (∀ key, key ≠ p.key → t'.get? key = t.get? key) ∧
      ((t.isFile p = true ∨ ¬ Seeks t root outputDir Question.standard rules p.key) →
        build t' root outputDir Question.standard rules =
          build t root outputDir Question.standard rules) ∧
      ((∀ extension ∈ rules.extensions,
          Path.IsPlain extension ∧ '.' ∉ extension.toList ∧ extension ≠ "md") →
        build t' root outputDir Question.standard rules =
          build t root outputDir Question.standard rules) := by
  constructor
  · intro questions
    exact faithful_build ht outputDir questions rules
  intro t' p h
  obtain ⟨rfl, hmade⟩ := write_eq_ok.mp h
  have hsame : t.isFile (path root outputDir) = true ∨
      ¬ Seeks t root outputDir Question.standard rules (path root outputDir).key →
        build t' root outputDir Question.standard rules =
          build t root outputDir Question.standard rules :=
    build_write ht.linkFree ht.isDirectory hmade
  refine ⟨rfl, ?_, hsame, ?_⟩
  · intro key hkey
    rw [(ht.linkFree.of_write hmade).2, get?_insert_of_ne hkey]
  · intro hrules
    exact hsame (.inr (not_seeks_path t root outputDir Question.standard hrules))

/-- The extensions of the standard rules are names without dots. -/
theorem plain_standard : ∀ extension ∈ EligibilityRules.standard.extensions,
    Path.IsPlain extension ∧ '.' ∉ extension.toList ∧ extension ≠ "md" := by
  simp +decide [EligibilityRules.standard, Path.IsPlain, Path.IsName]

/-! ### An index of one artifact -/

/-- A source file, and an artifact about it. -/
def shelf : FileTree :=
  ⟨[(["a.c"], .file .empty), (["docs"], .directory), (["docs", "a_overview.md"], .file .empty)]⟩

theorem plain_shelf : Plain shelf ⟨["."]⟩ :=
  ⟨linkFree_of_nodes (by simp [shelf]), by simp [Distinct, shelf], isDirectory_top _⟩

theorem named_shelf : shelf.Named :=
  named_of_plain (by simp +decide [shelf, Path.IsPlain, Path.IsName])

theorem isArtifact_shelf :
    IsArtifact shelf ⟨["."]⟩ "docs" Question.standard ["docs"] "a_overview.md" .overview := by
  refine ⟨by decide, ⟨.empty, by decide⟩, by decide, by decide, by decide, ?_⟩
  rw [FileName.text_of_not_mem (by decide)]
  exact List.find?_cons_of_pos (by decide)

/-- There is room for an index in the working directory. -/
theorem hasRoom_index {t : FileTree} (hfree : t.get? ["docs_index.md"] = none) :
    t.HasRoom (path ⟨["."]⟩ "docs") ["docs_index.md"] := by
  have hpath : path ⟨["."]⟩ "docs" = ⟨["."] ++ ["docs_index.md"]⟩ := by decide
  rw [hpath]
  exact ⟨writable_of_none hfree, ["."], "docs_index.md", rfl, Path.isName_of_length (by decide),
    by decide, by decide, linkBudget, [], .stay .here, rfl⟩

/-- The index of the working directory is written where there is room for it. -/
theorem write_docs {t : FileTree} (hfree : t.get? ["docs_index.md"] = none)
    (rules : EligibilityRules) (date : String) :
    write t ⟨["."]⟩ "docs" Question.standard rules date = .ok (t.insert ["docs_index.md"]
      (.file ((build t ⟨["."]⟩ "docs" Question.standard rules).render date).toUTF8),
      path ⟨["."]⟩ "docs") := by
  exact write_eq_ok.mpr ⟨rfl, (hasRoom_index hfree).write_eq _⟩

/-- The index of the shelf, which is the same after it has been written. -/
theorem artifacts_indexed_once_shelf :
    Plain shelf ⟨["."]⟩ ∧
      (∃ t', write shelf ⟨["."]⟩ "docs" Question.standard .standard "today" =
          .ok (t', path ⟨["."]⟩ "docs") ∧
        build t' ⟨["."]⟩ "docs" Question.standard .standard =
          build shelf ⟨["."]⟩ "docs" Question.standard .standard) ∧
      (Question.overview.label, ⟨["docs", "a_overview.md"]⟩) ∈
        (build shelf ⟨["."]⟩ "docs" Question.standard .standard).links := by
  have hwrite := write_docs (t := shelf) (by decide) .standard "today"
  obtain ⟨hfaithful, hwritten⟩ := artifacts_indexed_once plain_shelf "docs" .standard "today"
  refine ⟨plain_shelf, ⟨_, hwrite, ?_⟩, ?_⟩
  · exact (hwritten _ _ hwrite).2.2.2 plain_standard
  · exact ((hfaithful Question.standard).lists _ _).mpr ⟨["docs"], "a_overview.md", .overview,
      isArtifact_shelf, isArtifact_shelf.isLast named_shelf, rfl, rfl⟩

/-! ### An index that is taken for a source -/

/-- An artifact whose source is named like the index of its directory. -/
def notes : FileTree :=
  ⟨[(["docs"], .directory), (["docs", "docs_index_overview.md"], .file .empty)]⟩

theorem plain_notes : Plain notes ⟨["."]⟩ :=
  ⟨linkFree_of_nodes (by simp [notes]), by simp [Distinct, notes], isDirectory_top _⟩

/-- What is found among the notes. -/
theorem findings_notes : findings notes ⟨["."]⟩ "docs" Question.standard =
    [⟨["docs"], ⟨[".", "docs"]⟩, "docs_index", 0, Question.overview.label,
      ["docs", "docs_index_overview.md"]⟩] := by
  have hbelow : notes.regularBelow [] = [["docs", "docs_index_overview.md"]] := by
    simp +decide [regularBelow, notes, isRegular, namesBelow?]
  have hkey : (⟨["."]⟩ : Path).key = [] := by decide
  rw [findings, plain_notes.linkFree.filesBelow_eq plain_notes.isDirectory, hkey, hbelow]
  rfl

/-- Rules that accept texts in Markdown. -/
def markdownRules : EligibilityRules := ⟨["md"], []⟩

/-- The only section of the notes is that of the file named like the source, if it is there. -/
theorem languages_notes {t : FileTree} (hfound : findings t ⟨["."]⟩ "docs" Question.standard =
      findings notes ⟨["."]⟩ "docs" Question.standard) :
    (build t ⟨["."]⟩ "docs" Question.standard markdownRules).sections.map IndexSection.language =
      [if t.isFile (path ⟨["."]⟩ "docs") then languageOf (path ⟨["."]⟩ "docs") else "C"] := by
  have hsource : ∀ g : Group, g.path = ⟨[".", "docs"]⟩ → g.stem = "docs_index" →
      g.source? t ⟨["."]⟩ markdownRules =
        if t.isFile (path ⟨["."]⟩ "docs") then some (path ⟨["."]⟩ "docs") else none := by
    intro g hpath hstem
    have hcandidate : (g.path.parent?.getD ⟨["."]⟩).child (g.stem ++ "." ++ "md") =
        path ⟨["."]⟩ "docs" := by
      rw [hpath, hstem]
      decide
    simp only [Group.source?, markdownRules, List.map_cons, List.map_nil, hcandidate,
      List.find?_singleton]
  rw [findings_notes] at hfound
  rw [build_of_findings_singleton hfound rfl, title, hsource _ rfl rfl]
  cases t.isFile (path ⟨["."]⟩ "docs") <;> rfl

/-- **An index is not always built again as it was**: what was an artifact without a source has the
written index for its source afterwards. -/
theorem build_write_ne :
    Plain notes ⟨["."]⟩ ∧ ∃ t', write notes ⟨["."]⟩ "docs" Question.standard markdownRules "today" =
        .ok (t', path ⟨["."]⟩ "docs") ∧
      build t' ⟨["."]⟩ "docs" Question.standard markdownRules ≠
        build notes ⟨["."]⟩ "docs" Question.standard markdownRules := by
  have hfree : notes.get? ["docs_index.md"] = none := by decide
  have hroom := hasRoom_index hfree
  refine ⟨plain_notes, _, write_docs hfree markdownRules "today", fun hsame => ?_⟩
  have hwritten := hroom.write_eq
    ((build notes ⟨["."]⟩ "docs" Question.standard markdownRules).render "today").toUTF8
  have hlanguages := congrArg (fun index => index.sections.map IndexSection.language) hsame
  have hfile := isFile_iff_read.mpr ⟨_, read_written hwritten⟩
  have hfound := findings_write plain_notes.linkFree plain_notes.isDirectory hwritten
  rw [languages_notes rfl, hroom.isFile_eq_false hfree, languages_notes hfound,
    if_pos hfile] at hlanguages
  exact absurd hlanguages (by decide)

/-! ### Two artifacts that read alike -/

/-- Two artifacts whose names differ in a byte that belongs to no character. -/
def alike : FileTree :=
  ⟨[(["docs"], .directory), (["docs", "/þ_overview.md"], .file .empty),
    (["docs", "/ÿ_overview.md"], .file .empty)]⟩

theorem plain_alike : Plain alike ⟨["."]⟩ :=
  ⟨linkFree_of_nodes (by simp [alike]), by simp +decide [Distinct], isDirectory_top _⟩

/-- The link in question, if there is one, is that of an artifact which is the last to read as it
does. -/
theorem isLast_of_link {t : FileTree} (ht : Plain t root) {directory : Key} {name label : String}
    (h : (label, ⟨directory ++ [name]⟩) ∈
      (build t root outputDir questions rules).links) :
    (∃ question, IsArtifact t root outputDir questions directory name question) ∧
      IsLast t root outputDir questions directory name := by
  obtain ⟨directory', name', question, hartifact, hlast, -, hpath⟩ := (lists_build ht _ _).mp h
  obtain ⟨rfl, rfl⟩ := List.append_singleton_inj.mp ((Path.mk.injEq _ _).mp hpath)
  exact ⟨⟨question, hartifact⟩, hlast⟩

theorem isArtifact_alike {name : String} (hbelow : Key.isOutside ["docs", name] = false)
    (hget : alike.get? ["docs", name] = some (.file .empty))
    (hbeside : (Path.descend ⟨["."]⟩ ["docs", name]).parent?.bind Path.fileName? = some "docs")
    (htext : FileName.text name = "\uFFFD" ++ Question.overview.suffix) :
    IsArtifact alike ⟨["."]⟩ "docs" Question.standard ["docs"] name .overview := by
  refine ⟨hbelow, ⟨.empty, hget⟩, by decide, hbeside, by decide, ?_⟩
  rw [htext]
  exact find?_suffix Question.apart_standard List.mem_cons_self _

/-- The first of the two is an artifact, and the index does not link to it. -/
theorem not_linked_alike :
    IsArtifact alike ⟨["."]⟩ "docs" Question.standard ["docs"] "/þ_overview.md" .overview ∧
      ∀ label, (label, ⟨["docs"] ++ ["/þ_overview.md"]⟩) ∉
        (build alike ⟨["."]⟩ "docs" Question.standard .standard).links := by
  have hfirst : FileName.text "/þ_overview.md" = "\uFFFD" ++ Question.overview.suffix := by decide
  have hsecond : FileName.text "/ÿ_overview.md" = "\uFFFD" ++ Question.overview.suffix := by decide
  refine ⟨isArtifact_alike (by decide) (by decide) (by decide) hfirst, fun label hlink => ?_⟩
  have hother := isArtifact_alike (by decide) (by decide) (by decide) hsecond
  have hne : "/ÿ_overview.md" ≠ "/þ_overview.md" := by decide
  have hlater : ¬ FileName.before "/ÿ_overview.md" "/þ_overview.md" = true := by decide
  obtain ⟨-, hlast⟩ := isLast_of_link plain_alike hlink
  exact hlater (hlast _ _ hother (hsecond.trans hfirst.symm) hne)

/-! ### A directory that cannot be opened -/

/-- A long path that leads nowhere. -/
def dots (n : Nat) : Path := ⟨List.replicate (n + 1) "."⟩

theorem bytes_dots (n : Nat) :
    (dots n).bytes = 0x2E :: (List.replicate n [0x2F, 0x2E]).flatten := by
  induction n with
  | zero => decide
  | succ n ih =>
      have happend : Path.bytes ⟨["."] ++ List.replicate (n + 1) "."⟩ =
          Path.bytes ⟨["."]⟩ ++ 0x2F :: Path.bytes ⟨List.replicate (n + 1) "."⟩ :=
        Path.bytes_append (by simp) (by simp)
      rw [dots] at ih
      rw [dots, List.replicate_succ, ← List.singleton_append, happend, ih]
      rfl

theorem fault?_dots {n : Nat} (hn : 2 * n + 1 < longestPath) : (dots n).fault? = none := by
  rw [Path.fault?_eq_none, bytes_dots]
  refine ⟨by simp, List.cons_ne_nil _ _, ?_⟩
  simp
  omega

theorem walkFrom_dots (t : FileTree) (aim : Aim) (links n : Nat) :
    t.walkFrom aim links [] (List.replicate n ".") = .ok (.taken [] .directory) := by
  induction n with
  | zero => simp [walkFrom]
  | succ n ih => rw [List.replicate_succ, walkFrom, ih]

theorem isDirectory_dots (t : FileTree) {n : Nat} (hn : 2 * n + 1 < longestPath) :
    t.isDirectory (dots n) = true := by
  have hhome : (dots n).home = [] := Path.home_cons "." (List.replicate n ".") (by decide)
  rw [isDirectory, node?, resolve_of_no_fault (fault?_dots hn), hhome, dots, walkFrom_dots]

theorem key_dots (n : Nat) : (dots n).key = [] := by
  have hhome : (dots n).home = [] := Path.home_cons "." (List.replicate n ".") (by decide)
  rw [Path.key, hhome, dots]
  dsimp only
  induction n + 1 with
  | zero => rfl
  | succ n ih => exact ih

/-- Behind many dots a directory is too far away. -/
theorem opens_dots {n : Nat} (hn : longestPath ≤ 2 * n + 6) : opens (dots n) ["docs"] = false := by
  have hend : (dots n).segments.getLast? = some "." :=
    List.getLast?_replicate.trans (if_neg (Nat.succ_ne_zero n))
  have hempty : (dots n).isEmpty = false := by
    rw [Path.isEmpty, dots, List.replicate_succ]
    rfl
  have hdescend : (dots n).descend ["docs"] = ⟨List.replicate (n + 1) "." ++ ["docs"]⟩ := by
    have hjoin : (dots n).descend ["docs"] = (dots n).join ⟨["docs"]⟩ := rfl
    rw [hjoin, Path.join_cons _ ⟨Path.isName_of_length (by decide), by decide⟩, hempty, hend]
    rfl
  have hbytes : (⟨List.replicate (n + 1) "." ++ ["docs"]⟩ : Path).bytes =
      (dots n).bytes ++ 0x2F :: Path.bytes ⟨["docs"]⟩ :=
    Path.bytes_append (by simp) (by simp)
  have hdocs : (Path.bytes ⟨["docs"]⟩).length = 4 := by decide
  -- the dots and the slashes between them, one more slash, and four letters
  rw [← Bool.not_eq_true, opens_iff, hdescend, Path.fault?_eq_none, hbytes, bytes_dots]
  rintro ⟨-, -, hlength⟩
  simp [hdocs] at hlength
  omega

/-- The artifact on the shelf is there, and an index made behind the dots does not link to it. -/
theorem not_linked_dots :
    Plain shelf (dots 2045) ∧
      shelf.get? ((dots 2045).key ++ ["docs", "a_overview.md"]) = some (.file .empty) ∧
      ∀ label, (label, ⟨["docs"] ++ ["a_overview.md"]⟩) ∉
        (build shelf (dots 2045) "docs" Question.standard .standard).links := by
  have hplain : Plain shelf (dots 2045) :=
    ⟨plain_shelf.linkFree, plain_shelf.distinct, isDirectory_dots _ (by decide)⟩
  refine ⟨hplain, by rw [key_dots]; decide, fun label hlink => ?_⟩
  obtain ⟨⟨question, hartifact⟩, -⟩ := isLast_of_link hplain hlink
  have hopens := hartifact.opens
  rw [opens_dots (by decide)] at hopens
  cases hopens

/-- **Not every artifact is linked to, and an index is not always built again as it was**: of two
that read alike only one is listed, a directory that cannot be opened is passed over, and what was
an artifact without a source has the written index for its source afterwards. -/
theorem not_indexed_once :
    (Plain alike ⟨["."]⟩ ∧
      IsArtifact alike ⟨["."]⟩ "docs" Question.standard ["docs"] "/þ_overview.md" .overview ∧
      ∀ label, (label, ⟨["docs"] ++ ["/þ_overview.md"]⟩) ∉
        (build alike ⟨["."]⟩ "docs" Question.standard .standard).links) ∧
    (Plain shelf (dots 2045) ∧
      shelf.get? ((dots 2045).key ++ ["docs", "a_overview.md"]) = some (.file .empty) ∧
      ∀ label, (label, ⟨["docs"] ++ ["a_overview.md"]⟩) ∉
        (build shelf (dots 2045) "docs" Question.standard .standard).links) ∧
    Plain notes ⟨["."]⟩ ∧ ∃ t', write notes ⟨["."]⟩ "docs" Question.standard markdownRules "today" =
        .ok (t', path ⟨["."]⟩ "docs") ∧
      build t' ⟨["."]⟩ "docs" Question.standard markdownRules ≠
        build notes ⟨["."]⟩ "docs" Question.standard markdownRules :=
  ⟨⟨plain_alike, not_linked_alike⟩, not_linked_dots, build_write_ne⟩

end Index

end Lesson

end SourceTutor
