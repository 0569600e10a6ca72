import SourceTutor.Proofs.FileTree.Siblings
import SourceTutor.Proofs.Lesson.Rebuilding

/-!
# The name of a source in an index

An artifact is listed under the name of its source file when the extension of the source is spelled
as in the rules. The rules accept an extension in whatever case, and so does the language, but the
index looks for the source under the spelling of the rules only: a source that is spelled otherwise
is not found, and its artifacts count as C (`Index.entriesOf_source`).
-/

set_option autoImplicit false

namespace SourceTutor.Lesson

open FileTree

/-- Whether an entry has an artifact of this directory and stem. -/
def IndexEntry.explains (entry : IndexEntry) (questions : List Question) (directory : Key)
    (stem : String) : Bool :=
  entry.links.any fun link =>
    questions.any fun question => link.2 == ⟨directory ++ [stem ++ question.suffix]⟩

namespace Index

/-- The entries of an index with the languages of their sections. -/
def labelled (index : Index) : List (String × IndexEntry) :=
  index.sections.flatMap fun s => s.entries.map fun entry => (s.language, entry)

/-- The entries that have an artifact of this directory and stem, with their languages. -/
def entriesOf (index : Index) (questions : List Question) (directory : Key) (stem : String) :
    List (String × IndexEntry) :=
  index.labelled.filter fun x => x.2.explains questions directory stem

variable {t : FileTree} {root source : Path} {outputDir stem : String} {questions : List Question}
  {rules : EligibilityRules} {titled : List Titled} {f : Finding} {g : Group} {directory : Key}

/-! ## One entry for a directory and a stem -/

/-- Languages that have a rank of their own keep their entries. -/
theorem labelled_perm (hrank : ∀ x ∈ titled, ∀ y ∈ titled,
      rank rules x.language = rank rules y.language → x.language = y.language) :
    (labelled ⟨(List.range (rules.extensions.length + 1)).filterMap
      (sectionOf? rules titled)⟩).Perm (titled.map fun x => (x.language, x.entry)) := by
  refine flatMap_sections_perm _ _ fun place s h => ?_
  obtain ⟨-, hplace, ⟨x, hx, hlanguage⟩, hentries⟩ := of_sectionOf? h
  have hsame : ∀ y ∈ titled.filter fun y => rank rules y.language == place,
      s.language = y.language := by
    intro y hy
    obtain ⟨hmem, hy⟩ := List.mem_filter.mp hy
    rw [← hlanguage]
    refine hrank x hx y hmem ?_
    rw [hlanguage, hplace, beq_iff_eq.mp hy]
  rw [hentries, List.map_map]
  refine ((List.mergeSort_perm _ _).map _).trans (.of_eq (List.map_congr_left fun y hy => ?_))
  rw [Function.comp_apply, hsame y hy]

/-- Of groups with keys of their own one has this key. -/
theorem filter_key {gs : List Group} (hnodup : (gs.map Group.key).Nodup) (hg : g ∈ gs) :
    (gs.filter fun other => other.key = g.key) = [g] := by
  induction gs with
  | nil => cases hg
  | cons first gs ih =>
      obtain ⟨hfirst, hgs⟩ := List.nodup_cons.mp hnodup
      have hother : ∀ other ∈ gs, other.key ≠ first.key :=
        fun other hmem heq => hfirst (heq ▸ List.mem_map_of_mem hmem)
      rcases List.mem_cons.mp hg with rfl | hmem
      · rw [List.filter_cons_of_pos (by simp), List.filter_eq_nil_iff.mpr]
        simpa using hother
      · rw [List.filter_cons_of_neg, ih hgs hmem]
        simpa using (hother g hmem).symm

/-- An entry explains the directory and the stem of its group, and no other. -/
theorem explains_title (ht : Plain t root) (hnamed : t.Named)
    (hquestions : Question.Apart questions)
    (hg : g ∈ groups (findings t root outputDir questions)) :
    (title t root rules g).entry.explains questions directory stem = true ↔
      g.key = (directory, stem) := by
  obtain ⟨asked, hne, hsub, hlinks, hall⟩ := links_group ht hg
  -- the name of an artifact is a text, made of the stem and the suffix of a question
  have hasked : ∀ x ∈ asked, x.1 ∈ questions ∧ x.2 = g.stem ++ x.1.suffix := by
    intro x hx
    obtain ⟨hartifact, -, htext⟩ := (hall _ _).mp hx
    rw [FileName.text_of_not_mem (hartifact.not_mem hnamed)] at htext
    exact ⟨hsub.subset (List.mem_map_of_mem hx), htext⟩
  simp only [IndexEntry.explains, links_title, hlinks, List.any_map, List.any_eq_true,
    Function.comp_apply, beq_iff_eq, Path.mk.injEq, List.append_singleton_inj, Group.key,
    Prod.mk.injEq]
  constructor
  · rintro ⟨x, hx, other, hother, hdirectory, hname⟩
    obtain ⟨hquestion, heq⟩ := hasked x hx
    rw [heq] at hname
    exact ⟨hdirectory, (hquestions.apart _ hquestion _ hother _ _ hname).1⟩
  · rintro ⟨rfl, rfl⟩
    obtain ⟨x, rest, rfl⟩ := List.exists_cons_of_ne_nil hne
    obtain ⟨hquestion, heq⟩ := hasked x List.mem_cons_self
    exact ⟨x, List.mem_cons_self, x.1, hquestion, rfl, heq⟩

/-- **One entry explains a group**, in the section of its language. -/
theorem entriesOf_build (ht : Plain t root) (hnamed : t.Named)
    (hquestions : Question.Apart questions)
    (hrank : ∀ g ∈ groups (findings t root outputDir questions),
      ∀ g' ∈ groups (findings t root outputDir questions),
        rank rules (title t root rules g).language = rank rules (title t root rules g').language →
          (title t root rules g).language = (title t root rules g').language)
    (hg : g ∈ groups (findings t root outputDir questions)) :
    (build t root outputDir questions rules).entriesOf questions g.directory g.stem =
      [((title t root rules g).language, (title t root rules g).entry)] := by
  rw [entriesOf, build]
  refine List.perm_singleton.mp (((labelled_perm ?_).filter _).trans (.of_eq ?_))
  · simpa using hrank
  rw [List.map_map, List.filter_map]
  have hfilter : (groups (findings t root outputDir questions)).filter
      ((fun x : String × IndexEntry => x.2.explains questions g.directory g.stem) ∘
        ((fun x : Titled => (x.language, x.entry)) ∘ title t root rules)) =
      (groups (findings t root outputDir questions)).filter fun other => other.key = g.key := by
    apply List.filter_congr
    intro other hother
    rw [Bool.eq_iff_iff]
    simp only [Function.comp_apply, decide_eq_true_eq]
    exact explains_title ht hnamed hquestions hother
  rw [hfilter, filter_key (nodup_groups _) hg]
  rfl

/-! ## The standard rules -/

/-- The names of languages. -/
def languages : List String := ["C", "C++", "Device Tree Source", "Unknown"]

theorem languageOf_mem (p : Path) : languageOf p ∈ languages := by
  rw [languageOf]
  split <;> decide

theorem language_title_mem (g : Group) : (title t root rules g).language ∈ languages := by
  rw [title]
  split
  · dsimp only
    exact languageOf_mem _
  · exact List.mem_cons_self

/-- Under the standard rules every language has its own rank. -/
theorem rank_standard : ∀ language ∈ languages, ∀ other ∈ languages,
    rank .standard language = rank .standard other → language = other := by
  decide

/-- The standard rules spell extensions in lower case. -/
theorem toLowerCase_standard : ∀ extension ∈ EligibilityRules.standard.extensions,
    Text.toLowerCase extension ∈ EligibilityRules.standard.extensions := by
  decide

/-- A file that the rules accept has an extension. -/
theorem exists_extension? (h : rules.accepts source = true) :
    ∃ extension, source.extension? = some extension := by
  rw [EligibilityRules.accepts] at h
  cases hextension : source.extension? with
  | none =>
      rw [hextension] at h
      split at h <;> simp at h
  | some extension => exact ⟨extension, rfl⟩

/-! ## Where a source is looked for -/

/-- No other file of the directory has the stem of the source and an extension that the rules name
in some case. -/
def Alone (t : FileTree) (root source : Path) (rules : EligibilityRules) : Prop :=
  ∀ other ∈ t.listFiles root, other.parent? = source.parent? → other.stem? = source.stem? →
    (∃ extension, other.extension? = some extension ∧
      Text.toLowerCase extension ∈ rules.extensions) → other = source

/-- What is found at a file has the directory of the file for its path. -/
theorem parent?_of_mem_findings (ht : Plain t root)
    (h : f ∈ findings t root outputDir questions) :
    (root.descend f.names).parent? = some f.path := by
  obtain ⟨directory, name, bytes, -, -, -, hf⟩ := (mem_findings ht.linkFree ht.isDirectory).mp h
  obtain ⟨rfl, hparent, -, -, question, hfound, -⟩ := of_finding? hf
  rw [hfound.names]
  exact hparent

/-- A source file below the directory of an index: the directories on the way to it, its name cut at
its last dot, and the segments that stand in front of every name beside it. -/
structure Lies (root source : Path) (dirs : List String) (stem extension : String)
    (front : List String) : Prop where
  plainDirs : ∀ name ∈ dirs, Path.IsPlain name
  plainBase : Path.IsPlain (stem ++ "." ++ extension)
  opens : FileTree.opens root dirs = true
  eq_descend : source = root.descend (dirs ++ [stem ++ "." ++ extension])
  stem_ne : stem ≠ ""
  noDot : '.' ∉ extension.toList
  segments : ∀ name rest, Path.IsPlain name →
    (root.descend (dirs ++ name :: rest)).segments = front ++ name :: rest

/-- A source file that has an extension lies somewhere. -/
theorem exists_lies (ht : Plain t root) (hnamed : t.Named) (hsource : source ∈ t.listFiles root)
    {extension : String} (hextension : source.extension? = some extension) :
    ∃ dirs stem front, Lies root source dirs stem extension front := by
  obtain ⟨names, hnames, rfl⟩ := List.mem_map.mp hsource
  rw [ht.linkFree.filesBelow_eq ht.isDirectory] at hnames
  obtain ⟨hlisted, hopens⟩ := mem_accessible.mp hnames
  obtain ⟨dirs, base, front, rfl, hdirs, hbase, hsegments, -⟩ := hnamed.exists_dirs hlisted
  rw [List.dropLast_concat] at hopens
  rw [Path.extension?, Path.fileName?_concat hsegments hbase.1, Option.bind_some] at hextension
  obtain ⟨hname, hdot, hstem⟩ := Path.cutName_eq_some (Prod.ext rfl hextension)
  obtain ⟨front, hfront⟩ := root.exists_front hdirs
  exact ⟨dirs, _, front, hdirs, hname ▸ hbase, hopens, by rw [← hname], hstem, hdot, hfront⟩

namespace Lies

variable {dirs front : List String} {extension name : String}
  (h : Lies root source dirs stem extension front)

include h

theorem segments_source : source.segments = front ++ [stem ++ "." ++ extension] := by
  rw [h.eq_descend]
  exact h.segments _ [] h.plainBase

theorem fileName?_eq : source.fileName? = some (stem ++ "." ++ extension) :=
  Path.fileName?_concat h.segments_source h.plainBase.1

theorem extension?_eq : source.extension? = some extension := by
  rw [Path.extension?, h.fileName?_eq, Option.bind_some,
    Path.cutName_append_dot h.stem_ne h.noDot]

theorem stem?_eq : source.stem? = some stem := by
  rw [Path.stem?, h.fileName?_eq, Option.map_some, Path.cutName_append_dot h.stem_ne h.noDot]

/-- The key of a name beside the source. -/
theorem key_descend (hname : Path.IsPlain name) :
    (root.descend (dirs ++ [name])).key = root.key ++ (dirs ++ [name]) := by
  refine root.key_descend (List.forall_mem_append.mpr ⟨h.plainDirs, ?_⟩)
  simpa using hname

/-- An artifact about the source. -/
theorem isArtifact (ht : Plain t root) (houtput : Path.IsPlain outputDir)
    (hlength : (root.child outputDir).fault? = none) {question : Question}
    (hquestion : question ∈ Question.standard)
    (hfile : t.isFile (artifactPath source outputDir question.suffix) = true) :
    IsArtifact t root outputDir Question.standard (dirs ++ [outputDir]) (stem ++ question.suffix)
      question := by
  obtain ⟨bytes, hread⟩ := isFile_iff_read.mp hfile
  have hcut := Path.cutName_append_dot h.stem_ne h.noDot
  have hname := isPlain_artifactName h.plainBase hquestion
  obtain ⟨dir, -, hdir, -, hkey⟩ :=
    artifactPath_beside h.segments_source h.plainBase houtput hquestion
  rw [hcut] at hname hkey
  have hsource := h.key_descend h.plainBase
  rw [← h.eq_descend, hdir, ← List.append_assoc] at hsource
  obtain rfl := (List.append_singleton_inj.mp hsource).1
  have hget := (ht.linkFree.of_read hread).2
  rw [hkey, List.append_assoc] at hget
  obtain ⟨key, hok⟩ := resolve_of_read_eq_ok hread
  have hfault := (walkFrom_of_resolve_eq_ok hok).1
  rw [h.eq_descend] at hfault
  exact isArtifact_of_plain Question.apart_standard hquestion h.plainDirs houtput hname
    (opens_artifactDir h.plainDirs h.plainBase houtput hquestion hlength hfault) hget

/-- The group of the artifacts about the source, and the directory in which the source is looked
for. -/
theorem exists_directory (ht : Plain t root) (hnamed : t.Named) (houtput : Path.IsPlain outputDir)
    (hg : g ∈ groups (findings t root outputDir Question.standard))
    (hkey : g.key = (dirs ++ [outputDir], stem)) :
    ∃ above : Path, g.path.parent? = some above ∧ above.key = root.key ++ dirs ∧
      (∀ name, Path.IsPlain name → above.child name = ⟨Path.tidy front ++ [name]⟩) ∧
      ∀ name, Path.IsName name → (⟨front ++ [name]⟩ : Path).parent? = some above := by
  obtain ⟨f, hf, hfkey, hpath⟩ := (formed_of_mem_groups hg).path
  obtain ⟨hdirectory, hstem⟩ := Prod.mk.inj (hfkey.trans hkey)
  obtain ⟨name, question, hfound, hartifact⟩ := of_mem_findings ht hf
  have hplain : Path.IsPlain name := by
    have hartifactName := isPlain_artifactName h.plainBase
      (List.mem_of_find?_eq_some hartifact.question)
    rw [Path.cutName_append_dot h.stem_ne h.noDot] at hartifactName
    have htext := hfound.text
    rw [FileName.text_of_not_mem (hartifact.not_mem hnamed), hstem] at htext
    rwa [htext]
  have hsegments := h.segments outputDir [name] houtput
  have hparent := parent?_of_mem_findings ht hf
  rw [hfound.names, hdirectory, List.append_assoc, List.singleton_append,
    Path.parent?_of_two hsegments houtput.1 hplain.1, hpath] at hparent
  -- the group lies where the artifacts do, and one goes up from there
  obtain ⟨above, habove, hchild⟩ := Path.exists_parent_tidy front
  have hgpath : g.path = root.descend (dirs ++ [outputDir]) := by
    rw [← Option.some.inj hparent]
    exact congrArg Path.mk (h.segments outputDir [] houtput).symm
  obtain ⟨above', habove', hkey'⟩ :=
    Path.exists_parent (h.segments outputDir [] houtput) houtput.1
  have hsame := habove outputDir houtput.1
  rw [Option.some.inj hparent] at hsame
  rw [← hgpath, hsame] at habove'
  obtain rfl := Option.some.inj habove'
  refine ⟨above, hsame, ?_, hchild, habove⟩
  rw [h.key_descend houtput, ← List.append_assoc] at hkey'
  exact (List.append_singleton_inj.mp hkey').1.symm

/-- A name of the same stem with an extension of the rules lies beside the source. -/
theorem beside {other : String} (hother : other ∈ EligibilityRules.standard.extensions) :
    Lies root (root.descend (dirs ++ [stem ++ "." ++ other])) dirs stem other front := by
  obtain ⟨⟨⟨hempty, -, -⟩, hslash⟩, hdot, -⟩ := plain_standard other hother
  refine ⟨h.plainDirs, ⟨Path.isName_append_dot hempty hdot, ?_⟩, h.opens, rfl, h.stem_ne, hdot,
    h.segments⟩
  have hbase := h.plainBase.2
  rw [Path.toList_append_dot, List.mem_append, List.mem_cons, not_or, not_or] at hbase ⊢
  exact ⟨hbase.1, hbase.2.1, hslash⟩

/-- A file at the key of the source is listed. -/
theorem mem_listFiles (ht : Plain t root) {bytes : ByteArray}
    (hget : t.get? (root.key ++ dirs ++ [stem ++ "." ++ extension]) = some (.file bytes)) :
    source ∈ t.listFiles root := by
  have hplain : ∀ next ∈ dirs ++ [stem ++ "." ++ extension], Path.IsPlain next :=
    List.forall_mem_append.mpr ⟨h.plainDirs, by simpa using h.plainBase⟩
  rw [get?, if_neg (by simp), List.append_assoc] at hget
  rw [listFiles, ht.linkFree.filesBelow_eq ht.isDirectory, h.eq_descend]
  refine List.mem_map_of_mem (mem_accessible.mpr ⟨?_, ?_⟩)
  · exact mem_regularBelow_of_plain (by simp) hplain (mem_of_lookup hget)
  · rw [List.dropLast_concat]
    exact h.opens

/-- **The source is the only file that is looked for**, and it is found if its extension is spelled
as in the rules. -/
theorem isFile_child (ht : Plain t root) {above : Path} (habove : above.key = root.key ++ dirs)
    (hchild : ∀ name, Path.IsPlain name → above.child name = ⟨Path.tidy front ++ [name]⟩)
    (hparent : ∀ name, Path.IsName name → (⟨front ++ [name]⟩ : Path).parent? = some above)
    (hfile : t.isFile source = true) (halone : Alone t root source .standard)
    {other : String} (hother : other ∈ EligibilityRules.standard.extensions) :
    t.isFile (above.child (stem ++ "." ++ other)) = (other == extension) := by
  have hbeside := h.beside hother
  rw [Bool.eq_iff_iff, beq_iff_eq]
  constructor
  · intro hfound
    -- what is found is listed beside the source, which is alone there
    obtain ⟨bytes, hread⟩ := isFile_iff_read.mp hfound
    have hget := (ht.linkFree.of_read hread).2
    rw [Path.key_child _ hbeside.plainBase.1 hbeside.plainBase.2, habove] at hget
    have hlisted := hbeside.mem_listFiles ht hget
    have hsibling : (root.descend (dirs ++ [stem ++ "." ++ other])).parent? = source.parent? := by
      calc (root.descend (dirs ++ [stem ++ "." ++ other])).parent?
          = some above := by rw [← hparent _ hbeside.plainBase.1, ← hbeside.segments_source]
        _ = source.parent? := by rw [← hparent _ h.plainBase.1, ← h.segments_source]
    have hstem := hbeside.stem?_eq.trans h.stem?_eq.symm
    have hsame := halone _ hlisted hsibling hstem
      ⟨other, hbeside.extension?_eq, toLowerCase_standard other hother⟩
    have hextension := hbeside.extension?_eq
    rw [hsame, h.extension?_eq] at hextension
    exact (Option.some.inj hextension).symm
  · rintro rfl
    rw [hchild _ h.plainBase]
    apply isFile_tidy
    rw [← h.segments_source]
    exact hfile

/-- The title of the artifacts about the source. -/
theorem title_eq (ht : Plain t root) (hnamed : t.Named) (houtput : Path.IsPlain outputDir)
    (hg : g ∈ groups (findings t root outputDir Question.standard))
    (hkey : g.key = (dirs ++ [outputDir], stem)) (hfile : t.isFile source = true)
    (halone : Alone t root source .standard) :
    title t root .standard g =
      if extension ∈ EligibilityRules.standard.extensions then
        ⟨languageOf source, ⟨stem ++ "." ++ extension, g.links⟩, g.directory⟩
      else ⟨"C", ⟨stem, g.links⟩, g.directory⟩ := by
  obtain ⟨above, hpath, habove, hchild, hparent⟩ := h.exists_directory ht hnamed houtput hg hkey
  obtain ⟨-, hstem⟩ := Prod.mk.inj hkey
  have hsource : g.source? t root .standard =
      (EligibilityRules.standard.extensions.find? (· == extension)).map
        fun other => above.child (stem ++ "." ++ other) := by
    rw [Group.source?, hpath, Option.getD_some, show g.stem = stem from hstem, List.find?_map]
    apply congrArg
    apply List.find?_congr
    intro other hother
    rw [Function.comp_apply]
    exact h.isFile_child ht habove hchild hparent hfile halone hother
  rw [title, hsource]
  by_cases hspelled : extension ∈ EligibilityRules.standard.extensions
  · have hfind : EligibilityRules.standard.extensions.find? (· == extension) = some extension := by
      cases hfind : EligibilityRules.standard.extensions.find? (· == extension) with
      | none => exact absurd (List.find?_eq_none.mp hfind extension hspelled) (by simp)
      | some other =>
          obtain ⟨heq, -⟩ := List.find?_eq_some_iff_append.mp hfind
          rw [beq_iff_eq.mp heq]
    have hname : (above.child (stem ++ "." ++ extension)).fileName? =
        some (stem ++ "." ++ extension) := by
      rw [hchild _ h.plainBase]
      exact Path.fileName?_concat rfl h.plainBase.1
    have hlanguage : languageOf (above.child (stem ++ "." ++ extension)) = languageOf source := by
      rw [languageOf, languageOf, Path.extension?, hname, ← h.fileName?_eq, ← Path.extension?]
    rw [hfind, if_pos hspelled, Option.map_some]
    dsimp only
    rw [hlanguage, hname, Option.map_some, Option.getD_some,
      FileName.text_of_not_mem h.plainBase.2]
  · have hfind : EligibilityRules.standard.extensions.find? (· == extension) = none := by
      apply List.find?_eq_none.mpr
      intro other hother heq
      apply hspelled
      rwa [← beq_iff_eq.mp heq]
    rw [hfind, if_neg hspelled, show g.stem = stem from hstem]
    rfl

end Lies

/-- **The artifacts about a source file are listed once**, under its name and in the section of its
language, if the extension is spelled as in the rules. A file that is accepted in another spelling
is not found: its artifacts are listed under their stem, as those of a file in C. -/
theorem entriesOf_source (ht : Plain t root) (hnamed : t.Named) (houtput : Path.IsPlain outputDir)
    (hlength : (root.child outputDir).fault? = none) (hsource : source ∈ t.listFiles root)
    (hfile : t.isFile source = true)
    (haccepts : EligibilityRules.standard.accepts source = true)
    (halone : Alone t root source .standard)
    (hartifact : ∃ question ∈ Question.standard,
      t.isFile (artifactPath source outputDir question.suffix) = true) :
    ∃ dirs name stem extension links, source = root.descend (dirs ++ [name]) ∧
      source.fileName? = some name ∧ source.stem? = some stem ∧
      source.extension? = some extension ∧
      (build t root outputDir Question.standard .standard).entriesOf Question.standard
          (dirs ++ [outputDir]) stem =
        [if extension ∈ EligibilityRules.standard.extensions then
          (languageOf source, ⟨name, links⟩) else ("C", ⟨stem, links⟩)] := by
  obtain ⟨extension, hextension⟩ := exists_extension? haccepts
  obtain ⟨dirs, stem, front, h⟩ := exists_lies ht hnamed hsource hextension
  obtain ⟨question, hquestion, hwritten⟩ := hartifact
  have hartifact := h.isArtifact ht houtput hlength hquestion hwritten
  obtain ⟨f, hf, hdirectory, hfound⟩ := hartifact.exists_stays ht (hartifact.isLast hnamed)
  have htext := hfound.text
  rw [FileName.text_of_not_mem (hartifact.not_mem hnamed)] at htext
  have hstem : f.stem = stem := ((String.append_left_inj _).mp htext).symm
  obtain ⟨g, hg, hmember⟩ := mem_groups.mpr hf
  have hkey : g.key = (dirs ++ [outputDir], stem) :=
    ((formed_of_mem_groups hg).key f hmember).symm.trans (Prod.ext hdirectory hstem)
  have hrank : ∀ g ∈ groups (findings t root outputDir Question.standard),
      ∀ g' ∈ groups (findings t root outputDir Question.standard),
        rank .standard (title t root .standard g).language =
          rank .standard (title t root .standard g').language →
            (title t root .standard g).language = (title t root .standard g').language := by
    intro g _ g' _
    exact rank_standard _ (language_title_mem g) _ (language_title_mem g')
  have hone := entriesOf_build ht hnamed Question.apart_standard hrank hg
  obtain ⟨hgdirectory, hgstem⟩ := Prod.mk.inj hkey
  rw [hgdirectory, hgstem, h.title_eq ht hnamed houtput hg hkey hfile halone] at hone
  refine ⟨dirs, stem ++ "." ++ extension, stem, extension, g.links, h.eq_descend, h.fileName?_eq,
    h.stem?_eq, hextension, ?_⟩
  rw [hone]
  by_cases hspelled : extension ∈ EligibilityRules.standard.extensions
  · rw [if_pos hspelled, if_pos hspelled]
  · rw [if_neg hspelled, if_neg hspelled]

/-! ### Two spellings -/

theorem isPlain_docs : Path.IsPlain "docs" := ⟨Path.isName_of_length (by decide), by decide⟩

/-- A file in the working directory is one for its path. -/
theorem isFile_top {name : String} {bytes : ByteArray} (hname : Path.IsName name)
    (hsize : FileName.size name ≤ longestName)
    (hfault : (⟨["."] ++ [name]⟩ : Path).fault? = none) (hget : t.get? [name] = some (.file bytes)) :
    t.isFile ⟨[".", name]⟩ = true := by
  have hroom : t.HasRoom ⟨["."] ++ [name]⟩ [name] :=
    ⟨writable_of_file hget, ["."], name, rfl, hname, hfault, hsize, linkBudget, [], .stay .here, rfl⟩
  exact isFile_iff_read.mpr ⟨bytes, hroom.read_eq_ok hget⟩

/-- The artifact in the working directory is a file. -/
theorem isFile_artifact {bytes : ByteArray} (hdir : t.get? ["docs"] = some .directory)
    (hget : t.get? ["docs", "a_overview.md"] = some (.file bytes)) :
    t.isFile ⟨[".", "docs", "a_overview.md"]⟩ = true := by
  have hroom : t.HasRoom ⟨[".", "docs"] ++ ["a_overview.md"]⟩ ["docs", "a_overview.md"] :=
    ⟨writable_of_file hget, [".", "docs"], "a_overview.md", rfl, Path.isName_of_length (by decide),
      by decide, by decide, linkBudget, ["docs"],
      .stay (.down isPlain_docs.1 (by decide) hdir .here), rfl⟩
  exact isFile_iff_read.mpr ⟨bytes, hroom.read_eq_ok hget⟩

/-- A source file is alone when there is nothing else but a text in Markdown. -/
theorem alone_of_listFiles {other : Path} (hlist : t.listFiles root = [source, other])
    (hother : other.extension? = some "md") : Alone t root source .standard := by
  intro p hp hparent hstem hextension
  rw [hlist, List.mem_cons, List.mem_singleton] at hp
  rcases hp with rfl | rfl
  · rfl
  · obtain ⟨extension, hsome, hmem⟩ := hextension
    obtain rfl := Option.some.inj (hother.symm.trans hsome)
    exact absurd hmem (by decide)

theorem listFiles_shelf :
    shelf.listFiles ⟨["."]⟩ = [⟨[".", "a.c"]⟩, ⟨[".", "docs", "a_overview.md"]⟩] := by
  have hbelow : shelf.regularBelow [] = [["a.c"], ["docs", "a_overview.md"]] := by
    simp +decide [regularBelow, shelf, isRegular, namesBelow?, List.mergeSort,
      List.MergeSort.Internal.splitInTwo, keyLe]
  rw [listFiles_of_regularBelow hbelow (by decide)]
  decide

/-- The source on the shelf is listed under its name. -/
theorem entriesOf_source_shelf :
    Plain shelf ⟨["."]⟩ ∧ shelf.Named ∧ ⟨[".", "a.c"]⟩ ∈ shelf.listFiles ⟨["."]⟩ ∧
      ∃ dirs links, ⟨[".", "a.c"]⟩ = Path.descend ⟨["."]⟩ (dirs ++ ["a.c"]) ∧
        (build shelf ⟨["."]⟩ "docs" Question.standard .standard).entriesOf Question.standard
          (dirs ++ ["docs"]) "a" = [("C", ⟨"a.c", links⟩)] := by
  have hmem : ⟨[".", "a.c"]⟩ ∈ shelf.listFiles ⟨["."]⟩ := by
    rw [listFiles_shelf]
    exact List.mem_cons_self
  have hname : Path.IsName "a.c" := Path.isName_of_length (by decide)
  have hfile : shelf.isFile ⟨[".", "a.c"]⟩ = true :=
    isFile_top hname (by decide) (by decide) (show shelf.get? ["a.c"] = some (.file .empty) by decide)
  have hartifact : shelf.isFile ⟨[".", "docs", "a_overview.md"]⟩ = true :=
    isFile_artifact (by decide)
      (show shelf.get? ["docs", "a_overview.md"] = some (.file .empty) by decide)
  obtain ⟨dirs, name, stem, extension, links, hsource, hfileName, hstem, hextension, hentries⟩ :=
    entriesOf_source plain_shelf named_shelf isPlain_docs (by decide) hmem hfile (by decide)
      (alone_of_listFiles listFiles_shelf (by decide)) ⟨.overview, List.mem_cons_self, hartifact⟩
  obtain rfl : "a.c" = name := Option.some.inj (Eq.trans (by decide) hfileName)
  obtain rfl : "a" = stem := Option.some.inj (Eq.trans (by decide) hstem)
  obtain rfl : "c" = extension := Option.some.inj (Eq.trans (by decide) hextension)
  exact ⟨plain_shelf, named_shelf, hmem, dirs, links, hsource, hentries⟩

/-- A source file whose extension is in capital letters, and an artifact about it. -/
def poster : FileTree :=
  ⟨[(["a.CPP"], .file .empty), (["docs"], .directory), (["docs", "a_overview.md"], .file .empty)]⟩

theorem plain_poster : Plain poster ⟨["."]⟩ :=
  ⟨linkFree_of_nodes (by simp [poster]), by simp [Distinct, poster], isDirectory_top _⟩

theorem listFiles_poster : poster.regularBelow [] = [["a.CPP"], ["docs", "a_overview.md"]] ∧
    poster.listFiles ⟨["."]⟩ = [⟨[".", "a.CPP"]⟩, ⟨[".", "docs", "a_overview.md"]⟩] := by
  have hbelow : poster.regularBelow [] = [["a.CPP"], ["docs", "a_overview.md"]] := by
    simp +decide [regularBelow, poster, isRegular, namesBelow?, List.mergeSort,
      List.MergeSort.Internal.splitInTwo, keyLe]
  refine ⟨hbelow, ?_⟩
  rw [listFiles_of_regularBelow hbelow (by decide)]
  decide

/-- **A source is not always named**: its extension counts in capital letters too, for the rules and
for its language, but its artifacts are listed under the stem, as those of a file in C. -/
theorem not_entriesOf_source :
    Plain poster ⟨["."]⟩ ∧ poster.Named ∧ ⟨[".", "a.CPP"]⟩ ∈ poster.listFiles ⟨["."]⟩ ∧
      poster.isFile ⟨[".", "a.CPP"]⟩ = true ∧
      EligibilityRules.standard.accepts ⟨[".", "a.CPP"]⟩ = true ∧
      languageOf ⟨[".", "a.CPP"]⟩ = "C++" ∧ Alone poster ⟨["."]⟩ ⟨[".", "a.CPP"]⟩ .standard ∧
      poster.isFile (artifactPath ⟨[".", "a.CPP"]⟩ "docs" Question.overview.suffix) = true ∧
      (build poster ⟨["."]⟩ "docs" Question.standard .standard).sections =
        [⟨"C", [⟨"a", [(Question.overview.label, ⟨["docs", "a_overview.md"]⟩)]⟩]⟩] := by
  obtain ⟨hbelow, hlist⟩ := listFiles_poster
  have hfindings : findings poster ⟨["."]⟩ "docs" Question.standard =
      [⟨["docs"], ⟨[".", "docs"]⟩, "a", 0, Question.overview.label, ["docs", "a_overview.md"]⟩] := by
    have hkey : (⟨["."]⟩ : Path).key = [] := by decide
    rw [findings, plain_poster.linkFree.filesBelow_eq plain_poster.isDirectory, hkey, hbelow]
    rfl
  have hfree : ∀ extension ∈ EligibilityRules.standard.extensions,
      poster.get? (Path.child ⟨["."]⟩ ("a" ++ "." ++ extension)).key = none := by decide
  have hcandidates : ∀ extension ∈ EligibilityRules.standard.extensions,
      ¬ poster.isFile (Path.child ⟨["."]⟩ ("a" ++ "." ++ extension)) = true := by
    intro extension hextension hfile
    obtain ⟨bytes, hread⟩ := isFile_iff_read.mp hfile
    have hget := (plain_poster.linkFree.of_read hread).2
    rw [hfree extension hextension] at hget
    cases hget
  refine ⟨plain_poster, named_of_plain (by simp +decide [poster, Path.IsPlain, Path.IsName]), ?_,
    ?_, by decide, by decide, alone_of_listFiles hlist (by decide), ?_, ?_⟩
  · rw [hlist]
    exact List.mem_cons_self
  · exact isFile_top (Path.isName_of_length (by decide)) (by decide) (by decide)
      (show poster.get? ["a.CPP"] = some (.file .empty) by decide)
  · exact isFile_artifact (by decide)
      (show poster.get? ["docs", "a_overview.md"] = some (.file .empty) by decide)
  · have hsource : ∀ members : List Finding,
        Group.source? ⟨["docs"], ⟨[".", "docs"]⟩, "a", members⟩ poster ⟨["."]⟩ .standard = none := by
      intro members
      have hparent : (⟨[".", "docs"]⟩ : Path).parent? = some ⟨["."]⟩ := by decide
      rw [Group.source?, hparent]
      exact List.find?_eq_none.mpr (List.forall_mem_map.mpr hcandidates)
    rw [build_of_findings_singleton hfindings rfl, title, hsource]
    simp [Group.links, Finding.link]

end Index

end SourceTutor.Lesson
