import SourceTutor.Lesson.Index
import SourceTutor.Proofs.FileTree.Below
import SourceTutor.Proofs.Lesson.Completing
import SourceTutor.Proofs.Lesson.Finding
import SourceTutor.Proofs.Settings.Accepted

/-!
# What an index lists

Grouping adds no finding, and loses those only whose place a later one takes: the links of an index
are those of the findings that stay (`Index.mem_build`). An artifact is listed when no other file of
its directory reads like it (`Index.lists_artifact`), and so is one that is written about a source
file below the directory of the index (`Catalogued`). That takes a name of a directory for the
artifacts: the checks also accept `.`, under which artifacts are written beside their sources and
never found. And it takes a name that is not too long behind the path of the index, which may end in
slashes and dots that the path of an artifact does not have.
-/

set_option autoImplicit false

namespace SourceTutor

open FileTree

namespace Lesson

namespace Index

variable {f later : Finding} {g : Group} {t : FileTree} {root : Path}
  {outputDir name stem label : String} {questions : List Question} {question : Question}
  {rules : EligibilityRules} {link : String × Path} {directory : Key} {first place : Nat}

/-! ## Links -/

theorem mem_links : link ∈ g.links ↔ ∃ f ∈ g.members, (f.label, f.link) = link := by
  rw [Group.links, List.mem_map]
  simp only [List.mem_mergeSort]

theorem links_title (t : FileTree) (root : Path) (rules : EligibilityRules) (g : Group) :
    (title t root rules g).entry.links = g.links := by
  rw [title]
  split <;> rfl

/-- The sections hold the entries: every language has a place. -/
theorem mem_sections {titled : List Titled} {entry : IndexEntry} :
    (∃ s ∈ (List.range (rules.extensions.length + 1)).filterMap (sectionOf? rules titled),
        entry ∈ s.entries) ↔ ∃ x ∈ titled, x.entry = entry := by
  constructor
  · rintro ⟨s, hs, hentry⟩
    obtain ⟨place, -, hplace⟩ := List.mem_filterMap.mp hs
    rw [sectionOf?] at hplace
    split at hplace
    · cases hplace
    · rename_i first rest hfilter
      obtain rfl := Option.some.inj hplace
      obtain ⟨x, hx, rfl⟩ := List.mem_map.mp hentry
      rw [List.mem_mergeSort, ← hfilter] at hx
      exact ⟨x, (List.mem_filter.mp hx).1, rfl⟩
  · rintro ⟨x, hx, rfl⟩
    have hplace : rank rules x.language ∈ List.range (rules.extensions.length + 1) := by
      rw [List.mem_range, Nat.lt_succ_iff]
      exact List.findIdx_le_length
    have hmem : x ∈ titled.filter fun y => rank rules y.language == rank rules x.language :=
      List.mem_filter.mpr ⟨hx, beq_self_eq_true _⟩
    obtain ⟨first, rest, hfilter⟩ := List.exists_cons_of_ne_nil (List.ne_nil_of_mem hmem)
    rw [hfilter] at hmem
    refine ⟨⟨first.language, ((first :: rest).mergeSort Titled.le).map (·.entry)⟩,
      List.mem_filterMap.mpr ⟨_, hplace, ?_⟩, List.mem_map.mpr ⟨x, ?_, rfl⟩⟩
    · rw [sectionOf?, hfilter]
    · rwa [List.mem_mergeSort]

/-- The link stands in the index. -/
def Lists (index : Index) (link : String × Path) : Prop :=
  ∃ s ∈ index.sections, ∃ entry ∈ s.entries, link ∈ entry.links

/-- **An index lists the findings that stay and nothing else.** -/
theorem mem_build :
    (build t root outputDir questions rules).Lists link ↔
      ∃ f : Finding, f.Stays (findings t root outputDir questions) ∧ (f.label, f.link) = link := by
  have hsections : (build t root outputDir questions rules).Lists link ↔
      ∃ g ∈ groups (findings t root outputDir questions), link ∈ g.links := by
    constructor
    · rintro ⟨s, hs, entry, hentry, hlink⟩
      obtain ⟨x, hx, rfl⟩ := mem_sections.mp ⟨s, hs, hentry⟩
      obtain ⟨g, hg, rfl⟩ := List.mem_map.mp hx
      rw [links_title] at hlink
      exact ⟨g, hg, hlink⟩
    · rintro ⟨g, hg, hlink⟩
      have hentry : ∃ s ∈ (build t root outputDir questions rules).sections,
          (title t root rules g).entry ∈ s.entries :=
        mem_sections.mpr ⟨_, List.mem_map_of_mem hg, rfl⟩
      obtain ⟨s, hs, hentry⟩ := hentry
      exact ⟨s, hs, _, hentry, by rwa [links_title]⟩
  rw [hsections]
  constructor
  · rintro ⟨g, hg, hlink⟩
    obtain ⟨f, hf, heq⟩ := mem_links.mp hlink
    exact ⟨f, mem_groups.mp ⟨g, hg, hf⟩, heq⟩
  · rintro ⟨f, hf, heq⟩
    obtain ⟨g, hg, hmember⟩ := mem_groups.mpr hf
    exact ⟨g, hg, mem_links.mpr ⟨f, hmember, heq⟩⟩

/-! ## Artifacts -/

/-- The names that lead to an artifact are plain. -/
theorem plain_artifactNames {dirs : List String} (hdirs : ∀ name ∈ dirs, Path.IsPlain name)
    (houtput : Path.IsPlain outputDir) {artifact : String} (hname : Path.IsPlain artifact) :
    ∀ name ∈ dirs ++ [outputDir, artifact], Path.IsPlain name := by
  intro name hmem
  simp only [List.mem_append, List.mem_cons, List.not_mem_nil, or_false] at hmem
  rcases hmem with hdir | rfl | rfl
  · exact hdirs name hdir
  · exact houtput
  · exact hname

/-- **An artifact is listed** when no other file of its directory reads like it. -/
theorem lists_artifact (ht : t.LinkFree) (hroot : t.isDirectory root = true)
    (h : IsArtifact t root outputDir questions directory name question)
    (halone : ∀ other bytes, (root.key ++ (directory ++ [other]), .file bytes) ∈ t.nodes →
      FileName.text other = FileName.text name → other = name) :
    (build t root outputDir questions rules).Lists
      (question.label, ⟨directory ++ [name]⟩) := by
  obtain ⟨f, hf, rfl, hfound⟩ := h.exists_finding?
  refine mem_build.mpr ⟨f, stays_of_forall (h.mem_findings ht hroot hf) ?_, ?_⟩
  · intro later hlater hreplaces
    obtain ⟨directory, other, bytes, -, hmem, -, hlater⟩ := (mem_findings ht hroot).mp hlater
    obtain ⟨rfl, -, -, -, asked, hat, -⟩ := of_finding? hlater
    obtain ⟨hdirectory, htext⟩ := (hfound.replaces_iff hat).mp hreplaces
    -- they are at one file, at which there is one finding
    rw [hdirectory] at hmem hlater
    rw [halone other bytes hmem htext, hf] at hlater
    exact (Option.some.inj hlater).symm
  · rw [hfound.label, hfound.link]

end Index

/-! ## Artifacts in the index -/

variable {t t' : FileTree} {root source path : Path} {question : Question} {answer : String}
  {index : Nat}

/-- The answer to a question about a source file is in a file below a directory of this name, which
stands beside the source file, and the index of the directory `root` links to this file. -/
structure Catalogued (t : FileTree) (root source path : Path) (outputDir : String)
    (question : Question) (answer : String) : Prop where
  written : t.get? path.key = some (.file (artifactText source question answer).toUTF8)
  beside : ∃ dir base name, source.key = dir ++ [base] ∧ path.key = dir ++ [outputDir, name] ∧
    t.get? (dir ++ [outputDir]) = some .directory
  listed : ∃ p, (Index.build t root outputDir Question.standard .standard).Lists
    (question.label, p) ∧ (root.join p).key = path.key

/-- A name of artifact directories that the checks accept is a plain one, unless it is one of the
two names that every directory has. -/
theorem isPlain_outputDir {s : Settings} (hs : s.Accepted) (hself : s.outputDir ≠ ".")
    (habove : s.outputDir ≠ "..") : Path.IsPlain s.outputDir := by
  have hplain := hs.outputDir
  simp only [Settings.isPlainName, Bool.and_eq_true, Bool.not_eq_true'] at hplain
  obtain ⟨⟨hblank, hslash⟩, -⟩ := hplain
  refine ⟨⟨?_, hself, habove⟩, by simpa using hslash⟩
  intro hempty
  rw [hempty] at hblank
  cases hblank

/-- The name of an artifact: the stem of the source file and the suffix of the question. -/
theorem isPlain_artifactName {base : String} (hbase : Path.IsPlain base)
    (hquestion : question ∈ Question.standard) :
    Path.IsPlain ((Path.cutName base).1 ++ question.suffix) := by
  obtain ⟨hslash, hlength⟩ := Question.apart_standard.plain question hquestion
  refine ⟨Path.isName_of_length ?_, ?_⟩
  · rw [String.toList_append, List.length_append]
    omega
  · rw [String.toList_append, List.mem_append, not_or]
    exact ⟨fun h => hbase.2 ((Path.cutName_fst hbase.1.1).2 _ h), hslash⟩

/-- Where the artifacts about a source file are, seen from its directory. -/
theorem artifactPath_eq {front : List String} {base : String} {parent : Path}
    (hsource : source.segments = front ++ [base]) (hbase : Path.IsPlain base)
    (hparent : source.parent? = some parent) (outputDir suffix : String) :
    artifactPath source outputDir suffix =
      (parent.child outputDir).child ((Path.cutName base).1 ++ suffix) := by
  have hstem : source.stem? = some (Path.cutName base).1 := by
    rw [Path.stem?, Path.fileName?_concat hsource hbase.1]
    rfl
  have htext : '/' ∉ (source.stem?.getD "").toList := by
    rw [hstem]
    exact fun h => hbase.2 ((Path.cutName_fst hbase.1.1).2 _ h)
  rw [artifactPath_of_not_mem htext, artifactDir, artifactName, hparent, hstem]
  rfl

/-- Artifacts about a source file go beside it. -/
theorem artifactPath_beside {front : List String} {base outputDir : String}
    (hsource : source.segments = front ++ [base]) (hbase : Path.IsPlain base)
    (houtput : Path.IsPlain outputDir) (hquestion : question ∈ Question.standard) :
    ∃ dir above, source.key = dir ++ [base] ∧
      (artifactPath source outputDir question.suffix).segments =
        above ++ [outputDir, (Path.cutName base).1 ++ question.suffix] ∧
      (artifactPath source outputDir question.suffix).key =
        dir ++ [outputDir, (Path.cutName base).1 ++ question.suffix] := by
  have hname := isPlain_artifactName hbase hquestion
  obtain ⟨parent, hparent, hkey⟩ := Path.exists_parent hsource hbase.1
  have hpath := artifactPath_eq hsource hbase hparent outputDir question.suffix
  obtain ⟨above, habove⟩ := parent.exists_segments_child houtput
  refine ⟨parent.key, above, hkey, ?_, ?_⟩
  · rw [hpath]
    exact Path.segments_child_of_concat habove houtput hname
  · rw [hpath, Path.key_child _ hname.1 hname.2, Path.key_child _ houtput.1 houtput.2,
      List.append_assoc]
    rfl

/-- The directory of the artifacts about a file below the root can be opened when the system takes
the path of an artifact, and the path to such a directory in the root itself: a slash at the end of
the root stands in the way to the artifacts when they are looked for, but not when they are
written. -/
theorem opens_artifactDir {dirs : List String} {base outputDir : String}
    (hdirs : ∀ name ∈ dirs, Path.IsPlain name) (hbase : Path.IsPlain base)
    (houtput : Path.IsPlain outputDir) (hquestion : question ∈ Question.standard)
    (hroot : (root.child outputDir).fault? = none)
    (hartifact : (artifactPath (root.descend (dirs ++ [base])) outputDir question.suffix).fault? =
      none) :
    opens root (dirs ++ [outputDir]) = true := by
  rw [opens_iff]
  rcases List.eq_nil_or_concat dirs with rfl | ⟨dirs, outer, rfl⟩
  · rw [root.child_eq_join houtput] at hroot
    exact hroot
  rw [List.concat_eq_append, List.append_assoc] at hartifact ⊢
  rw [List.concat_eq_append, List.forall_mem_append] at hdirs
  have houter : Path.IsPlain outer := hdirs.2 outer (List.mem_singleton_self _)
  -- behind a name nothing is taken off on the way up
  obtain ⟨front, hfront⟩ := root.exists_front hdirs.1
  have hparent := Path.parent?_of_two (hfront outer [base] houter) houter.1 hbase.1
  have hsource : (root.descend (dirs ++ [outer, base])).segments = front ++ [outer] ++ [base] := by
    rw [hfront outer [base] houter]
    simp
  have hname := isPlain_artifactName hbase hquestion
  have habove : ((⟨front ++ [outer]⟩ : Path).child outputDir).segments =
      front ++ [outer] ++ [outputDir] := by
    rw [Path.segments_child_of_concat rfl houter houtput]
    simp
  have hpath : artifactPath (root.descend (dirs ++ [outer, base])) outputDir question.suffix =
      ⟨front ++ [outer] ++ outputDir :: [(Path.cutName base).1 ++ question.suffix]⟩ := by
    rw [artifactPath_eq hsource hbase hparent]
    exact congrArg Path.mk (Path.segments_child_of_concat habove houtput hname)
  have hdirectory : root.descend (dirs ++ [outer, outputDir]) =
      ⟨front ++ [outer] ++ [outputDir]⟩ := by
    rw [List.append_assoc]
    exact congrArg Path.mk (hfront outer [outputDir] houter)
  rw [List.singleton_append, hpath] at hartifact
  rw [List.singleton_append, hdirectory]
  exact Path.fault?_front (FileName.bytes_ne_nil houtput.1.1) hartifact

/-- An artifact that is written is at the path of its question, in a directory that is there, and no
other file is new. -/
theorem of_writeArtifact (ht : t.LinkFree) {outputDir name : String}
    {above : List String} (hquestion : Question.standard[index]? = some question)
    (houtput : Path.IsName outputDir) (hname : Path.IsName name)
    (hartifact : (artifactPath source outputDir question.suffix).segments =
      above ++ [outputDir, name])
    (h : writeArtifact t source outputDir Question.standard index answer = (t', .ok path)) :
    path = artifactPath source outputDir question.suffix ∧ path.fault? = none ∧
      (∃ dir, path.key = dir ++ [outputDir, name] ∧
        t'.get? (dir ++ [outputDir]) = some .directory) ∧
      ∀ key bytes, (key, .file bytes) ∈ t'.nodes →
        key = path.key ∨ (key, .file bytes) ∈ t.nodes := by
  have hmade := makeOutputDir_madeAbove t (artifactPath source outputDir question.suffix)
  rw [writeArtifact, hquestion] at h
  dsimp only at h
  split at h
  · cases h
  rename_i t₁ heq
  rw [heq] at hmade
  split at h
  · rename_i t₂ hwrite
    obtain ⟨rfl, hpath⟩ := Prod.mk.inj h
    rw [← Except.ok.inj hpath]
    have hlinkFree := (ht.madeAbove hmade).linkFree
    obtain ⟨dir, hkey, hget⟩ := hlinkFree.directory_of_write hartifact houtput hname hwrite
    have hfault : (artifactPath source outputDir question.suffix).fault? = none := by
      obtain ⟨key, -, ⟨old, hok⟩ | ⟨slash, hok⟩⟩ := resolve_of_write_eq_ok hwrite
      · exact (walkFrom_of_resolve_eq_ok hok).1
      · exact (walkFrom_of_resolve_eq_ok hok).1
    refine ⟨rfl, hfault, ⟨dir, hkey, (hlinkFree.write hwrite).directory _ hget⟩, ?_⟩
    intro key bytes hmem
    rw [(hlinkFree.of_write hwrite).2] at hmem
    rcases mem_insert.mp hmem with hnew | ⟨hold, -⟩
    · exact .inl (Prod.mk.inj hnew).1
    · exact .inr (hmade.mem_of_file hold)
  · cases h

/-- **What is written about a listed file is in the index.** -/
theorem catalogued_of_write (ht : t.LinkFree) (hnamed : t.Named) {s : Settings}
    (hs : s.validate = .ok ()) (hself : s.outputDir ≠ ".") (habove : s.outputDir ≠ "..")
    (hroot : t.isDirectory root = true) (hlength : (root.child s.outputDir).fault? = none)
    (hsource : source ∈ t.listFiles root) (hquestion : Question.standard[index]? = some question)
    (h : writeArtifact t source s.outputDir Question.standard index answer = (t', .ok path)) :
    Catalogued t' root source path s.outputDir question answer := by
  have houtput := isPlain_outputDir (Settings.validate_eq_ok_iff.mp hs) hself habove
  have hmem := List.mem_of_getElem? hquestion
  -- the source file is below the directory, and its artifact beside it
  rw [listFiles, ht.filesBelow_eq hroot] at hsource
  obtain ⟨names, hnames, rfl⟩ := List.mem_map.mp hsource
  obtain ⟨dirs, base, front, rfl, hdirs, hbase, hsegments, hkey⟩ :=
    hnamed.exists_dirs (mem_accessible.mp hnames).1
  obtain ⟨dir, above, hkey', hartifact, hplace⟩ :=
    artifactPath_beside hsegments hbase houtput hmem
  obtain rfl : dir = root.key ++ dirs := by
    rw [hkey', ← List.append_assoc] at hkey
    exact List.append_inj_left' hkey rfl
  have hname := isPlain_artifactName hbase hmem
  -- it is written there, and the directories stay
  obtain ⟨rfl, hfault, ⟨dir', hplace', hdirectory⟩, hnew⟩ :=
    of_writeArtifact ht hquestion houtput.1 hname.1 hartifact h
  obtain rfl : dir' = root.key ++ dirs := by
    rw [hplace] at hplace'
    exact (List.append_inj_left' hplace' rfl).symm
  have hspec := writeArtifact_spec ht hquestion (root.descend (dirs ++ [base])) s.outputDir answer
  rw [h] at hspec
  obtain ⟨hdisturbs, hwritten⟩ := hspec
  have hget := (hdisturbs.linkFree.of_read (hwritten _ rfl)).2
  have hget' := hget
  rw [hplace, List.append_assoc] at hget'
  have hartifact := Index.isArtifact_of_plain Question.apart_standard hmem hdirs houtput hname
    (opens_artifactDir hdirs hbase houtput hmem hlength hfault) hget'
  -- no other file of the directory reads like it: the old ones have texts for names
  have halone : ∀ other bytes,
      (root.key ++ (dirs ++ [s.outputDir] ++ [other]), .file bytes) ∈ t'.nodes →
        FileName.text other = FileName.text ((Path.cutName base).1 ++ question.suffix) →
          other = (Path.cutName base).1 ++ question.suffix := by
    intro other bytes hfile hread
    rcases hnew _ _ hfile with hsame | hold
    · rw [hplace] at hsame
      simpa using hsame
    · have hinside : Key.isOutside (dirs ++ [s.outputDir] ++ [other]) = false := by
        cases dirs <;> exact hartifact.below
      have hother := hnamed.plain_of_mem hold hinside other (by simp)
      rwa [FileName.text_of_not_mem hother.2, FileName.text_of_not_mem hname.2] at hread
  have hlists : (Index.build t' root s.outputDir Question.standard .standard).Lists _ :=
    Index.lists_artifact hdisturbs.linkFree (ht.isDirectory_congr hdisturbs.directory hroot)
      hartifact halone
  have hdescend := root.key_descend (Index.plain_artifactNames hdirs houtput hname)
  rw [Path.descend, if_neg (by simp)] at hdescend
  rw [List.append_assoc, List.singleton_append] at hlists
  exact ⟨hget, ⟨root.key ++ dirs, base, _, hkey', hplace, hdirectory⟩, _, hlists,
    by rw [hdescend, hplace, List.append_assoc]⟩

/-! ### Artifacts beside one source file -/

theorem isDirectory_top (t : FileTree) : t.isDirectory ⟨["."]⟩ = true := by
  simp +decide [isDirectory, node?, resolve_of_no_fault fault?_top, walkFrom, Path.home]

/-- The first artifact about one of the two, and the index that links to it. -/
theorem catalogued_twin :
    writeArtifact Analyzer.twins ⟨[".", "a.c"]⟩ "docs" Question.standard 0 "Text." =
        (Analyzer.twins.insert ["docs", "a_overview.md"]
          (.file (artifactText ⟨[".", "a.c"]⟩ .overview "Text.").toUTF8),
          .ok ⟨[".", "docs", "a_overview.md"]⟩) ∧
      Catalogued (Analyzer.twins.insert ["docs", "a_overview.md"]
          (.file (artifactText ⟨[".", "a.c"]⟩ .overview "Text.").toUTF8))
        ⟨["."]⟩ ⟨[".", "a.c"]⟩ ⟨[".", "docs", "a_overview.md"]⟩ "docs" .overview "Text." := by
  have hpath : artifactPath ⟨[".", "a.c"]⟩ "docs" Question.overview.suffix =
      ⟨[".", "docs"] ++ ["a_overview.md"]⟩ := by decide
  have hname : Path.IsName "a_overview.md" := Path.isName_of_length (by decide)
  have hwrite : writeArtifact Analyzer.twins ⟨[".", "a.c"]⟩ "docs" Question.standard 0 "Text." = _ :=
    writeArtifact_eq rfl (by rw [hpath]; decide) Analyzer.hasDirectory_docs.isDirectory
      (by rw [hpath]; exact Analyzer.hasRoom_docs hname (by decide) (by decide) (by decide)) "Text."
  rw [hpath] at hwrite
  have hbelow : Analyzer.twins.regularBelow [] = Analyzer.twinKeys := by
    simp +decide [regularBelow, Analyzer.twins, Analyzer.twinKeys, isRegular, namesBelow?,
      List.mergeSort, List.MergeSort.Internal.splitInTwo, keyLe]
  have hnamed : Analyzer.twins.Named :=
    named_of_plain (by simp +decide [Analyzer.twins, Path.IsPlain, Path.IsName])
  refine ⟨hwrite, catalogued_of_write Analyzer.linkFree_twins hnamed (s := .standard)
    (by decide) (by decide) (by decide) (isDirectory_top _) (by decide) ?_ (by rfl) hwrite⟩
  rw [listFiles_of_regularBelow hbelow (by decide)]
  decide

/-! ### Artifacts without a directory of their own -/

/-- Under a name that every directory has no artifact is ever found. -/
theorem not_lists_of_not_isName {outputDir : String} (houtput : ¬ Path.IsName outputDir)
    (t : FileTree) (root : Path) (questions : List Question) (rules : EligibilityRules)
    (link : String × Path) : ¬ (Index.build t root outputDir questions rules).Lists link := by
  rw [Index.mem_build]
  rintro ⟨f, hf, -⟩
  obtain ⟨names, -, hfound⟩ := List.mem_filterMap.mp hf.mem
  obtain ⟨_, -, -, hname, -⟩ := Index.finding?_eq_some hfound
  exact houtput (Path.isName_of_fileName? hname)

/-- One source file. -/
def desk : FileTree := ⟨[(["a.c"], .file .empty)]⟩

/-- Settings that pass the checks and name the directory itself. -/
def inPlace : Settings := { Settings.standard with outputDir := "." }

/-- The source file with an artifact beside it. -/
def explainedDesk : FileTree :=
  desk.insert ["a_overview.md"] (.file (artifactText ⟨[".", "a.c"]⟩ .overview "Text.").toUTF8)

theorem linkFree_desk : desk.LinkFree := linkFree_of_nodes (by simp [desk])

theorem named_desk : desk.Named :=
  named_of_plain (by simp +decide [desk, Path.IsPlain, Path.IsName])

theorem listFiles_desk : desk.listFiles ⟨["."]⟩ = [⟨[".", "a.c"]⟩] := by
  have hbelow : desk.regularBelow [] = [["a.c"]] := by
    simp +decide [regularBelow, desk, isRegular, namesBelow?]
  rw [listFiles_of_regularBelow hbelow (by decide)]
  decide

/-- The artifact is written into the directory of its source. -/
theorem writeArtifact_desk :
    writeArtifact desk ⟨[".", "a.c"]⟩ "." Question.standard 0 "Text." =
      (explainedDesk, .ok ⟨[".", ".", "a_overview.md"]⟩) := by
  have hpath : artifactPath ⟨[".", "a.c"]⟩ "." Question.overview.suffix =
      ⟨[".", "."] ++ ["a_overview.md"]⟩ := by decide
  have hroom : desk.HasRoom ⟨[".", "."] ++ ["a_overview.md"]⟩ ["a_overview.md"] :=
    ⟨writable_of_none (by decide), [".", "."], "a_overview.md", rfl,
      Path.isName_of_length (by decide), by decide, by decide, linkBudget, [],
      .stay (.stay .here), rfl⟩
  have hparent : (artifactPath ⟨[".", "a.c"]⟩ "." Question.overview.suffix).parent? =
      some ⟨["."]⟩ := by decide
  rw [← hpath] at hroom
  have hwrite : writeArtifact desk ⟨[".", "a.c"]⟩ "." Question.standard 0 "Text." = _ :=
    writeArtifact_eq rfl hparent (isDirectory_top desk) hroom "Text."
  rwa [hpath] at hwrite

/-- **The writer and the index do not agree under every name that the checks accept**: the name
`.` passes them, and an artifact is written under it that is in no directory of this name and is
not in the index. -/
theorem not_always_catalogued :
    inPlace.validate = .ok () ∧ desk.LinkFree ∧ desk.Named ∧ desk.isDirectory ⟨["."]⟩ = true ∧
      ⟨[".", "a.c"]⟩ ∈ desk.listFiles ⟨["."]⟩ ∧
      writeArtifact desk ⟨[".", "a.c"]⟩ inPlace.outputDir Question.standard 0 "Text." =
        (explainedDesk, .ok ⟨[".", ".", "a_overview.md"]⟩) ∧
      (¬ ∃ dir base name, (⟨[".", "a.c"]⟩ : Path).key = dir ++ [base] ∧
        (⟨[".", ".", "a_overview.md"]⟩ : Path).key = dir ++ [inPlace.outputDir, name]) ∧
      ∀ p, ¬ (Index.build explainedDesk ⟨["."]⟩ inPlace.outputDir Question.standard
        .standard).Lists (Question.overview.label, p) := by
  refine ⟨by decide, linkFree_desk, named_desk, isDirectory_top _, ?_, writeArtifact_desk, ?_, ?_⟩
  · rw [listFiles_desk]
    exact List.mem_singleton_self _
  · rintro ⟨dir, base, name, -, hkey⟩
    have hlength := congrArg List.length hkey
    have hone : (⟨[".", ".", "a_overview.md"]⟩ : Path).key.length = 1 := by decide
    rw [hone, List.length_append] at hlength
    simp at hlength
  · exact fun p => not_lists_of_not_isName (fun h => h.2.1 rfl) _ _ _ _ _

end Lesson

end SourceTutor
