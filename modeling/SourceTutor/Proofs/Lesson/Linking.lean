import SourceTutor.Proofs.FileTree.Listing
import SourceTutor.Proofs.Lesson.Listed

/-!
# What the links of a group lead to

The findings that stay are the artifacts that come last among those of their directory that read like
them (`Index.IsLast`): an artifact that does so is linked to (`Index.IsArtifact.exists_stays`), and
nothing else is (`Index.of_stays`). The links of a group are in the order of the questions
(`Index.links_group`).
-/

set_option autoImplicit false

namespace SourceTutor.Lesson

open FileTree

namespace Index

variable {f : Finding} {g : Group} {t : FileTree} {root : Path} {outputDir name other : String}
  {questions : List Question} {question : Question} {directory : Key}

/-! ## Artifacts that read alike -/

/-- The tree has no links and no key twice, and the index is that of a directory. -/
structure Plain (t : FileTree) (root : Path) : Prop where
  linkFree : t.LinkFree
  distinct : t.Distinct
  isDirectory : t.isDirectory root = true

/-- Of the artifacts of the directory whose names read as this name does, it is the last one in the
order of names. -/
def IsLast (t : FileTree) (root : Path) (outputDir : String) (questions : List Question)
    (directory : Key) (name : String) : Prop :=
  ∀ other question, IsArtifact t root outputDir questions directory other question →
    FileName.text other = FileName.text name → other ≠ name → FileName.before other name = true

/-- An artifact has a text for its name where the names of the tree are texts. -/
theorem IsArtifact.not_mem (h : IsArtifact t root outputDir questions directory name question)
    (hnamed : t.Named) : '/' ∉ name.toList := by
  obtain ⟨bytes, hget⟩ := h.file
  rw [get?, if_neg (by simp)] at hget
  exact (hnamed.plain_of_mem (mem_of_lookup hget) h.below name (by simp)).2

/-- Where the names of the tree are texts, no two artifacts of a directory read alike. -/
theorem IsArtifact.isLast (h : IsArtifact t root outputDir questions directory name question)
    (hnamed : t.Named) : IsLast t root outputDir questions directory name := by
  intro other asked hother htext hne
  rw [FileName.text_of_not_mem (hother.not_mem hnamed),
    FileName.text_of_not_mem (h.not_mem hnamed)] at htext
  exact absurd htext hne

/-- Names in one directory are in the order of the names themselves. -/
theorem keyLe_concat (directory : Key) (name other : String) :
    keyLe (directory ++ [other]) (directory ++ [name]) = true ↔
      (other ≠ name → FileName.before other name = true) := by
  induction directory with
  | nil =>
      rw [List.nil_append, List.nil_append, keyLe, listLe_cons_cons FileName.orders]
      by_cases heq : other = name
      · simp [heq, listLe]
      · simp [heq]
  | cons first directory ih =>
      have hsame : keyLe (first :: (directory ++ [other])) (first :: (directory ++ [name])) =
          keyLe (directory ++ [other]) (directory ++ [name]) := if_pos rfl
      rw [List.cons_append, List.cons_append, hsame, ih]

variable (ht : Plain t root)

include ht

/-- **What is found is an artifact** of its question. -/
theorem of_mem_findings (h : f ∈ findings t root outputDir questions) :
    ∃ name question, FoundAt questions f name question ∧
      IsArtifact t root outputDir questions f.directory name question := by
  obtain ⟨directory, name, bytes, hbelow, hmem, hopens, hf⟩ :=
    (mem_findings ht.linkFree ht.isDirectory).mp h
  obtain ⟨rfl, hpath, hdir, htext, question, hfound, hfind⟩ := of_finding? hf
  refine ⟨name, question, hfound, hbelow, ⟨bytes, ht.distinct.get?_eq (by simp) hmem⟩, hopens, ?_,
    htext, hfind⟩
  rw [hpath]
  exact hdir

/-- Findings come in the order of their names, and none comes twice. -/
theorem pairwise_findings : (findings t root outputDir questions).Pairwise
    fun a b => keyLe a.names b.names = true ∧ a.names ≠ b.names := by
  have hsorted : (t.regularBelow root.key).Pairwise fun a b => keyLe a b = true ∧ a ≠ b :=
    (List.pairwise_mergeSort keyLe_trans keyLe_total _).and
      (ht.distinct.nodup_regularBelow root.key)
  rw [findings, ht.linkFree.filesBelow_eq ht.isDirectory]
  refine List.Pairwise.filterMap _ (fun a b hab f hf f' hf' => ?_) (hsorted.filter _)
  obtain ⟨_, -, -, -, -, -, -, hnames⟩ := finding?_eq_some hf
  obtain ⟨_, -, -, -, -, -, -, hnames'⟩ := finding?_eq_some hf'
  rw [hnames, hnames']
  exact hab

/-- Nothing is found twice. -/
theorem nodup_findings : ((findings t root outputDir questions).map Finding.names).Nodup :=
  List.pairwise_map.mpr ((pairwise_findings ht).imp fun h => h.2)

/-- A finding stays when it comes behind all others that could take its place. -/
theorem stays_iff : f.Stays (findings t root outputDir questions) ↔
    f ∈ findings t root outputDir questions ∧
      ∀ other ∈ findings t root outputDir questions, other.Replaces f →
        keyLe other.names f.names = true := by
  have hpairs : (findings t root outputDir questions).Pairwise _ := pairwise_findings ht
  constructor
  · intro h
    refine ⟨h.mem, fun other hother hreplaces => ?_⟩
    obtain ⟨before, after, hsplit, hafter⟩ := h
    rw [hsplit] at hother hpairs
    -- one that could take the place is not behind, and what is in front has the earlier name
    rcases List.mem_append.mp hother with hbefore | hmem
    · exact ((List.pairwise_append.mp hpairs).2.2 other hbefore f List.mem_cons_self).1
    · rcases List.mem_cons.mp hmem with rfl | hmem
      · simpa using keyLe_total other.names other.names
      · exact absurd hreplaces (hafter other hmem)
  · rintro ⟨hmem, hlast⟩
    obtain ⟨before, after, hsplit⟩ := List.append_of_mem hmem
    refine ⟨before, after, hsplit, fun later hlater hreplaces => ?_⟩
    rw [hsplit] at hlast hpairs
    -- each of the two would have the later name, and no name comes twice
    obtain ⟨hle, hne⟩ :=
      (List.pairwise_cons.mp (List.pairwise_append.mp hpairs).2.1).1 later hlater
    exact hne (keyLe_antisymm hle (hlast later (by simp [hlater]) hreplaces))

/-- **What stays** is the last artifact that reads as it does. -/
theorem of_stays (h : f.Stays (findings t root outputDir questions)) :
    ∃ name question, FoundAt questions f name question ∧
      IsArtifact t root outputDir questions f.directory name question ∧
      IsLast t root outputDir questions f.directory name := by
  obtain ⟨hmem, hlast⟩ := (stays_iff ht).mp h
  obtain ⟨name, question, hfound, hartifact⟩ := of_mem_findings ht hmem
  refine ⟨name, question, hfound, hartifact, fun other asked hother htext => ?_⟩
  obtain ⟨later, hf, hdirectory, hat⟩ := hother.exists_finding?
  have hle := hlast later (hother.mem_findings ht.linkFree ht.isDirectory hf)
    ((hfound.replaces_iff hat).mpr ⟨hdirectory, htext⟩)
  rw [hat.names, hfound.names, hdirectory] at hle
  exact (keyLe_concat _ _ _).mp hle

/-- **An artifact that is the last one** to read as it does has a finding that stays. -/
theorem IsArtifact.exists_stays
    (h : IsArtifact t root outputDir questions directory name question)
    (hlast : IsLast t root outputDir questions directory name) :
    ∃ f : Finding, f.Stays (findings t root outputDir questions) ∧ f.directory = directory ∧
      FoundAt questions f name question := by
  obtain ⟨f, hf, rfl, hfound⟩ := h.exists_finding?
  refine ⟨f, (stays_iff ht).mpr ⟨h.mem_findings ht.linkFree ht.isDirectory hf, ?_⟩, rfl, hfound⟩
  intro later hlater hreplaces
  obtain ⟨other, asked, hat, hother⟩ := of_mem_findings ht hlater
  obtain ⟨hdirectory, htext⟩ := (hfound.replaces_iff hat).mp hreplaces
  rw [hdirectory] at hother
  rw [hat.names, hfound.names, hdirectory]
  exact (keyLe_concat _ _ _).mpr (hlast other asked hother htext)

omit ht

/-! ## The links of a group -/

/-- Members of a list at increasing places of another are in the order of the other. -/
theorem sublist_pmap_get {α β : Type} {l : List α} {ms : List β} {place : β → Nat}
    (hlt : ms.Pairwise fun a b => place a < place b) (hplace : ∀ m ∈ ms, place m < l.length) :
    (ms.pmap (fun m (h : place m < l.length) => l[place m]) hplace).Sublist l := by
  have hmap : ms.pmap (fun m (h : place m < l.length) => l[place m]) hplace =
      (ms.pmap (fun m (h : place m < l.length) => (⟨place m, h⟩ : Fin l.length)) hplace).map
        (l[·]) := by
    rw [List.map_pmap]
    rfl
  rw [hmap]
  refine List.map_getElem_sublist ?_
  rw [List.pairwise_pmap]
  exact hlt.imp fun h _ _ => h

/-- The members of a group in the order of their questions, which is that of its links. -/
def Group.inOrder (g : Group) : List Finding :=
  g.members.mergeSort fun a b => a.question ≤ b.question

theorem Group.inOrder_perm (g : Group) : g.inOrder.Perm g.members := List.mergeSort_perm _ _

/-- In the order of the links every member has a later question than the one before. -/
theorem Group.Formed.pairwise_inOrder {found : List Finding} (h : g.Formed found) :
    g.inOrder.Pairwise fun a b => a.question < b.question := by
  have hle : g.inOrder.Pairwise fun a b => decide (a.question ≤ b.question) = true := by
    apply List.pairwise_mergeSort
    · intro a b c hab hbc
      simp only [decide_eq_true_eq] at hab hbc ⊢
      omega
    · intro a b
      simp only [Bool.or_eq_true, decide_eq_true_eq]
      omega
  have hne : g.inOrder.Pairwise fun a b => a.question ≠ b.question :=
    g.inOrder_perm.symm.pairwise h.apart Ne.symm
  refine hle.imp₂ ?_ hne
  intro a b hle hne
  exact Nat.lt_of_le_of_ne (of_decide_eq_true hle) hne

/-- The name of the file at which something is found. -/
def Finding.fileName (f : Finding) : String := f.names.getLast?.getD ""

theorem FoundAt.fileName_eq (h : FoundAt questions f name question) : f.fileName = name := by
  rw [Finding.fileName, h.names, List.getLast?_concat]
  rfl

include ht

/-- A member of a group is the artifact of a question, whose place it knows. -/
theorem of_mem_members (hg : g ∈ groups (findings t root outputDir questions))
    (hf : f ∈ g.members) :
    ∃ question, questions[f.question]? = some question ∧
      (f.label, f.link) = (question.label, ⟨g.directory ++ [f.fileName]⟩) ∧
      FileName.text f.fileName = g.stem ++ question.suffix ∧
      IsArtifact t root outputDir questions g.directory f.fileName question ∧
      IsLast t root outputDir questions g.directory f.fileName := by
  obtain ⟨hstays, hkey⟩ := (mem_members_iff hg).mp hf
  obtain ⟨hdirectory, hstem⟩ := Prod.mk.inj hkey
  obtain ⟨name, question, hfound, hartifact, hlast⟩ := of_stays ht hstays
  rw [hdirectory] at hartifact hlast
  rw [hfound.fileName_eq, hfound.link, hfound.label, hdirectory]
  exact ⟨question, hfound.place, rfl, hstem ▸ hfound.text, hartifact, hlast⟩

/-- **The links of a group** are those of its artifacts, in the order of the questions: an artifact
for each question that has one, the last of those that read alike. -/
theorem links_group (hg : g ∈ groups (findings t root outputDir questions)) :
    ∃ asked : List (Question × String), asked ≠ [] ∧ (asked.map Prod.fst).Sublist questions ∧
      g.links = asked.map (fun x => (x.1.label, ⟨g.directory ++ [x.2]⟩)) ∧
      ∀ question name, (question, name) ∈ asked ↔
        IsArtifact t root outputDir questions g.directory name question ∧
          IsLast t root outputDir questions g.directory name ∧
          FileName.text name = g.stem ++ question.suffix := by
  have hformed := formed_of_mem_groups hg
  have hmember : ∀ f ∈ g.inOrder, f ∈ g.members := fun f => g.inOrder_perm.mem_iff.mp
  have hplace : ∀ f ∈ g.inOrder, f.question < questions.length := by
    intro f hf
    obtain ⟨question, hget, -⟩ := of_mem_members ht hg (hmember f hf)
    exact (List.getElem?_eq_some_iff.mp hget).1
  refine ⟨g.inOrder.pmap (fun f (h : f.question < questions.length) =>
    (questions[f.question], f.fileName)) hplace, ?_, ?_, ?_, fun question name => ⟨?_, ?_⟩⟩
  · obtain ⟨f, hf⟩ := List.exists_mem_of_ne_nil _ hformed.inhabited
    have hne := List.ne_nil_of_mem (g.inOrder_perm.mem_iff.mpr hf)
    simpa using hne
  · -- the places among the questions increase from link to link
    rw [List.map_pmap]
    exact sublist_pmap_get hformed.pairwise_inOrder hplace
  · show g.inOrder.map (fun f => (f.label, f.link)) = _
    rw [List.map_pmap, ← List.pmap_eq_map hplace]
    apply List.pmap_congr_left
    intro f hf _ hf'
    obtain ⟨question, hget, hlink, -⟩ := of_mem_members ht hg (hmember f hf)
    rw [List.getElem?_eq_getElem hf'] at hget
    rw [hlink, Option.some.inj hget]
  · intro hasked
    obtain ⟨f, hf, heq⟩ := List.mem_pmap.mp hasked
    obtain ⟨rfl, rfl⟩ := Prod.mk.inj heq
    obtain ⟨question, hget, -, htext, hartifact, hlast⟩ := of_mem_members ht hg (hmember f hf)
    rw [List.getElem?_eq_getElem (hplace f hf)] at hget
    rw [Option.some.inj hget]
    exact ⟨hartifact, hlast, htext⟩
  · rintro ⟨hartifact, hlast, htext⟩
    obtain ⟨f, hstays, hdirectory, hfound⟩ := hartifact.exists_stays ht hlast
    -- what the name reads as and the suffix leave one stem, and so one group
    have hstem : f.stem = g.stem := by
      have hsame := hfound.text
      rw [htext] at hsame
      exact ((String.append_left_inj _).mp hsame).symm
    have hf : f ∈ g.inOrder :=
      g.inOrder_perm.mem_iff.mpr ((mem_members_iff hg).mpr ⟨hstays, Prod.ext hdirectory hstem⟩)
    have hget := hfound.place
    rw [List.getElem?_eq_getElem (hplace f hf)] at hget
    exact List.mem_pmap.mpr ⟨f, hf, Prod.ext (Option.some.inj hget) hfound.fileName_eq⟩

omit ht

end Index

end SourceTutor.Lesson
