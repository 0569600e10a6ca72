import Mathlib.Data.List.Basic
import SourceTutor.Proofs.Lesson.Linking

/-!
# How an index is arranged

The links of an index are those of what has been found and stays, in another order
(`Index.links_build_perm`): the sections take the entries by the rank of their language, and no rank
is left out. What is promised of an index is a structure, `Index.Faithful`, and every index that is
built keeps it (`Index.faithful_build`).
-/

set_option autoImplicit false

namespace SourceTutor.Lesson

open FileTree
open scoped List

/-- The names that lead to the artifacts of an entry. -/
def IndexEntry.directory (entry : IndexEntry) : Key :=
  match entry.links with
  | [] => []
  | link :: _ => link.2.segments.dropLast

/-- The order of entries: by name, then by directory. -/
def IndexEntry.Le (a b : IndexEntry) : Prop :=
  a.name < b.name ∨ a.name = b.name ∧ keyLe a.directory b.directory = true

namespace Index

/-- All links, section by section and entry by entry. -/
def links (index : Index) : List (String × Path) :=
  index.sections.flatMap fun s => s.entries.flatMap IndexEntry.links

variable {t : FileTree} {root : Path} {outputDir : String} {questions : List Question}
  {rules : EligibilityRules} {titled : List Titled} {place : Nat} {s : IndexSection} {g : Group}

/-! ## What has a rank -/

/-- What has ranks below a bound is found rank by rank. -/
theorem flatMap_filter_perm {α : Type} (place : α → Nat) (l : List α) (bound : Nat) :
    ((List.range bound).flatMap fun i => l.filter fun x => place x == i).Perm
      (l.filter fun x => place x < bound) := by
  induction bound with
  | zero => simp
  | succ bound ih =>
      rw [List.range_succ, List.flatMap_append, List.flatMap_singleton]
      -- what is below the next bound is below this one, or has just this rank
      have hbelow : (l.filter fun x => place x < bound + 1).filter (fun x => place x < bound) =
          l.filter fun x => place x < bound := by
        rw [List.filter_filter]
        refine List.filter_congr fun x _ => ?_
        rw [Bool.eq_iff_iff]
        simp only [Bool.and_eq_true, decide_eq_true_eq]
        omega
      have hhere : (l.filter fun x => place x < bound + 1).filter (fun x => !(place x < bound)) =
          l.filter fun x => place x == bound := by
        rw [List.filter_filter]
        refine List.filter_congr fun x _ => ?_
        rw [Bool.eq_iff_iff]
        simp only [Bool.and_eq_true, Bool.not_eq_true', decide_eq_false_iff_not, decide_eq_true_eq,
          beq_iff_eq]
        omega
      have hsplit := List.filter_append_perm (fun x => decide (place x < bound))
        (l.filter fun x => place x < bound + 1)
      rw [hbelow, hhere] at hsplit
      exact (ih.append_right _).trans hsplit

theorem rank_lt (rules : EligibilityRules) (language : String) :
    rank rules language < rules.extensions.length + 1 :=
  Nat.lt_succ_of_le List.findIdx_le_length

/-! ## The sections -/

/-- A section has entries and their rank, and its entries are those of this rank, in order. -/
theorem of_sectionOf? (h : sectionOf? rules titled place = some s) :
    s.entries ≠ [] ∧ rank rules s.language = place ∧
      (∃ x ∈ titled, x.language = s.language) ∧
      s.entries = ((titled.filter fun x => rank rules x.language == place).mergeSort
        Titled.le).map Titled.entry := by
  rw [sectionOf?] at h
  split at h
  · cases h
  next first rest hfilter =>
    cases h
    have hfirst : first ∈ titled.filter fun x => rank rules x.language == place := by
      rw [hfilter]
      exact List.mem_cons_self
    obtain ⟨hmem, hrank⟩ := List.mem_filter.mp hfirst
    refine ⟨List.ne_nil_of_length_pos (by simp), by simpa using hrank, ⟨first, hmem, rfl⟩, ?_⟩
    rw [hfilter]

theorem of_sectionOf?_eq_none (h : sectionOf? rules titled place = none) :
    (titled.filter fun x => rank rules x.language == place) = [] := by
  rw [sectionOf?] at h
  split at h
  next hfilter => exact hfilter
  · cases h

/-- What is read off the sections is what is read off the groups of each rank. -/
theorem flatMap_sections_perm {α : Type} (list : IndexSection → List α) (item : Titled → α)
    (h : ∀ place s, sectionOf? rules titled place = some s → (list s).Perm
      ((titled.filter fun x => rank rules x.language == place).map item)) :
    (((List.range (rules.extensions.length + 1)).filterMap (sectionOf? rules titled)).flatMap
      list).Perm (titled.map item) := by
  have hplace : ∀ place, ((sectionOf? rules titled place).toList.flatMap list).Perm
      ((titled.filter fun x => rank rules x.language == place).map item) := by
    intro place
    cases hsection : sectionOf? rules titled place with
    | none => simp [of_sectionOf?_eq_none hsection]
    | some s =>
        rw [Option.toList_some, List.flatMap_singleton]
        exact h place s hsection
  -- every language has one of the ranks that are gone through
  have hall : (titled.filter fun x => rank rules x.language < rules.extensions.length + 1) =
      titled := by
    apply List.filter_eq_self.mpr
    intro x _
    exact decide_eq_true (rank_lt rules x.language)
  have hranks := flatMap_filter_perm (fun x : Titled => rank rules x.language) titled
    (rules.extensions.length + 1)
  rw [hall] at hranks
  rw [List.filterMap_eq_flatMap_toList, List.flatMap_assoc]
  calc (List.range (rules.extensions.length + 1)).flatMap
          (fun place => (sectionOf? rules titled place).toList.flatMap list)
      ~ (List.range (rules.extensions.length + 1)).flatMap (fun place =>
          (titled.filter fun x => rank rules x.language == place).map item) := by
        apply List.Perm.flatMap_left
        intro place _
        exact hplace place
    _ = ((List.range (rules.extensions.length + 1)).flatMap (fun place =>
          titled.filter fun x => rank rules x.language == place)).map item := by
        rw [List.map_flatMap]
    _ ~ titled.map item := hranks.map item

/-- **No entry is lost** in the sections, and none stands in two. -/
theorem entries_perm (rules : EligibilityRules) (titled : List Titled) :
    (((List.range (rules.extensions.length + 1)).filterMap (sectionOf? rules titled)).flatMap
      IndexSection.entries).Perm (titled.map Titled.entry) := by
  refine flatMap_sections_perm _ _ fun place s h => ?_
  rw [(of_sectionOf? h).2.2.2]
  exact (List.mergeSort_perm _ _).map _

/-- The sections are in the order of their ranks. -/
theorem pairwise_rank (rules : EligibilityRules) (titled : List Titled) (n : Nat) :
    ((List.range n).filterMap (sectionOf? rules titled)).Pairwise
      fun a b => rank rules a.language < rank rules b.language := by
  refine List.Pairwise.filterMap _ (fun i j hij a ha b hb => ?_) List.pairwise_lt_range
  rw [(of_sectionOf? ha).2.1, (of_sectionOf? hb).2.1]
  exact hij

/-- One finding makes one section with one entry. -/
theorem build_of_findings_singleton {f : Finding}
    (h : findings t root outputDir questions = [f]) {x : Titled}
    (hx : title t root rules ⟨f.directory, f.path, f.stem, [f]⟩ = x) :
    build t root outputDir questions rules = ⟨[⟨x.language, [x.entry]⟩]⟩ := by
  have hgroups : groups [f] = [⟨f.directory, f.path, f.stem, [f]⟩] := by
    simp [groups, addFinding]
  have hsection : ∀ place, sectionOf? rules [x] place =
      if rank rules x.language = place then some ⟨x.language, [x.entry]⟩ else none := by
    intro place
    by_cases hplace : rank rules x.language = place <;> simp [sectionOf?, hplace]
  have hrange : ∀ bound, (List.range bound).filterMap (sectionOf? rules [x]) =
      if rank rules x.language < bound then [⟨x.language, [x.entry]⟩] else [] := by
    intro bound
    induction bound with
    | zero => simp
    | succ bound ih =>
        rw [List.range_succ, List.filterMap_append, ih, List.filterMap_cons, List.filterMap_nil,
          hsection]
        rcases Nat.lt_trichotomy (rank rules x.language) bound with hlt | heq | hgt
        · rw [if_pos hlt, if_neg (Nat.ne_of_lt hlt), if_pos (Nat.lt_succ_of_lt hlt)]
          rfl
        · rw [heq, if_neg (Nat.lt_irrefl _), if_pos rfl, if_pos (Nat.lt_succ_self _)]
          rfl
        · rw [if_neg (Nat.lt_asymm hgt), if_neg (Nat.ne_of_gt hgt), if_neg (by omega)]
          rfl
  rw [build, h, hgroups, List.map_singleton, hx, hrange, if_pos (rank_lt rules _)]

/-! ## The order of entries -/

theorem le_iff (a b : Titled) : Titled.le a b = true ↔
    a.entry.name < b.entry.name ∨
      a.entry.name = b.entry.name ∧ keyLe a.directory b.directory = true := by
  rw [Titled.le]
  split
  next heq => simp [heq]
  next hne => simp [hne]

theorem le_trans (a b c : Titled) (h : Titled.le a b = true) (h' : Titled.le b c = true) :
    Titled.le a c = true := by
  rw [le_iff] at h h' ⊢
  rcases h with h | ⟨heq, h⟩ <;> rcases h' with h' | ⟨heq', h'⟩
  · exact .inl (String.lt_trans h h')
  · exact .inl (heq' ▸ h)
  · exact .inl (heq ▸ h')
  · exact .inr ⟨heq.trans heq', keyLe_trans _ _ _ h h'⟩

theorem le_total (a b : Titled) : (Titled.le a b || Titled.le b a) = true := by
  rw [Bool.or_eq_true, le_iff, le_iff]
  by_cases heq : a.entry.name = b.entry.name
  · have htotal := keyLe_total a.directory b.directory
    rw [Bool.or_eq_true] at htotal
    exact htotal.imp (fun hle => .inr ⟨heq, hle⟩) fun hle => .inr ⟨heq.symm, hle⟩
  · exact (FileName.lt_or_lt heq).imp .inl .inl

/-! ## What is promised of an index -/

/-- **The links of an index** are those of what has been found and stays, in another order. -/
theorem links_build_perm (t : FileTree) (root : Path) (outputDir : String)
    (questions : List Question) (rules : EligibilityRules) :
    (build t root outputDir questions rules).links.Perm
      (((groups (findings t root outputDir questions)).flatMap Group.members).map
        fun f => (f.label, f.link)) := by
  obtain ⟨found, hfound⟩ : ∃ found, found = findings t root outputDir questions := ⟨_, rfl⟩
  have hentries := entries_perm rules ((groups found).map (title t root rules))
  have hgroup : ∀ g : Group, g.links.Perm (g.members.map fun f => (f.label, f.link)) :=
    fun g => g.inOrder_perm.map _
  rw [links, build, ← hfound, ← List.flatMap_assoc]
  calc (((List.range (rules.extensions.length + 1)).filterMap (sectionOf? rules
          ((groups found).map (title t root rules)))).flatMap IndexSection.entries).flatMap
            IndexEntry.links
      ~ (((groups found).map (title t root rules)).map Titled.entry).flatMap IndexEntry.links :=
        hentries.flatMap_right _
    _ = (groups found).flatMap Group.links := by
        simp only [List.map_map, List.flatMap_map, Function.comp_apply, links_title]
    _ ~ (groups found).flatMap (fun g => g.members.map fun f => (f.label, f.link)) := by
        apply List.Perm.flatMap_left
        intro g _
        exact hgroup g
    _ = ((groups found).flatMap Group.members).map (fun f => (f.label, f.link)) := by
        rw [List.map_flatMap]

/-- What an index promises about the artifacts of a directory. -/
structure Faithful (index : Index) (t : FileTree) (root : Path) (outputDir : String)
    (questions : List Question) (rules : EligibilityRules) : Prop where
  /-- Every artifact that is the last one to read as it does is linked to, by the label of its
  question, and nothing else is. -/
  lists : ∀ label path, (label, path) ∈ index.links ↔ ∃ directory name question,
    IsArtifact t root outputDir questions directory name question ∧
      IsLast t root outputDir questions directory name ∧ label = question.label ∧
      path = ⟨directory ++ [name]⟩
  /-- No artifact is linked to twice. -/
  once : (index.links.map Prod.snd).Nodup
  /-- An entry has artifacts of one directory and one stem, and has all of them, in the order of
  their questions. -/
  entry : ∀ s ∈ index.sections, ∀ entry ∈ s.entries, ∃ stem, ∃ asked : List (Question × String),
    asked ≠ [] ∧ (asked.map Prod.fst).Sublist questions ∧
      entry.links = asked.map (fun x => (x.1.label, ⟨entry.directory ++ [x.2]⟩)) ∧
      ∀ question name, (question, name) ∈ asked ↔
        IsArtifact t root outputDir questions entry.directory name question ∧
          IsLast t root outputDir questions entry.directory name ∧
          FileName.text name = stem ++ question.suffix
  inhabited : ∀ s ∈ index.sections, s.entries ≠ []
  sorted : ∀ s ∈ index.sections, s.entries.Pairwise IndexEntry.Le
  /-- The sections are in the order of the extensions that stand for their languages. -/
  ranked : index.sections.Pairwise fun a b => rank rules a.language < rank rules b.language
  titles : (index.sections.map IndexSection.language).Nodup

variable (ht : Plain t root)

include ht

/-- An entry leads to the directory of its group. -/
theorem directory_title (hg : g ∈ groups (findings t root outputDir questions)) :
    (title t root rules g).entry.directory = g.directory ∧
      (title t root rules g).directory = g.directory := by
  obtain ⟨asked, hne, -, hlinks, -⟩ := links_group ht hg
  obtain ⟨⟨question, name⟩, rest, rfl⟩ := List.exists_cons_of_ne_nil hne
  constructor
  · rw [IndexEntry.directory, links_title, hlinks]
    exact List.dropLast_concat
  · rw [title]
    split <;> rfl

theorem lists_build (label : String) (path : Path) :
    (label, path) ∈ (build t root outputDir questions rules).links ↔ ∃ directory name question,
      IsArtifact t root outputDir questions directory name question ∧
        IsLast t root outputDir questions directory name ∧ label = question.label ∧
        path = ⟨directory ++ [name]⟩ := by
  rw [(links_build_perm t root outputDir questions rules).mem_iff, List.mem_map]
  simp only [List.mem_flatMap, mem_groups]
  constructor
  · rintro ⟨f, hf, hlink⟩
    obtain ⟨rfl, rfl⟩ := Prod.mk.inj hlink
    obtain ⟨name, question, hfound, hartifact, hlast⟩ := of_stays ht hf
    exact ⟨f.directory, name, question, hartifact, hlast, hfound.label, hfound.link⟩
  · rintro ⟨directory, name, question, hartifact, hlast, rfl, rfl⟩
    obtain ⟨f, hf, rfl, hfound⟩ := hartifact.exists_stays ht hlast
    exact ⟨f, hf, by rw [hfound.label, hfound.link]⟩

theorem once_build : ((build t root outputDir questions rules).links.map Prod.snd).Nodup := by
  rw [((links_build_perm t root outputDir questions rules).map Prod.snd).nodup_iff, List.map_map]
  refine (List.nodup_map_iff_inj_on (nodup_members _)).mpr fun f hf f' hf' heq => ?_
  simp only [List.mem_flatMap, mem_groups] at hf hf'
  obtain ⟨name, question, hfound, -⟩ := of_stays ht hf
  obtain ⟨name', question', hfound', -⟩ := of_stays ht hf'
  -- a link tells the names that lead to its file, at which there is one finding
  rw [Function.comp_apply, Function.comp_apply, hfound.link, hfound'.link] at heq
  refine List.inj_on_of_nodup_map (nodup_findings ht) hf.mem hf'.mem ?_
  rw [hfound.names, hfound'.names]
  exact (Path.mk.injEq _ _).mp heq

/-- An entry has the links of a group. -/
theorem entry_build (hs : s ∈ (build t root outputDir questions rules).sections)
    {entry : IndexEntry} (hentry : entry ∈ s.entries) :
    ∃ stem, ∃ asked : List (Question × String),
      asked ≠ [] ∧ (asked.map Prod.fst).Sublist questions ∧
        entry.links = asked.map (fun x => (x.1.label, ⟨entry.directory ++ [x.2]⟩)) ∧
        ∀ question name, (question, name) ∈ asked ↔
          IsArtifact t root outputDir questions entry.directory name question ∧
            IsLast t root outputDir questions entry.directory name ∧
            FileName.text name = stem ++ question.suffix := by
  obtain ⟨x, hx, rfl⟩ := mem_sections.mp ⟨s, hs, hentry⟩
  obtain ⟨g, hg, rfl⟩ := List.mem_map.mp hx
  rw [links_title, (directory_title ht hg).1]
  exact ⟨g.stem, links_group ht hg⟩

theorem sorted_build (hs : s ∈ (build t root outputDir questions rules).sections) :
    s.entries.Pairwise IndexEntry.Le := by
  obtain ⟨place, -, hplace⟩ := List.mem_filterMap.mp hs
  obtain ⟨-, -, -, hentries⟩ := of_sectionOf? hplace
  rw [hentries, List.pairwise_map]
  -- the directory by which a group is sorted is the one that its links lead to
  have hdirectory : ∀ x ∈ (((groups (findings t root outputDir questions)).map
      (title t root rules)).filter fun x => rank rules x.language == place).mergeSort Titled.le,
      x.directory = x.entry.directory := by
    intro x hx
    obtain ⟨g, hg, rfl⟩ := List.mem_map.mp (List.mem_of_mem_filter (List.mem_mergeSort.mp hx))
    obtain ⟨hentry, htitle⟩ := directory_title ht hg
    rw [hentry, htitle]
  refine (List.pairwise_mergeSort le_trans le_total _).imp_of_mem ?_
  intro x y hx hy hle
  rw [le_iff, hdirectory x hx, hdirectory y hy] at hle
  exact hle

omit ht in
theorem inhabited_build (hs : s ∈ (build t root outputDir questions rules).sections) :
    s.entries ≠ [] := by
  obtain ⟨place, -, hplace⟩ := List.mem_filterMap.mp hs
  exact (of_sectionOf? hplace).1

omit ht in
theorem titles_build : ((build t root outputDir questions rules).sections.map
    IndexSection.language).Nodup := by
  rw [List.Nodup, List.pairwise_map]
  refine (pairwise_rank rules _ _).imp ?_
  intro a b hlt heq
  rw [heq] at hlt
  exact Nat.lt_irrefl _ hlt

/-- **An index keeps what it promises.** -/
theorem faithful_build (outputDir : String) (questions : List Question)
    (rules : EligibilityRules) :
    (build t root outputDir questions rules).Faithful t root outputDir questions rules where
  lists := lists_build ht
  once := once_build ht
  entry _ hs _ hentry := entry_build ht hs hentry
  inhabited _ hs := inhabited_build hs
  sorted _ hs := sorted_build ht hs
  ranked := pairwise_rank rules _ _
  titles := titles_build

end Index

end SourceTutor.Lesson
