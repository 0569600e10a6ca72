import Mathlib.Data.List.Induction
import Mathlib.Data.List.Nodup
import Mathlib.Data.List.Perm.Basic
import SourceTutor.Lesson.Index

/-!
# How findings are grouped

Findings of one directory and one stem are members of one group, and groups are told apart by what
their members share (`Index.nodup_groups`). A later finding takes the place of an earlier one in its
group that is for the same question; the members of the groups are the findings that stay
(`Index.mem_groups`), each of them once (`Index.nodup_members`).
-/

set_option autoImplicit false

namespace SourceTutor.Lesson.Index

variable {f member later : Finding} {g : Group} {gs : List Group} {found : List Finding}

/-! ## What stays -/

/-- What tells groups apart. -/
def Group.key (g : Group) : Key × String := (g.directory, g.stem)

/-- What tells the group of a finding. -/
def Finding.key (f : Finding) : Key × String := (f.directory, f.stem)

theorem owns_iff : g.owns f = true ↔ g.key = f.key := by
  simp [Group.owns, Group.key, Finding.key]

/-- Where this finding comes later than `f`, it takes its place: they have one group and one
question. -/
def Finding.Replaces (later f : Finding) : Prop :=
  later.key = f.key ∧ later.question = f.question

/-- No later finding takes the place of this one. -/
def Finding.Stays (f : Finding) (found : List Finding) : Prop :=
  ∃ before after, found = before ++ f :: after ∧ ∀ later ∈ after, ¬ later.Replaces f

theorem Finding.Stays.mem (h : f.Stays found) : f ∈ found := by
  obtain ⟨before, after, rfl, -⟩ := h
  simp

/-- One more finding stays, and makes those go whose place it takes. -/
theorem stays_concat :
    member.Stays (found ++ [f]) ↔ member = f ∨ member.Stays found ∧ ¬ f.Replaces member := by
  constructor
  · rintro ⟨before, after, hsplit, hafter⟩
    rcases List.eq_nil_or_concat after with rfl | ⟨after, last, rfl⟩
    · exact .inl (List.append_singleton_inj.mp hsplit).2.symm
    · rw [List.concat_eq_append, ← List.cons_append, ← List.append_assoc] at hsplit
      obtain ⟨hfound, rfl⟩ := List.append_singleton_inj.mp hsplit
      rw [List.concat_eq_append] at hafter
      exact .inr ⟨⟨before, after, hfound, fun later h => hafter later (List.mem_append_left _ h)⟩,
        hafter f (by simp)⟩
  · rintro (rfl | ⟨⟨before, after, rfl, hafter⟩, hlast⟩)
    · exact ⟨found, [], rfl, by simp⟩
    · refine ⟨before, after ++ [f], by simp, fun later h => ?_⟩
      rcases List.mem_append.mp h with hold | hnew
      · exact hafter later hold
      · rwa [List.mem_singleton.mp hnew]

/-- Every finding stays, or one that takes its place does. -/
theorem exists_stays (h : f ∈ found) : ∃ last : Finding, last.Stays found ∧ last.Replaces f := by
  induction found using List.reverseRecOn with
  | nil => cases h
  | append_singleton found x ih =>
      -- the last finding stays, whatever comes before it
      by_cases hx : x.Replaces f
      · exact ⟨x, stays_concat.mpr (.inl rfl), hx⟩
      have hold : f ∈ found := by
        refine (List.mem_append.mp h).resolve_right fun hnew => hx ?_
        rw [List.mem_singleton.mp hnew]
        exact ⟨rfl, rfl⟩
      obtain ⟨last, hstays, hlast⟩ := ih hold
      have hnot : ¬ x.Replaces last := fun h => hx ⟨h.1.trans hlast.1, h.2.trans hlast.2⟩
      exact ⟨last, stays_concat.mpr (.inr ⟨hstays, hnot⟩), hlast⟩

/-- A finding stays if nothing else takes its place. -/
theorem stays_of_forall (h : f ∈ found) (halone : ∀ other ∈ found, other.Replaces f → other = f) :
    f.Stays found := by
  obtain ⟨last, hstays, hlast⟩ := exists_stays h
  rwa [halone last hstays.mem hlast] at hstays

/-! ## One more finding -/

/-- A group of findings has members, all of them its own and each for another question, and its path
is that of a finding. -/
structure Group.Formed (g : Group) (found : List Finding) : Prop where
  inhabited : g.members ≠ []
  key : ∀ f ∈ g.members, f.key = g.key
  apart : g.members.Pairwise fun a b => a.question ≠ b.question
  path : ∃ f ∈ found, f.key = g.key ∧ f.path = g.path

theorem mem_add : member ∈ (g.add f).members ↔
    member = f ∨ member ∈ g.members ∧ member.question ≠ f.question := by
  simp [Group.add, or_comm]

theorem Group.Formed.concat (h : g.Formed found) (f : Finding) : g.Formed (found ++ [f]) := by
  obtain ⟨first, hfirst, hpath⟩ := h.path
  exact ⟨h.inhabited, h.key, h.apart, first, List.mem_append_left _ hfirst, hpath⟩

theorem Group.Formed.add (h : g.Formed found) (hkey : g.key = f.key) :
    (g.add f).Formed (found ++ [f]) := by
  obtain ⟨first, hfirst, hpath⟩ := h.path
  refine ⟨List.ne_nil_of_mem (mem_add.mpr (.inl rfl)), fun member hmember => ?_, ?_, first,
    List.mem_append_left _ hfirst, hpath⟩
  · rcases mem_add.mp hmember with rfl | ⟨hold, -⟩
    · exact hkey.symm
    · exact h.key member hold
  · refine List.pairwise_append.mpr ⟨h.apart.filter _, by simp, fun a ha b hb => ?_⟩
    rw [List.mem_singleton.mp hb]
    simpa using (List.mem_filter.mp ha).2

/-- The findings are in groups: every group is formed, no two have one key, and the members are the
findings that stay. -/
structure Grouped (gs : List Group) (found : List Finding) : Prop where
  formed : ∀ g ∈ gs, g.Formed found
  nodup : (gs.map Group.key).Nodup
  mem : ∀ member : Finding, (∃ g ∈ gs, member ∈ g.members) ↔ member.Stays found

theorem keys_addFinding (gs : List Group) :
    (addFinding gs f).map Group.key =
      if f.key ∈ gs.map Group.key then gs.map Group.key else gs.map Group.key ++ [f.key] := by
  induction gs with
  | nil => simp [addFinding, Group.key, Finding.key]
  | cons g rest ih =>
      rw [addFinding]
      split
      next howns =>
        rw [List.map_cons, List.map_cons, if_pos (List.mem_cons.mpr (.inl (owns_iff.mp howns).symm))]
        rfl
      next howns =>
        have hne : f.key ≠ g.key := fun heq => howns (owns_iff.mpr heq.symm)
        rw [List.map_cons, ih, List.map_cons]
        by_cases hmem : f.key ∈ rest.map Group.key
        · rw [if_pos hmem, if_pos (List.mem_cons_of_mem _ hmem)]
        · have hmem' : f.key ∉ g.key :: rest.map Group.key := by
            simp only [List.mem_cons, not_or]
            exact ⟨hne, hmem⟩
          rw [if_neg hmem, if_neg hmem', List.cons_append]

theorem formed_addFinding (h : ∀ g ∈ gs, g.Formed found) :
    ∀ g ∈ addFinding gs f, g.Formed (found ++ [f]) := by
  induction gs with
  | nil =>
      intro g hg
      rw [addFinding, List.mem_singleton] at hg
      subst hg
      exact ⟨by simp, by simp [Group.key, Finding.key], by simp, f, by simp, rfl, rfl⟩
  | cons g rest ih =>
      rw [List.forall_mem_cons] at h
      rw [addFinding]
      split
      next howns =>
        exact List.forall_mem_cons.mpr
          ⟨h.1.add (owns_iff.mp howns), fun other hother => (h.2 other hother).concat f⟩
      next => exact List.forall_mem_cons.mpr ⟨h.1.concat f, ih h.2⟩

/-- One more finding is one more member of a group, in which it takes the place of another. -/
theorem mem_addFinding (hkey : ∀ g ∈ gs, ∀ member ∈ g.members, Finding.key member = g.key)
    (hnodup : (gs.map Group.key).Nodup) :
    (∃ g ∈ addFinding gs f, member ∈ g.members) ↔
      member = f ∨ (∃ g ∈ gs, member ∈ g.members) ∧ ¬ f.Replaces member := by
  induction gs with
  | nil => simp [addFinding]
  | cons g rest ih =>
      rw [List.forall_mem_cons] at hkey
      obtain ⟨hfirst, hrest⟩ := List.nodup_cons.mp hnodup
      rw [addFinding]
      split
      next howns =>
        have hgroup := owns_iff.mp howns
        -- what is in the other groups has other keys
        have hother : (∃ g ∈ rest, member ∈ g.members) ∧ ¬ f.Replaces member ↔
            ∃ g ∈ rest, member ∈ g.members := by
          apply and_iff_left_of_imp
          rintro ⟨other, hmem, hmember⟩ hreplaces
          apply hfirst
          rw [hgroup, hreplaces.1, hkey.2 other hmem member hmember]
          exact List.mem_map_of_mem hmem
        have hhere : member ∈ g.members ∧ member.question ≠ f.question ↔
            member ∈ g.members ∧ ¬ f.Replaces member := by
          apply and_congr_right
          intro hmember
          rw [Finding.Replaces, hkey.1 member hmember, hgroup, ne_comm]
          simp
        rw [List.exists_mem_cons_iff, List.exists_mem_cons_iff, mem_add, hhere, or_assoc,
          or_and_right, hother]
      next howns =>
        have hhere : member ∈ g.members → ¬ f.Replaces member := by
          intro hmember hreplaces
          apply howns
          rw [owns_iff, hreplaces.1, hkey.1 member hmember]
        rw [List.exists_mem_cons_iff, List.exists_mem_cons_iff, ih hkey.2 hrest, or_and_right,
          and_iff_left_of_imp hhere, or_left_comm]

theorem Grouped.addFinding (h : Grouped gs found) (f : Finding) :
    Grouped (addFinding gs f) (found ++ [f]) := by
  refine ⟨formed_addFinding h.formed, ?_, fun member => ?_⟩
  · rw [keys_addFinding]
    split
    · exact h.nodup
    · rename_i hnew
      refine List.nodup_append.mpr ⟨h.nodup, by simp, fun a ha b hb => ?_⟩
      rw [List.mem_singleton.mp hb]
      exact fun heq => hnew (heq ▸ ha)
  · rw [mem_addFinding (fun g hg => (h.formed g hg).key) h.nodup, h.mem, stays_concat]

/-! ## All findings -/

/-- Findings that are taken one after the other are in groups. -/
theorem grouped_foldl (found : List Finding) : Grouped (found.foldl addFinding []) found := by
  -- from the right, since what comes last decides what stays
  induction found using List.reverseRecOn with
  | nil => exact ⟨by simp, by simp, fun member => by simp [Finding.Stays]⟩
  | append_singleton found f ih =>
      rw [List.foldl_append]
      exact ih.addFinding f

theorem grouped_groups (found : List Finding) : Grouped (groups found) found := by
  have hgrouped := grouped_foldl found
  have hperm : (groups found).Perm (found.foldl addFinding []) := List.mergeSort_perm _ _
  refine ⟨fun g hg => hgrouped.formed g (hperm.mem_iff.mp hg),
    ((hperm.map Group.key).nodup_iff).mpr hgrouped.nodup, fun member => ?_⟩
  rw [← hgrouped.mem member]
  simp only [hperm.mem_iff]

/-- **The members of the groups are the findings that stay.** -/
theorem mem_groups : (∃ g ∈ groups found, member ∈ g.members) ↔ member.Stays found :=
  (grouped_groups found).mem member

theorem formed_of_mem_groups (hg : g ∈ groups found) : g.Formed found :=
  (grouped_groups found).formed g hg

/-- **No two groups have one directory and one stem.** -/
theorem nodup_groups (found : List Finding) : ((groups found).map Group.key).Nodup :=
  (grouped_groups found).nodup

/-- A group has all the findings of its directory and stem that stay. -/
theorem mem_members_iff (hg : g ∈ groups found) :
    f ∈ g.members ↔ f.Stays found ∧ f.key = g.key := by
  constructor
  · intro hmember
    exact ⟨mem_groups.mp ⟨g, hg, hmember⟩, (formed_of_mem_groups hg).key f hmember⟩
  · rintro ⟨hstays, hkey⟩
    obtain ⟨g', hg', hmember⟩ := mem_groups.mpr hstays
    have hsame : g' = g := List.inj_on_of_nodup_map (nodup_groups found) hg' hg
      (((formed_of_mem_groups hg').key f hmember).symm.trans hkey)
    rwa [hsame] at hmember

/-- **No finding is a member twice.** -/
theorem nodup_members (found : List Finding) : ((groups found).flatMap Group.members).Nodup := by
  rw [List.nodup_flatMap]
  refine ⟨fun g hg => (formed_of_mem_groups hg).apart.imp fun hne heq => hne (congrArg _ heq), ?_⟩
  have hkeys : (groups found).Pairwise fun g h => g.key ≠ h.key :=
    List.pairwise_map.mp (nodup_groups found)
  refine hkeys.imp_of_mem fun {g h} hg hh hne => ?_
  intro f hf hf'
  exact hne (((formed_of_mem_groups hg).key f hf).symm.trans ((formed_of_mem_groups hh).key f hf'))

end SourceTutor.Lesson.Index
