import SourceTutor.Queue.Scan

/-!
# No item twice

A queue is partitioned when no item occurs twice in it, be it in one list or in two. Filing an item
and adding one keep a queue partitioned, and so does a scan, which starts from the two lists of
finished items and adds to them. An item that is taken from the queue is missing from all three
lists until it is filed; then the queue holds the same items as before.
-/

set_option autoImplicit false

namespace SourceTutor

namespace Progress

variable {q q' : Progress} {item x : String} {list : List String}

/-- The items of the queue, wherever they are. -/
def items (q : Progress) : List String := q.pending ++ (q.completed ++ q.failed)

/-- No item is there twice. -/
def Partitioned (q : Progress) : Prop := q.items.Nodup

/-- The queues hold the same items. -/
def SameItems (q q' : Progress) : Prop := ∀ item, item ∈ q.items ↔ item ∈ q'.items

theorem SameItems.refl (q : Progress) : SameItems q q := fun _ => Iff.rfl

theorem SameItems.trans {q'' : Progress} (h : SameItems q q') (h' : SameItems q' q'') :
    SameItems q q'' :=
  fun item => (h item).trans (h' item)

/-! ## The lists -/

@[simp] theorem mem_drop : x ∈ drop list item ↔ x ∈ list ∧ x ≠ item := by
  simp [drop]

@[simp] theorem mem_addOnce : x ∈ addOnce list item ↔ x ∈ list ∨ x = item := by
  rw [addOnce]
  split
  · rename_i h
    refine ⟨.inl, ?_⟩
    rintro (hx | rfl)
    · exact hx
    · exact List.contains_iff_mem.mp h
  · simp

theorem drop_of_not_mem (h : item ∉ list) : drop list item = list := by
  refine List.filter_eq_self.mpr fun x hx => ?_
  have hne : x ≠ item := fun heq => h (heq ▸ hx)
  simpa using hne

theorem addOnce_of_not_mem (h : item ∉ list) : addOnce list item = list ++ [item] := by
  rw [addOnce, if_neg fun hmem => h (List.contains_iff_mem.mp hmem)]

theorem nodup_drop (h : list.Nodup) : (drop list item).Nodup := h.filter _

theorem nodup_concat (h : list.Nodup) (hnew : item ∉ list) : (list ++ [item]).Nodup := by
  rw [List.nodup_append]
  refine ⟨h, by simp, ?_⟩
  rintro x hx y hy rfl
  exact hnew (List.mem_singleton.mp hy ▸ hx)

theorem nodup_addOnce (h : list.Nodup) : (addOnce list item).Nodup := by
  rw [addOnce]
  split
  · exact h
  · rename_i hmem
    exact nodup_concat h fun hm => hmem (List.contains_iff_mem.mpr hm)

theorem mem_items : x ∈ q.items ↔ x ∈ q.pending ∨ x ∈ q.completed ∨ x ∈ q.failed := by
  simp [items]

/-- The three lists of a partitioned queue, one by one and against one another. -/
theorem partitioned_iff : q.Partitioned ↔
    q.pending.Nodup ∧ q.completed.Nodup ∧ q.failed.Nodup ∧
      (∀ x ∈ q.pending, x ∉ q.completed ∧ x ∉ q.failed) ∧ ∀ x ∈ q.completed, x ∉ q.failed := by
  simp only [Partitioned, items, List.nodup_append, List.mem_append]
  constructor
  · rintro ⟨hp, ⟨hc, hf, hcf⟩, hpc⟩
    refine ⟨hp, hc, hf, fun x hx => ⟨fun hm => ?_, fun hm => ?_⟩, fun x hx hm => ?_⟩
    · exact hpc x hx x (.inl hm) rfl
    · exact hpc x hx x (.inr hm) rfl
    · exact hcf x hx x hm rfl
  · rintro ⟨hp, hc, hf, hpc, hcf⟩
    refine ⟨hp, ⟨hc, hf, ?_⟩, ?_⟩
    · rintro x hx y hy rfl
      exact hcf x hx hy
    · rintro x hx y (hy | hy) rfl
      · exact (hpc x hx).1 hy
      · exact (hpc x hx).2 hy

theorem partitioned_empty : empty.Partitioned := List.nodup_nil

/-! ## The operations -/

/-- Filing an item keeps a queue partitioned, wherever the item was. -/
theorem Partitioned.record (h : q.Partitioned) (item : String) (o : Outcome) :
    (q.record item o).Partitioned := by
  rw [partitioned_iff] at h ⊢
  obtain ⟨hp, hc, hf, hpc, hcf⟩ := h
  -- the list that takes the item is the only one that keeps it
  cases o with
  | completed =>
      refine ⟨nodup_drop hp, nodup_addOnce hc, nodup_drop hf, fun x hx => ?_, fun x hx hm => ?_⟩
      · obtain ⟨hx, hne⟩ := mem_drop.mp hx
        refine ⟨fun hm => ?_, fun hm => (hpc x hx).2 (mem_drop.mp hm).1⟩
        exact (mem_addOnce.mp hm).elim (hpc x hx).1 hne
      · obtain ⟨hm, hne⟩ := mem_drop.mp hm
        exact (mem_addOnce.mp hx).elim (hcf x · hm) hne
  | failed =>
      refine ⟨nodup_drop hp, nodup_drop hc, nodup_addOnce hf, fun x hx => ?_, fun x hx hm => ?_⟩
      · obtain ⟨hx, hne⟩ := mem_drop.mp hx
        refine ⟨fun hm => (hpc x hx).1 (mem_drop.mp hm).1, fun hm => ?_⟩
        exact (mem_addOnce.mp hm).elim (hpc x hx).2 hne
      · obtain ⟨hx, hne⟩ := mem_drop.mp hx
        exact (mem_addOnce.mp hm).elim (hcf x hx) hne

/-- Adding an item keeps a queue partitioned. -/
theorem Partitioned.enqueue (h : q.Partitioned) (item : String) :
    (q.enqueue item).Partitioned := by
  rw [Progress.enqueue]
  split
  · exact h
  · rename_i hknown
    simp only [isKnown, isPending, isCompleted, isFailed, Bool.or_eq_true, not_or,
      List.contains_iff_mem] at hknown
    obtain ⟨⟨hnp, hnc⟩, hnf⟩ := hknown
    rw [partitioned_iff] at h ⊢
    obtain ⟨hp, hc, hf, hpc, hcf⟩ := h
    refine ⟨nodup_concat hp hnp, hc, hf, fun x hx => ?_, hcf⟩
    · rcases List.mem_append.mp hx with hx | hx
      · exact hpc x hx
      · obtain rfl := List.mem_singleton.mp hx
        exact ⟨hnc, hnf⟩

/-- Fewer waiting items keep a queue partitioned. -/
theorem Partitioned.of_pending_sublist {waiting : List String} (h : q.Partitioned)
    (hw : waiting.Sublist q.pending) : { q with pending := waiting }.Partitioned :=
  h.sublist (hw.append_right _)

/-- The item at the front is filed: the queue is partitioned as before. -/
theorem Partitioned.record_next {waiting : List String} (h : q.Partitioned)
    (hq : q.pending = item :: waiting) (o : Outcome) :
    ({ q with pending := waiting }.record item o).Partitioned :=
  (h.of_pending_sublist (hq ▸ List.sublist_cons_self ..)).record item o

/-- The item at the front is filed: the queue holds the same items as before. -/
theorem sameItems_record_next {waiting : List String} (hq : q.pending = item :: waiting)
    (o : Outcome) : SameItems ({ q with pending := waiting }.record item o) q := by
  intro x
  rw [mem_items, mem_items, hq, List.mem_cons]
  by_cases hx : x = item
  · cases o <;> simp [Progress.record, hx]
  · cases o <;> simp [Progress.record, hx]

end Progress

/-! ## Scans -/

namespace ScanOptions

open Progress

variable {q : Progress}

theorem partitioned_place (options : ScanOptions) (t : FileTree) (h : q.Partitioned)
    (source : Path) : (options.place t q source).Partitioned := by
  rw [place]
  split
  · exact h
  split
  · exact h.record _ _
  · exact h.enqueue _

/-- **A scan makes a partitioned queue** from a partitioned one. -/
theorem partitioned_reconcile (options : ScanOptions) (t : FileTree) (files : List Path)
    (h : q.Partitioned) : (options.reconcile t files q).Partitioned := by
  have hstart : { q with pending := [] }.Partitioned := h.of_pending_sublist (List.nil_sublist _)
  rw [reconcile]
  generalize { q with pending := [] } = q₀ at hstart ⊢
  induction files generalizing q₀ with
  | nil => exact hstart
  | cons source files ih => exact ih _ (options.partitioned_place t hstart source)

end ScanOptions

end SourceTutor
