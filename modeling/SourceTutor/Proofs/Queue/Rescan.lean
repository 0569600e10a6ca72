import SourceTutor.Proofs.Queue.Partition

/-!
# Scanning again

A scan that ignores artifacts keeps what is completed and what has failed, and queues the items of
the listing that are neither, each once (`ScanOptions.reconcile_of_not_skipExisting`). These are the
items that are `due`. `Reached` says how far a queue has come with a list of due items when the
outcome of an item is known in advance: it has filed the first so many of them in order. From there
a scan of the same listing queues the rest (`Reached.work_eq`), and filing the next item takes it
one further (`Reached.record`).
-/

set_option autoImplicit false

namespace SourceTutor

open Progress

/-! ## What is due -/

/-- The items that are not known, each once, in order. -/
def due (known : List String) : List String → List String
  | [] => []
  | item :: items => if item ∈ known then due known items else item :: due (item :: known) items

variable {known known' items : List String} {item : String}

theorem mem_due : item ∈ due known items ↔ item ∈ items ∧ item ∉ known := by
  induction items generalizing known with
  | nil => simp [due]
  | cons first items ih =>
      rw [due]
      split
      · rename_i hfirst
        rw [ih, List.mem_cons]
        constructor
        · rintro ⟨hitem, hknown⟩
          exact ⟨.inr hitem, hknown⟩
        · rintro ⟨rfl | hitem, hknown⟩
          · exact absurd hfirst hknown
          · exact ⟨hitem, hknown⟩
      · rename_i hfirst
        rw [List.mem_cons, List.mem_cons, ih, List.mem_cons, not_or]
        constructor
        · rintro (rfl | ⟨hitem, _, hknown⟩)
          · exact ⟨.inl rfl, hfirst⟩
          · exact ⟨.inr hitem, hknown⟩
        · rintro ⟨rfl | hitem, hknown⟩
          · exact .inl rfl
          · by_cases heq : item = first
            · exact .inl heq
            · exact .inr ⟨hitem, heq, hknown⟩

theorem nodup_due (known items : List String) : (due known items).Nodup := by
  induction items generalizing known with
  | nil => exact List.nodup_nil
  | cons first items ih =>
      rw [due]
      split
      · exact ih known
      · refine List.nodup_cons.mpr ⟨fun hmem => ?_, ih _⟩
        exact (mem_due.mp hmem).2 (List.mem_cons_self ..)

theorem due_congr (h : ∀ item, item ∈ known ↔ item ∈ known') :
    due known items = due known' items := by
  induction items generalizing known known' with
  | nil => rfl
  | cons first items ih =>
      rw [due, due]
      by_cases hfirst : first ∈ known
      · rw [if_pos hfirst, if_pos ((h first).mp hfirst), ih h]
      · rw [if_neg hfirst, if_neg fun h' => hfirst ((h first).mpr h')]
        refine congrArg _ (ih fun item => ?_)
        rw [List.mem_cons, List.mem_cons, h item]

/-- When more is known, less is due. -/
theorem due_append (known more items : List String) :
    due (known ++ more) items = (due known items).filter (· ∉ more) := by
  induction items generalizing known with
  | nil => rfl
  | cons first items ih =>
      by_cases hfirst : first ∈ known
      · rw [due, due, if_pos (List.mem_append_left _ hfirst), if_pos hfirst, ih]
      by_cases hmore : first ∈ more
      · -- the item is due only with the fewer known, and then known there as well
        rw [due, due, if_pos (List.mem_append_right _ hmore), if_neg hfirst,
          List.filter_cons_of_neg (by simpa using hmore), ← ih, List.cons_append]
        refine due_congr fun item => ?_
        rw [List.mem_cons, List.mem_append]
        constructor
        · exact .inr
        · rintro (rfl | hitem)
          · exact .inr hmore
          · exact hitem
      · rw [due, due, if_neg (by simp [hfirst, hmore]), if_neg hfirst,
          List.filter_cons_of_pos (by simpa using hmore), ← ih, List.cons_append]

/-! ## Scans that ignore artifacts -/

/-- The items that are neither completed nor failed. -/
def Progress.work (q : Progress) (items : List String) : List String :=
  due (q.completed ++ q.failed) items

theorem isKnown_iff (q : Progress) (item : String) : q.isKnown item = true ↔ item ∈ q.items := by
  simp [isKnown, isPending, isCompleted, isFailed, mem_items, or_assoc]

/-- Adding items one after the other queues those that are due. -/
theorem foldl_enqueue (q : Progress) (items : List String) :
    items.foldl enqueue q = { q with pending := q.pending ++ due q.items items } := by
  induction items generalizing q with
  | nil => simp [due]
  | cons first items ih =>
      rw [List.foldl_cons, ih, due, enqueue]
      by_cases hfirst : first ∈ q.items
      · rw [if_pos hfirst, if_pos ((isKnown_iff q first).mpr hfirst)]
      · rw [if_neg hfirst, if_neg fun h => hfirst ((isKnown_iff q first).mp h)]
        -- an item that is added is known from then on
        have hsame : ∀ item, item ∈ ({ q with pending := q.pending ++ [first] } : Progress).items ↔
            item ∈ first :: q.items := by
          intro item
          simp only [mem_items, List.mem_append, List.mem_cons, List.not_mem_nil, or_false]
          rw [or_assoc, or_left_comm]
        rw [due_congr hsame]
        simp only [List.append_assoc, List.singleton_append]

namespace ScanOptions

/-- The items that a scan finds: the files below a directory that the rules accept. -/
def listed (options : ScanOptions) (t : FileTree) (root : Path) : List String :=
  ((t.listFiles root).filter options.rules.accepts).map Path.toString

/-- **A scan that ignores artifacts** queues what is due. -/
theorem reconcile_of_not_skipExisting {options : ScanOptions}
    (h : options.skipExisting = false) (t : FileTree) (files : List Path) (q : Progress) :
    options.reconcile t files q = { q with
      pending := q.work ((files.filter options.rules.accepts).map Path.toString) } := by
  have hplace : ∀ q source, options.place t q source =
      if options.rules.accepts source then q.enqueue source.toString else q := by
    intro q source
    rw [place, skips, h, Bool.false_and]
    by_cases haccepts : options.rules.accepts source <;> simp [haccepts]
  have hfold : ∀ q : Progress, files.foldl (options.place t) q =
      ((files.filter options.rules.accepts).map Path.toString).foldl enqueue q := by
    induction files with
    | nil => exact fun _ => rfl
    | cons source files ih =>
        intro q
        rw [List.foldl_cons, hplace, List.filter_cons]
        split
        · rw [List.map_cons, List.foldl_cons, ih]
        · exact ih q
  rw [reconcile, hfold, foldl_enqueue]
  rfl

end ScanOptions

/-! ## How far a queue has come -/

/-- The items among the first `n` that have this outcome. -/
def filed (work : List String) (outcome : String → Outcome) (n : Nat) (o : Outcome) : List String :=
  (work.take n).filter fun item => outcome item = o

/-- The queue has come from `start` to the item number `n` of the work, and has filed the items
before. -/
structure Reached (start : Progress) (items : List String) (outcome : String → Outcome) (n : Nat)
    (q : Progress) : Prop where
  completed_eq : q.completed = start.completed ++ filed (start.work items) outcome n .completed
  failed_eq : q.failed = start.failed ++ filed (start.work items) outcome n .failed

theorem filter_not_mem_take {work : List String} (h : work.Nodup) (n : Nat) :
    work.filter (· ∉ work.take n) = work.drop n := by
  rw [← List.take_append_drop n work, List.nodup_append] at h
  have hsplit : ∀ first rest : List String, (∀ x ∈ first, ∀ y ∈ rest, x ≠ y) →
      (first ++ rest).filter (· ∉ first) = rest := by
    intro first rest hdisjoint
    rw [List.filter_append, List.filter_eq_nil_iff.mpr (by simp), List.nil_append,
      List.filter_eq_self.mpr]
    intro x hx
    simpa using fun hmem => hdisjoint x hmem x hx rfl
  have hwhole := hsplit (work.take n) (work.drop n) h.2.2
  rwa [List.take_append_drop] at hwhole

/-- The next item of the work, and what follows. -/
theorem drop_eq_cons {work waiting : List String} {item : String} {n : Nat}
    (h : work.drop n = item :: waiting) :
    work.drop (n + 1) = waiting ∧ work.take (n + 1) = work.take n ++ [item] := by
  have hlt : n < work.length := by
    have hlength := congrArg List.length h
    simp only [List.length_drop, List.length_cons] at hlength
    omega
  rw [List.drop_eq_getElem_cons hlt] at h
  obtain ⟨rfl, rfl⟩ := List.cons.inj h
  exact ⟨rfl, List.take_succ_eq_append_getElem hlt⟩

theorem filed_succ {work waiting : List String} {item : String} {n : Nat}
    (h : work.drop n = item :: waiting) (outcome : String → Outcome) (o : Outcome) :
    filed work outcome (n + 1) o =
      filed work outcome n o ++ if outcome item = o then [item] else [] := by
  rw [filed, (drop_eq_cons h).2, List.filter_append, filed]
  by_cases ho : outcome item = o <;> simp [ho]

namespace Reached

variable {start q : Progress} {items waiting : List String} {outcome : String → Outcome} {n : Nat}
  {item : String}

theorem zero (start : Progress) (items : List String) (outcome : String → Outcome) :
    Reached start items outcome 0 start :=
  ⟨by simp [filed], by simp [filed]⟩

/-- What is known: what was at the start, and the items before number `n`. -/
theorem known_iff (h : Reached start items outcome n q) :
    item ∈ q.completed ++ q.failed ↔
      item ∈ (start.completed ++ start.failed) ++ (start.work items).take n := by
  -- what has been filed has one of the two outcomes
  have hfiled : item ∈ (start.work items).take n ↔
      item ∈ filed (start.work items) outcome n .completed ∨
        item ∈ filed (start.work items) outcome n .failed := by
    simp only [filed, List.mem_filter, decide_eq_true_eq]
    constructor
    · intro hmem
      cases ho : outcome item with
      | completed => exact .inl ⟨hmem, rfl⟩
      | failed => exact .inr ⟨hmem, rfl⟩
    · rintro (⟨hmem, _⟩ | ⟨hmem, _⟩) <;> exact hmem
  rw [h.completed_eq, h.failed_eq]
  simp only [List.mem_append, hfiled]
  exact or_or_or_comm

/-- **A scan queues the rest of the work.** -/
theorem work_eq (h : Reached start items outcome n q) :
    q.work items = (start.work items).drop n := by
  rw [work, due_congr fun item => h.known_iff, due_append]
  exact filter_not_mem_take (nodup_due _ _) n

/-- An item of the rest of the work is new. -/
theorem not_known (h : Reached start items outcome n q)
    (hitem : item ∈ (start.work items).drop n) : item ∉ q.completed ++ q.failed := by
  rw [← h.work_eq] at hitem
  exact (mem_due.mp hitem).2

/-- **Filing the next item** takes a queue one further. -/
theorem record (h : Reached start items outcome n q) (hq : q.pending = item :: waiting)
    (hpending : q.pending = (start.work items).drop n) :
    Reached start items outcome (n + 1)
      ({ q with pending := waiting }.record item (outcome item)) ∧
    ({ q with pending := waiting }.record item (outcome item)).pending =
      (start.work items).drop (n + 1) := by
  have hdrop : (start.work items).drop n = item :: waiting := hpending.symm.trans hq
  have hnew := h.not_known (hdrop ▸ List.mem_cons_self ..)
  -- an item that is due once is neither among the finished ones nor among those behind it
  have hwaiting : item ∉ waiting := by
    have hrest : (start.work items).Nodup := nodup_due _ _
    have hrest := hrest.sublist (List.drop_sublist n _)
    rw [hdrop] at hrest
    exact (List.nodup_cons.mp hrest).1
  rw [List.mem_append, not_or] at hnew
  rw [(drop_eq_cons hdrop).1]
  cases ho : outcome item with
  | completed =>
      refine ⟨⟨?_, ?_⟩, drop_of_not_mem hwaiting⟩
      · rw [filed_succ hdrop, ho, if_pos rfl, ← List.append_assoc, ← h.completed_eq]
        exact addOnce_of_not_mem hnew.1
      · rw [filed_succ hdrop, ho, if_neg nofun, List.append_nil, ← h.failed_eq]
        exact drop_of_not_mem hnew.2
  | failed =>
      refine ⟨⟨?_, ?_⟩, drop_of_not_mem hwaiting⟩
      · rw [filed_succ hdrop, ho, if_neg nofun, List.append_nil, ← h.completed_eq]
        exact drop_of_not_mem hnew.1
      · rw [filed_succ hdrop, ho, if_pos rfl, ← List.append_assoc, ← h.failed_eq]
        exact addOnce_of_not_mem hnew.2

/-- A scan keeps how far the queue has come, and queues the rest of the work. -/
theorem reconcile (h : Reached start items outcome n q) {options : ScanOptions} {t : FileTree}
    {root : Path} (hskip : options.skipExisting = false) (hlisted : options.listed t root = items) :
    Reached start items outcome n (options.reconcile t (t.listFiles root) q) ∧
      (options.reconcile t (t.listFiles root) q).pending = (start.work items).drop n := by
  rw [ScanOptions.reconcile_of_not_skipExisting hskip, ← h.work_eq, ← hlisted]
  exact ⟨⟨hlisted ▸ h.completed_eq, hlisted ▸ h.failed_eq⟩, rfl⟩

end Reached

end SourceTutor
