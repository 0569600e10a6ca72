import SourceTutor.FileTree.Operations

/-!
# Nodes after a change

What stands at a key after something has been put in place or taken away, and well-formed trees: in
a well-formed tree whatever has a name stands in a directory. The directories above the top and the
root count as directories although the tree need not list them.
-/

set_option autoImplicit false

namespace SourceTutor.FileTree

variable {t : FileTree} {k k' : Key} {n : Node}

theorem lookup_filter_self (nodes : List (Key × Node)) (k : Key) :
    (nodes.filter (·.1 != k)).lookup k = none := by
  induction nodes with
  | nil => rfl
  | cons entry nodes ih =>
      obtain ⟨k', n⟩ := entry
      by_cases h : k' = k
      · simp [h, ih]
      · have hne : (k == k') = false := by simpa [beq_eq_false_iff_ne] using Ne.symm h
        simp [h, List.lookup_cons, hne, ih]

theorem lookup_filter_of_ne (nodes : List (Key × Node)) (h : k' ≠ k) :
    (nodes.filter (·.1 != k)).lookup k' = nodes.lookup k' := by
  induction nodes with
  | nil => rfl
  | cons entry nodes ih =>
      obtain ⟨other, n⟩ := entry
      by_cases hk : other = k
      · have hne : (k' == other) = false := by simpa [beq_eq_false_iff_ne, hk] using h
        simp only [hk] at hne
        simp [hk, List.lookup_cons, hne, ih]
      · by_cases heq : k' = other
        · subst heq
          simp [hk]
        · have hne : (k' == other) = false := by simpa [beq_eq_false_iff_ne] using heq
          simp [hk, List.lookup_cons, hne, ih]

theorem get?_erase_self (hk : k ≠ []) : (t.erase k).get? k = none := by
  rw [get?, if_neg hk]
  exact lookup_filter_self t.nodes k

theorem get?_erase_of_ne (h : k' ≠ k) : (t.erase k).get? k' = t.get? k' := by
  simp only [get?, erase, lookup_filter_of_ne t.nodes h]

theorem get?_insert_self (hk : k ≠ []) : (t.insert k n).get? k = some n := by
  rw [get?, if_neg hk, insert, List.lookup_append]
  have hnone : (t.erase k).nodes.lookup k = none := lookup_filter_self t.nodes k
  simp [hnone]

/-- What is in the tree when there is a node at a key. -/
theorem mem_insert {entry : Key × Node} :
    entry ∈ (t.insert k n).nodes ↔ entry = (k, n) ∨ entry ∈ t.nodes ∧ entry.1 ≠ k := by
  simp [FileTree.insert, FileTree.erase, or_comm]

theorem get?_insert_of_ne (h : k' ≠ k) : (t.insert k n).get? k' = t.get? k' := by
  have hne : (k' == k) = false := by simpa [beq_eq_false_iff_ne] using h
  rw [← get?_erase_of_ne (t := t) h]
  simp [get?, insert, List.lookup_append, List.lookup_cons, hne]

/-- After a move everything stands where it stood, or it is what was moved. -/
theorem get?_moved {x : Key} {m : Node} (hk : k ≠ []) (hk' : k' ≠ [])
    (h : ((t.erase k).insert k' n).get? x = some m) :
    t.get? x = some m ∨ x = k' ∧ m = n := by
  by_cases hthere : x = k'
  · rw [hthere, get?_insert_self hk'] at h
    exact .inr ⟨hthere, (Option.some.inj h).symm⟩
  · rw [get?_insert_of_ne hthere] at h
    by_cases hhere : x = k
    · rw [hhere, get?_erase_self hk] at h
      cases h
    · rw [get?_erase_of_ne hhere] at h
      exact .inl h

/-! ## Directories and well-formed trees -/

/-- A directory of the tree, the root, or a directory above the top. -/
def IsDirectory (t : FileTree) (k : Key) : Prop :=
  t.get? k = some .directory ∨ k.all (· == "..") = true ∨ k = Key.root

/-- Whatever has a name stands in a directory. -/
def WellFormed (t : FileTree) : Prop :=
  ∀ k name, t.get? (k ++ [name]) ≠ none → t.IsDirectory k

theorem mem_of_lookup {nodes : List (Key × Node)} (h : nodes.lookup k = some n) :
    (k, n) ∈ nodes := by
  induction nodes with
  | nil => cases h
  | cons entry nodes ih =>
      obtain ⟨k', n'⟩ := entry
      rw [List.lookup_cons] at h
      split at h
      · rename_i heq
        rw [beq_iff_eq.mp heq, Option.some.inj h]
        exact List.mem_cons_self ..
      · exact List.mem_cons_of_mem _ (ih h)

/-- A tree with nothing below its top but files, links and empty directories is well-formed. -/
theorem wellFormed_of_flat (h : ∀ entry ∈ t.nodes, entry.1.length = 1) : t.WellFormed := by
  intro k name hget
  obtain ⟨n, hn⟩ := Option.ne_none_iff_exists'.mp hget
  rw [get?, if_neg (by simp)] at hn
  have hlength := h _ (mem_of_lookup hn)
  simp only [List.length_append, List.length_singleton, Nat.add_eq_right] at hlength
  rw [List.length_eq_zero_iff.mp hlength]
  exact .inl rfl

/-- A tree is well-formed when each of its keys stands in a directory. -/
theorem wellFormed_of_nodes (h : ∀ entry ∈ t.nodes, t.IsDirectory entry.1.dropLast) :
    t.WellFormed := by
  intro k name hget
  obtain ⟨n, hn⟩ := Option.ne_none_iff_exists'.mp hget
  rw [get?, if_neg (by simp)] at hn
  have hdirectory := h _ (mem_of_lookup hn)
  rwa [List.dropLast_concat] at hdirectory

/-- A key that can be made or removed: neither the root nor a directory above the top. -/
def Ordinary (k : Key) : Prop := k.all (· == "..") = false ∧ k ≠ Key.root

theorem ordinary_concat (k : Key) {name : String} (hup : name ≠ "..") (hroot : name ≠ "/") :
    Ordinary (k ++ [name]) := by
  refine ⟨by simp [hup], fun h => hroot ?_⟩
  have := congrArg List.getLast? h
  simpa [Key.root] using this

theorem Ordinary.ne_nil (h : Ordinary k) : k ≠ [] := by
  rintro rfl
  simp [Ordinary] at h

theorem IsDirectory.get?_eq (h : t.IsDirectory k) (hk : Ordinary k) :
    t.get? k = some .directory := by
  rcases h with h | h | h
  · exact h
  · rw [hk.1] at h
    cases h
  · exact absurd h hk.2

/-- In a well-formed tree the way up from a directory leads to a directory. -/
theorem WellFormed.above (ht : t.WellFormed) (h : t.IsDirectory k) :
    t.IsDirectory (Key.above k) := by
  rw [Key.above]
  by_cases hup : k.all (· == "..") = true
  · rw [if_pos hup]
    exact .inr (.inl (by simpa using hup))
  · rw [if_neg hup]
    by_cases hroot : k = Key.root
    · rw [if_pos (by simpa using hroot)]
      exact .inr (.inr rfl)
    · rw [if_neg (by simpa using hroot)]
      -- any other directory is in the tree, and so stands in one itself
      have hk : Ordinary k := ⟨(Bool.not_eq_true _).mp hup, hroot⟩
      have hdir := h.get?_eq hk
      rw [← List.dropLast_concat_getLast hk.ne_nil] at hdir
      exact ht _ _ (by rw [hdir]; exact Option.some_ne_none _)

theorem IsDirectory.insert (h : t.IsDirectory k') (hk : t.get? k ≠ some .directory) :
    (t.insert k n).IsDirectory k' := by
  rcases h with h | h | h
  · by_cases heq : k' = k
    · exact absurd (heq ▸ h) hk
    · exact .inl (by rw [get?_insert_of_ne heq, h])
  · exact .inr (.inl h)
  · exact .inr (.inr h)

theorem IsDirectory.erase (h : t.IsDirectory k') (hk : t.get? k ≠ some .directory) :
    (t.erase k).IsDirectory k' := by
  rcases h with h | h | h
  · by_cases heq : k' = k
    · exact absurd (heq ▸ h) hk
    · exact .inl (by rw [get?_erase_of_ne heq, h])
  · exact .inr (.inl h)
  · exact .inr (.inr h)

/-- A tree stays well-formed when something is put into a directory, unless a directory has to make
room for it. -/
theorem WellFormed.insert (ht : t.WellFormed) {name : String} (hdir : t.IsDirectory k)
    (hk : t.get? (k ++ [name]) ≠ some .directory) :
    (t.insert (k ++ [name]) n).WellFormed := by
  intro k' other h
  by_cases heq : k' ++ [other] = k ++ [name]
  · obtain ⟨rfl, _⟩ := List.append_inj' heq rfl
    exact hdir.insert hk
  · rw [get?_insert_of_ne heq] at h
    exact (ht k' other h).insert hk

/-- A tree stays well-formed when a file or a link is taken away. -/
theorem WellFormed.erase (ht : t.WellFormed) (hk : t.get? k ≠ some .directory)
    (hord : Ordinary k) : (t.erase k).WellFormed := by
  intro k' name h
  have hne : k' ++ [name] ≠ k := by
    rintro rfl
    exact h (get?_erase_self hord.ne_nil)
  rw [get?_erase_of_ne hne] at h
  exact (ht k' name h).erase hk

/-- A file or nothing: what may be replaced by a file. -/
def Writable (t : FileTree) (k : Key) : Prop :=
  ∀ n, t.get? k = some n → ∃ bytes, n = .file bytes

theorem Writable.ne_directory (h : t.Writable k) : t.get? k ≠ some .directory := by
  intro hdir
  obtain ⟨bytes, hn⟩ := h _ hdir
  cases hn

theorem Writable.ne_link (h : t.Writable k) (target : Path) :
    t.get? k ≠ some (.link target) := by
  intro hlink
  obtain ⟨bytes, hn⟩ := h _ hlink
  cases hn

theorem writable_of_none (h : t.get? k = none) : t.Writable k := by
  intro n hn
  rw [h] at hn
  cases hn

theorem writable_of_file {bytes : ByteArray} (h : t.get? k = some (.file bytes)) :
    t.Writable k := by
  intro n hn
  rw [h] at hn
  exact ⟨bytes, (Option.some.inj hn).symm⟩

theorem writable_of_not (hdir : t.get? k ≠ some .directory)
    (hlink : ∀ target, t.get? k ≠ some (.link target)) : t.Writable k := by
  intro n hn
  cases n with
  | file bytes => exact ⟨bytes, rfl⟩
  | directory => exact absurd hn hdir
  | link target => exact absurd hn (hlink target)

/-- Nothing stands in what is not there. -/
theorem WellFormed.get?_below (ht : t.WellFormed) (hk : t.get? k = none) (hord : Ordinary k)
    (name : String) : t.get? (k ++ [name]) = none := by
  cases h : t.get? (k ++ [name]) with
  | none => rfl
  | some n =>
      rw [(ht k name (by simp [h])).get?_eq hord] at hk
      cases hk

end SourceTutor.FileTree
