import SourceTutor.Proofs.FileTree.Below

/-!
# Listings in order

The files below a directory are listed in an order in which no two lists of names are equal
(`keyLe_antisymm`), so that a listing is known from what is in it. When no key stands twice in the tree
nothing is listed twice (`nodup_regularBelow`), and a file that is written changes at most whether it
is listed itself (`filter_regularBelow_insert`).
-/

set_option autoImplicit false

namespace SourceTutor.FileTree

variable {t : FileTree} {top key : Key} {n : Node}

/-! ## The order of keys -/

theorem keyLe_trans (a b c : Key) (h : keyLe a b = true) (h' : keyLe b c = true) :
    keyLe a c = true :=
  listLe_trans FileName.orders a b c h h'

theorem keyLe_total (a b : Key) : (keyLe a b || keyLe b a) = true :=
  listLe_total FileName.orders a b

theorem keyLe_antisymm {a b : Key} (h : keyLe a b = true) (h' : keyLe b a = true) : a = b :=
  listLe_antisymm FileName.orders h h'

/-- Sorting and leaving some out can be done in either order. -/
theorem filter_mergeSort_keyLe (p : Key → Bool) (ks : List Key) :
    (ks.mergeSort keyLe).filter p = (ks.filter p).mergeSort keyLe :=
  (((List.mergeSort_perm ks _).filter p).trans (List.mergeSort_perm _ _).symm).eq_of_pairwise
    (fun _ _ _ _ => keyLe_antisymm)
    ((List.pairwise_mergeSort keyLe_trans keyLe_total ks).filter p)
    (List.pairwise_mergeSort keyLe_trans keyLe_total _)

/-! ## What is listed -/

/-- No key stands twice in the tree. -/
def Distinct (t : FileTree) : Prop := (t.nodes.map Prod.fst).Nodup

theorem Distinct.get?_eq (ht : t.Distinct) (hkey : key ≠ []) (h : (key, n) ∈ t.nodes) :
    t.get? key = some n := by
  rw [get?, if_neg hkey]
  obtain ⟨nodes⟩ := t
  rw [Distinct] at ht
  induction nodes with
  | nil => cases h
  | cons entry nodes ih =>
      obtain ⟨k, m⟩ := entry
      rw [List.map_cons, List.nodup_cons] at ht
      rw [List.lookup_cons]
      rcases List.mem_cons.mp h with heq | hmem
      · obtain ⟨rfl, rfl⟩ := Prod.mk.inj heq
        simp
      · have hne : key ≠ k := by
          rintro rfl
          exact ht.1 (List.mem_map.mpr ⟨_, hmem, rfl⟩)
        have hbeq : (key == k) = false := by simpa using hne
        rw [hbeq]
        exact ih ht.2 hmem

/-- The names that lead down to a file tell its key. -/
theorem key_of_names {names : Key}
    (h : (if isRegular n then namesBelow? top key else none) = some names) : top ++ names = key := by
  split at h
  · obtain ⟨_, _, _, _, hkey⟩ := namesBelow?_eq_some.mp h
    exact hkey.symm
  · cases h

/-- In a tree without repetitions nothing is listed twice. -/
theorem Distinct.nodup_regularBelow (ht : t.Distinct) (top : Key) : (t.regularBelow top).Nodup := by
  rw [regularBelow, (List.mergeSort_perm _ _).nodup_iff]
  have hpairs : t.nodes.Pairwise fun a b => a.1 ≠ b.1 := List.pairwise_map.mp ht
  refine List.Pairwise.filterMap _ (fun a b hne x hx y hy => ?_) hpairs
  rintro rfl
  exact hne ((key_of_names hx).symm.trans (key_of_names hy))

/-- The names that lead to a key are those that come from it. -/
theorem filter_namesBelow (top key : Key) (nodes : List (Key × Node)) :
    (nodes.filterMap fun (k, m) => if isRegular m then namesBelow? top k else none).filter
        (fun names => top ++ names != key) =
      (nodes.filter (·.1 != key)).filterMap fun (k, m) =>
        if isRegular m then namesBelow? top k else none := by
  rw [List.filter_filterMap, List.filterMap_filter]
  refine congrArg (fun f => nodes.filterMap f) (funext fun entry => ?_)
  obtain ⟨k, m⟩ := entry
  dsimp only
  cases hnames : (if isRegular m then namesBelow? top k else none) with
  | none => simp
  | some names => rw [Option.filter_some, key_of_names hnames]

/-- **A file that is written** changes at most whether it is listed itself. -/
theorem filter_regularBelow_insert (t : FileTree) (top key : Key) (n : Node) :
    ((t.insert key n).regularBelow top).filter (fun names => top ++ names != key) =
      (t.regularBelow top).filter fun names => top ++ names != key := by
  rw [regularBelow, regularBelow, filter_mergeSort_keyLe, filter_mergeSort_keyLe,
    filter_namesBelow, filter_namesBelow, insert, erase, List.filter_append, List.filter_filter]
  simp

end SourceTutor.FileTree
