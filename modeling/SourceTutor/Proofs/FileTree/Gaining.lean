import SourceTutor.Proofs.FileTree.Finds
import SourceTutor.Proofs.FileTree.Making

/-!
# Trees that gain nodes

A tree gains nodes when everything in it stays as it is (`Gains`). Whatever could be read before is
read afterwards, under every path and with the same bytes (`Gains.read_eq_ok`). Directories that are
made and files that are written where there was nothing are gained.
-/

set_option autoImplicit false

namespace SourceTutor.FileTree

variable {t t' t'' : FileTree} {p : Path} {k key : Key} {n : Node} {links : Nat} {aim : Aim}
  {slash : Bool} {todo : List String}

/-! ## Free places -/

/-- Where a walk finds a free place nothing stands. -/
theorem get?_of_walkFrom_free (h : t.walkFrom aim links k todo = .ok (.free key slash)) :
    t.get? key = none := by
  -- the segments of a link are walked with fewer links left
  induction links using Nat.strongRecOn generalizing k todo with
  | ind links ihlinks =>
  induction todo generalizing k with
  | nil =>
      rw [walkFrom.eq_1] at h
      cases h
  | cons segment rest ih =>
      rcases Path.segment_cases segment with rfl | rfl | rfl | hname
      · rw [walkFrom.eq_2] at h
        exact ih h
      · rw [walkFrom.eq_3] at h
        exact ih h
      · rw [walkFrom.eq_4] at h
        exact ih h
      rcases (walkFrom_name_cases hname h).2 with
        ⟨hget, _, _, hplace⟩ | ⟨_, _, _, hplace⟩ | ⟨_, hon⟩ | ⟨_, _, ⟨_, _, hplace⟩ | ⟨left, rfl, hon⟩⟩
      · cases hplace
        exact hget
      · cases hplace
      · exact ih hon
      · cases hplace
      · exact ihlinks left (Nat.lt_succ_self left) hon

theorem get?_of_resolve_free (h : t.resolve aim p = .ok (.free key slash)) : t.get? key = none :=
  get?_of_walkFrom_free (walkFrom_of_resolve_eq_ok h).2

/-! ## What is gained -/

/-- Everything in the first tree is in the second one. -/
def Gains (t t' : FileTree) : Prop := ∀ key n, t.get? key = some n → t'.get? key = some n

theorem Gains.refl (t : FileTree) : Gains t t := fun _ _ h => h

theorem Gains.trans (h : Gains t t') (h' : Gains t' t'') : Gains t t'' :=
  fun key n hget => h' key n (h key n hget)

theorem Gains.of_insert (h : t.get? k = none) (n : Node) : Gains t (t.insert k n) := by
  intro key m hget
  have hne : key ≠ k := by
    rintro rfl
    rw [h] at hget
    cases hget
  rwa [get?_insert_of_ne hne]

/-- **What could be read is read as before.** -/
theorem Gains.read_eq_ok (h : Gains t t') {bytes : ByteArray} (hread : t.read p = .ok bytes) :
    t'.read p = .ok bytes := by
  obtain ⟨key, hfound, hget⟩ := read_eq_ok_iff_finds.mp hread
  have hget' := h key _ hget
  have hways : KeepsWays t t' := ⟨fun key => h key _, fun key _ => h key _⟩
  exact read_eq_ok_iff_finds.mpr ⟨key, hfound.congr (writable_of_file hget') hways, hget'⟩

/-- Directories that are made are gained. -/
theorem MadeAbove.gains (h : MadeAbove p t t') : Gains t t' := by
  induction h with
  | refl => exact .refl _
  | step _ _ hmade ih =>
      obtain ⟨key, slash, hok, rfl⟩ := resolve_of_createDirectory_eq_ok hmade
      exact ih.trans (.of_insert (get?_of_resolve_free hok) _)

end SourceTutor.FileTree
