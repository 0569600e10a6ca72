import SourceTutor.Proofs.FileTree.Resolve
import SourceTutor.Proofs.PathParts

/-!
# Paths that end with a step

A path that ends with a slash, with a `.` or with a `..` means a directory. No file is read,
replaced or removed under such a path, and nothing is written or made under a path that names
nothing at all.
-/

set_option autoImplicit false

namespace SourceTutor.FileTree

variable {t t' : FileTree} {p : Path}

/-! ## Walks that end with a step -/

/-- A walk that ends with a step ends at a directory, or where only a directory may be made. -/
theorem walkFrom_concat_step {aim : Aim} {links : Nat} {k : Key} {todo : List String}
    {last : String} {place : Place} (hlast : Path.isStep last = true)
    (h : t.walkFrom aim links k (todo ++ [last]) = .ok place) :
    (∃ k', place = .taken k' .directory) ∨ ∃ k', place = .free k' true := by
  -- the segments of a link are walked with fewer links left
  induction links using Nat.strongRecOn generalizing k todo with
  | ind links ihlinks =>
  induction todo generalizing k with
  | nil =>
      rw [List.nil_append] at h
      rcases Path.step_cases hlast with rfl | rfl | rfl
      · rw [walkFrom.eq_2, walkFrom.eq_1] at h
        exact .inl ⟨k, (Except.ok.inj h).symm⟩
      · rw [walkFrom.eq_3, walkFrom.eq_1] at h
        exact .inl ⟨k, (Except.ok.inj h).symm⟩
      · rw [walkFrom.eq_4, walkFrom.eq_1] at h
        exact .inl ⟨Key.above k, (Except.ok.inj h).symm⟩
  | cons segment rest ih =>
      have hne : rest ++ [last] ≠ [] := by simp
      rw [List.cons_append] at h
      rcases Path.segment_cases segment with rfl | rfl | rfl | hname
      · rw [walkFrom.eq_2] at h
        exact ih h
      · rw [walkFrom.eq_3] at h
        exact ih h
      · rw [walkFrom.eq_4] at h
        exact ih h
      rcases (walkFrom_name_cases hname h).2 with
        ⟨_, _, _, hplace⟩ | ⟨_, _, hnil, _⟩ | ⟨_, hon⟩ | ⟨_, _, ⟨hnil, _⟩ | ⟨left, rfl, hon⟩⟩
      · rw [List.isEmpty_eq_false_iff.mpr hne] at hplace
        exact .inr ⟨_, hplace⟩
      · exact absurd hnil hne
      · exact ih hon
      · exact absurd hnil hne
      · rw [← List.append_assoc] at hon
        exact ihlinks left (Nat.lt_succ_self left) hon

/-! ## What such a path leads to -/

/-- The path is empty, or ends with a slash, with a `.` or with a `..`. -/
def EndsInStep (p : Path) : Prop :=
  p.segments = [] ∨ ∃ dir last, p.segments = dir ++ [last] ∧ Path.isStep last = true

/-- Such a path leads to a directory or to nothing. -/
theorem EndsInStep.resolve_ok (h : EndsInStep p) {aim : Aim} {place : Place}
    (hok : t.resolve aim p = .ok place) :
    (∃ k, place = .taken k .directory) ∨ ∃ k, place = .free k true := by
  have hwalk := (walkFrom_of_resolve_eq_ok hok).2
  rcases h with h | ⟨dir, last, h, hlast⟩
  · rw [h, walkFrom.eq_1] at hwalk
    exact .inl ⟨_, (Except.ok.inj hwalk).symm⟩
  · rw [h] at hwalk
    exact walkFrom_concat_step hlast hwalk

theorem EndsInStep.not_linkAt (h : EndsInStep p) : ¬ t.LinkAt p := by
  rintro ⟨k, target, hok⟩
  rcases h.resolve_ok hok with ⟨k', hp⟩ | ⟨k', hp⟩ <;> cases hp

theorem EndsInStep.read_ne_ok (h : EndsInStep p) (bytes : ByteArray) : t.read p ≠ .ok bytes := by
  intro hread
  obtain ⟨key, hok⟩ := resolve_of_read_eq_ok hread
  rcases h.resolve_ok hok with ⟨k, hplace⟩ | ⟨k, hplace⟩ <;> cases hplace

/-! ## Operations on such paths -/

theorem endsInStep_of_all {p : Path} (h : p.segments.all Path.isStep = true) :
    EndsInStep p := by
  rcases List.eq_nil_or_concat p.segments with hnil | ⟨dir, last, hlast⟩
  · exact .inl hnil
  · rw [List.concat_eq_append] at hlast
    rw [hlast, List.all_append, List.all_cons, Bool.and_eq_true, Bool.and_eq_true] at h
    exact .inr ⟨dir, last, hlast, h.2.1⟩

theorem endsInStep_of_tail {p : Path} {dir tail : List String}
    (hp : p.segments = dir ++ tail) (hne : tail ≠ []) (htail : tail.all Path.isStep = true) :
    EndsInStep p := by
  rcases List.eq_nil_or_concat tail with hnil | ⟨rest, last, hlast⟩
  · exact absurd hnil hne
  · rw [List.concat_eq_append] at hlast
    rw [hlast, List.all_append, List.all_cons, Bool.and_eq_true, Bool.and_eq_true] at htail
    exact .inr ⟨dir ++ rest, last, by rw [hp, hlast, List.append_assoc], htail.2.1⟩

theorem walkFrom_steps (t : FileTree) (aim : Aim) (links : Nat) (k : Key) {todo : List String}
    (h : todo.all Path.isStep = true) :
    ∃ k', t.walkFrom aim links k todo = .ok (.taken k' .directory) := by
  induction todo generalizing k with
  | nil => exact ⟨k, by rw [walkFrom.eq_1]⟩
  | cons segment todo ih =>
      rw [List.all_cons, Bool.and_eq_true] at h
      rcases Path.step_cases h.1 with rfl | rfl | rfl
      · rw [walkFrom.eq_2]
        exact ih k h.2
      · rw [walkFrom.eq_3]
        exact ih k h.2
      · rw [walkFrom.eq_4]
        exact ih (Key.above k) h.2

/-- A path that names nothing is a directory that exists. -/
theorem resolve_steps (h : p.segments.all Path.isStep = true) {aim : Aim} {place : Place}
    (hok : t.resolve aim p = .ok place) : ∃ k, place = .taken k .directory := by
  obtain ⟨k, hwalk⟩ := walkFrom_steps t aim linkBudget p.home h
  rw [(walkFrom_of_resolve_eq_ok hok).2] at hwalk
  exact ⟨k, Except.ok.inj hwalk⟩

theorem createDirectory_steps (h : p.segments.all Path.isStep = true) :
    t.createDirectory p ≠ .ok t' := by
  intro hmade
  obtain ⟨key, slash, hok, _⟩ := resolve_of_createDirectory_eq_ok hmade
  obtain ⟨k, hplace⟩ := resolve_steps h hok
  cases hplace

theorem write_steps (h : p.segments.all Path.isStep = true) (bytes : ByteArray) :
    t.write p bytes ≠ .ok t' := by
  intro hwrite
  obtain ⟨key, _, ⟨old, hok⟩ | ⟨slash, hok⟩⟩ := resolve_of_write_eq_ok hwrite
  · obtain ⟨k, hplace⟩ := resolve_steps h hok
    cases hplace
  · obtain ⟨k, hplace⟩ := resolve_steps h hok
    cases hplace

theorem EndsInStep.rename_ne_ok (h : EndsInStep p) (source : Path) :
    t.rename source p ≠ .ok t' := by
  intro hrename
  obtain ⟨key, n, there, _, ⟨hok, _⟩ | ⟨n', hok, hkind, _⟩⟩ := resolve_of_rename_eq_ok hrename
  · rcases h.resolve_ok hok with ⟨k, hplace⟩ | ⟨k, hplace⟩ <;> cases hplace
  · rcases h.resolve_ok hok with ⟨k, hplace⟩ | ⟨k, hplace⟩
    · cases hplace
      exact hkind rfl
    · cases hplace

theorem EndsInStep.removeFile_ne_ok (h : EndsInStep p) : t.removeFile p ≠ .ok t' := by
  intro hremove
  obtain ⟨key, n, hok, hkind, hslash, _⟩ := resolve_of_removeFile_eq_ok hremove
  have hbare : p.withoutEndSlashes ≠ p := by
    intro hbare
    rw [hbare] at hok
    rcases h.resolve_ok hok with ⟨k, hplace⟩ | ⟨k, hplace⟩
    · cases hplace
      exact hkind rfl
    · cases hplace
  rcases h with hnil | ⟨dir, last, hp, hlast⟩
  · exact hbare (by rw [Path.withoutEndSlashes, hnil]; rfl)
  by_cases hne : last = ""
  · subst hne
    cases dir with
    | nil => exact hbare (by rw [Path.withoutEndSlashes, hp]; rfl)
    | cons first dir =>
        rw [Path.endsWithSlash, hp, List.getLast?_concat] at hslash
        simp at hslash
  · exact hbare (Path.withoutEndSlashes_of_ne hp hne)

end SourceTutor.FileTree
