import SourceTutor.Proofs.FileTree.LinkFree

/-!
# Room for files

A file can be written at a path that points to a file or to nothing (`HasRoom`), and a file can be
moved there. Neither makes or removes a directory or a link, so that room which is there before is
there afterwards: `Steady` says that a tree has the directories and the links of another one, and
its files at certain keys.
-/

set_option autoImplicit false

namespace SourceTutor.FileTree

variable {t t' t'' : FileTree} {p target : Path} {dir : List String} {name : String}
  {key key' : Key} {bytes : ByteArray} {kept : List Key}

/-- There is room for a file at the path: it points to this key, where a file or nothing is. -/
def HasRoom (t : FileTree) (p : Path) (key : Key) : Prop :=
  t.Writable key ∧
    ∃ dir name, p.segments = dir ++ [name] ∧ Path.IsName name ∧ t.PointsTo p dir name key

/-- The path points to a directory. -/
def HasDirectory (t : FileTree) (p : Path) : Prop :=
  ∃ dir name key, p.segments = dir ++ [name] ∧ Path.IsName name ∧ t.PointsTo p dir name key ∧
    t.get? key = some .directory

/-! ## What succeeds -/

/-- What is found where there is room. -/
theorem HasRoom.resolve_eq (h : t.HasRoom p key) (aim : Aim) :
    t.resolve aim p =
      .ok (match t.get? key with
        | none => .free key false
        | some n => .taken key n) := by
  obtain ⟨hw, dir, name, hp, hname, hpoints⟩ := h
  exact hpoints.resolve_eq hp hname hw.ne_link aim

theorem HasRoom.write_eq (h : t.HasRoom p key) (bytes : ByteArray) :
    t.write p bytes = .ok (t.insert key (.file bytes)) := by
  rw [write, h.resolve_eq]
  cases hget : t.get? key with
  | none => rfl
  | some n =>
      obtain ⟨old, rfl⟩ := h.1 n hget
      rfl

theorem HasRoom.read_eq_ok (h : t.HasRoom p key) (hget : t.get? key = some (.file bytes)) :
    t.read p = .ok bytes := by
  obtain ⟨hw, dir, name, hp, hname, hpoints⟩ := h
  exact read_eq_ok_iff_finds.mpr ⟨key, hpoints.findsAt hp hname hw, hget⟩

theorem HasRoom.isFile_eq_false (h : t.HasRoom p key) (hget : t.get? key = none) :
    t.isFile p = false := by
  rw [isFile, node?, h.resolve_eq, hget]

/-- A file is moved to where there is room. -/
theorem HasRoom.rename_eq (h : t.HasRoom p key) (hget : t.get? key = some (.file bytes))
    (h' : t.HasRoom target key') (hne : key' ≠ key) :
    t.rename p target = .ok ((t.erase key).insert key' (.file bytes)) := by
  rw [rename, h.resolve_eq, h'.resolve_eq, hget]
  cases hget' : t.get? key' with
  | none => rfl
  | some n =>
      obtain ⟨old, rfl⟩ := h'.1 n hget'
      show (if key' = key then Except.ok t else .ok ((t.erase key).insert key' (.file bytes))) = _
      rw [if_neg hne]

theorem HasDirectory.resolve_eq (h : t.HasDirectory p) (aim : Aim) :
    ∃ key, t.resolve aim p = .ok (.taken key .directory) := by
  obtain ⟨dir, name, key, hp, hname, hpoints, hget⟩ := h
  have hplace := hpoints.resolve_eq hp hname (by simp [hget]) aim
  rw [hget] at hplace
  exact ⟨key, hplace⟩

theorem HasDirectory.isDirectory (h : t.HasDirectory p) : t.isDirectory p = true := by
  obtain ⟨key, hplace⟩ := h.resolve_eq .target
  rw [FileTree.isDirectory, node?, hplace]

/-- A directory that is there need not be made. -/
theorem HasDirectory.createDirectories_eq (h : t.HasDirectory p) :
    t.createDirectories p = (t, .ok ()) := by
  have hexists : t.createDirectory p = .error .alreadyExists := by
    obtain ⟨key, hplace⟩ := h.resolve_eq .entry
    rw [createDirectory, hplace]
    rfl
  rw [createDirectories, createUpward.eq_2, hexists]
  by_cases hempty : p.isEmpty
  · rw [if_pos hempty]
  · rw [if_neg hempty]
    dsimp only
    rw [if_pos h.isDirectory]

/-! ## What stays -/

theorem SameWays.refl (t : FileTree) : SameWays t t :=
  ⟨⟨fun _ h => h, fun _ _ h => h⟩, ⟨fun _ h => h, fun _ _ h => h⟩⟩

theorem SameWays.trans (h : SameWays t t') (h' : SameWays t' t'') : SameWays t t'' :=
  ⟨h.keepsWays.trans h'.keepsWays, h'.back.trans h.back⟩

theorem SameWays.writable (h : SameWays t t') (hw : t.Writable key) : t'.Writable key :=
  writable_of_not (mt (h.back.directory key) hw.ne_directory)
    fun target => mt (h.back.link key target) (hw.ne_link target)

theorem SameWays.hasRoom (h : SameWays t t') (hroom : t.HasRoom p key) : t'.HasRoom p key := by
  obtain ⟨hw, dir, name, hp, hname, hpoints⟩ := hroom
  exact ⟨h.writable hw, dir, name, hp, hname, h.keepsWays.pointsTo hpoints⟩

theorem SameWays.hasDirectory (h : SameWays t t') (hdir : t.HasDirectory p) :
    t'.HasDirectory p := by
  obtain ⟨dir, name, key, hp, hname, hpoints, hget⟩ := hdir
  exact ⟨dir, name, key, hp, hname, h.keepsWays.pointsTo hpoints, h.keepsWays.directory key hget⟩

/-- The trees have the same directories and links, and the files of the first one at these keys are
in the second one too. -/
structure Steady (kept : List Key) (t t' : FileTree) : Prop where
  ways : SameWays t t'
  file : ∀ key ∈ kept, ∀ bytes, t.get? key = some (.file bytes) →
    t'.get? key = some (.file bytes)

namespace Steady

theorem refl (kept : List Key) (t : FileTree) : Steady kept t t := ⟨.refl t, fun _ _ _ h => h⟩

theorem insert_file (h : Steady kept t t') (hw : t'.Writable key) (hkey : key ∉ kept)
    (bytes : ByteArray) : Steady kept t (t'.insert key (.file bytes)) := by
  refine ⟨h.ways.trans (hw.sameWays_insert hw.ne_nil bytes), fun other hother found hget => ?_⟩
  have hne : other ≠ key := fun heq => hkey (heq ▸ hother)
  rw [get?_insert_of_ne hne]
  exact h.file other hother found hget

theorem erase_file (h : Steady kept t t') (hw : t'.Writable key) (hkey : key ∉ kept) :
    Steady kept t (t'.erase key) := by
  refine ⟨h.ways.trans (hw.sameWays_erase hw.ne_nil), fun other hother found hget => ?_⟩
  have hne : other ≠ key := fun heq => hkey (heq ▸ hother)
  rw [get?_erase_of_ne hne]
  exact h.file other hother found hget

/-- A kept file is read as before. -/
theorem read_eq_ok (h : Steady kept t t') (hroom : t.HasRoom p key) (hkey : key ∈ kept)
    (hget : t.get? key = some (.file bytes)) : t'.read p = .ok bytes :=
  (h.ways.hasRoom hroom).read_eq_ok (h.file key hkey bytes hget)

/-- **A write succeeds where there is room**, and leaves room. -/
theorem write (h : Steady kept t t') (hroom : t.HasRoom p key) (hkey : key ∉ kept)
    (bytes : ByteArray) :
    t'.write p bytes = .ok (t'.insert key (.file bytes)) ∧
      Steady kept t (t'.insert key (.file bytes)) :=
  ⟨(h.ways.hasRoom hroom).write_eq bytes, h.insert_file (h.ways.writable hroom.1) hkey bytes⟩

end Steady

end SourceTutor.FileTree
