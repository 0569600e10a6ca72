import SourceTutor.Proofs.FileTree.Gaining
import SourceTutor.Proofs.FileTree.Room

/-!
# Trees in which files stay files

A tree grows when directories, links and files stay what they are, whatever is written into the
files (`Grows`). A path that leads to a file leads to one afterwards. Directories that are made and
files that are written let a tree grow, whatever links there are. A move does not: it leaves nothing
where the file was that has been moved. But a path that leads to another file still leads to one, as
long as neither end of the move is a link (`isFile_of_rename`).
-/

set_option autoImplicit false

namespace SourceTutor.FileTree

variable {t t' t'' : FileTree} {p q : Path} {key : Key} {bytes : ByteArray}

/-! ## Files -/

/-- A path leads to a file if and only if something is read there. -/
theorem isFile_iff_read : t.isFile p = true ↔ ∃ bytes, t.read p = .ok bytes := by
  rw [isFile, node?, read]
  rcases t.resolve .target p with e | ⟨key, bytes | _ | target⟩ | ⟨key, slash⟩ <;>
    simp [bind, Except.bind]

theorem isFile_iff_finds :
    t.isFile p = true ↔ ∃ key bytes, t.FindsAt p key ∧ t.get? key = some (.file bytes) := by
  rw [isFile_iff_read]
  constructor
  · rintro ⟨bytes, hread⟩
    obtain ⟨key, hfound, hget⟩ := read_eq_ok_iff_finds.mp hread
    exact ⟨key, bytes, hfound, hget⟩
  · rintro ⟨key, bytes, hfound, hget⟩
    exact ⟨bytes, read_eq_ok_iff_finds.mpr ⟨key, hfound, hget⟩⟩

/-- Without links the place that is found has the key that the segments name. -/
theorem LinkFree.key_of_finds (ht : t.LinkFree) {links : Nat} {k : Key} {todo : List String}
    (h : Finds t links k todo key) : key = todo.foldl Key.step k := by
  induction h with
  | here hname _ _ => exact (Key.step_name _ hname).symm
  | empty _ ih => rwa [List.foldl_cons, Key.step_silent _ rfl]
  | stay _ ih => rwa [List.foldl_cons, Key.step_silent _ rfl]
  | up _ ih => exact ih
  | down hname _ _ _ ih => rwa [List.foldl_cons, Key.step_name _ hname]
  | follow _ _ hlink _ _ => exact absurd hlink (ht _ _)

theorem LinkFree.key_of_findsAt (ht : t.LinkFree) (h : t.FindsAt p key) : key = p.key :=
  ht.key_of_finds h.2

theorem LinkFree.not_linkAt (ht : t.LinkFree) (p : Path) : ¬ t.LinkAt p := by
  rintro ⟨key, target, hentry⟩
  obtain ⟨_, hkind | hget⟩ := ht.of_resolve hentry
  · cases hkind
  · exact ht key target hget

/-! ## Growing -/

/-- Directories and links stay what they are, and where a file is there is one afterwards. -/
structure Grows (t t' : FileTree) : Prop where
  ways : KeepsWays t t'
  file : ∀ key bytes, t.get? key = some (.file bytes) → ∃ bytes', t'.get? key = some (.file bytes')

theorem Grows.refl (t : FileTree) : Grows t t :=
  ⟨⟨fun _ h => h, fun _ _ h => h⟩, fun _ bytes h => ⟨bytes, h⟩⟩

theorem Grows.trans (h : Grows t t') (h' : Grows t' t'') : Grows t t'' := by
  refine ⟨h.ways.trans h'.ways, fun key bytes hget => ?_⟩
  obtain ⟨bytes', hget'⟩ := h.file key bytes hget
  exact h'.file key bytes' hget'

/-- **A path to a file leads to a file**, whatever links it goes through. -/
theorem Grows.isFile (h : Grows t t') (hp : t.isFile p = true) : t'.isFile p = true := by
  obtain ⟨key, bytes, hfound, hget⟩ := isFile_iff_finds.mp hp
  obtain ⟨bytes', hget'⟩ := h.file key bytes hget
  exact isFile_iff_finds.mpr
    ⟨key, bytes', hfound.congr (writable_of_file hget') h.ways, hget'⟩

theorem Gains.grows (h : Gains t t') : Grows t t' :=
  ⟨⟨fun key => h key _, fun key _ => h key _⟩, fun key bytes hget => ⟨bytes, h key _ hget⟩⟩

theorem Writable.grows_insert (h : t.Writable key) (bytes : ByteArray) :
    Grows t (t.insert key (.file bytes)) := by
  refine ⟨(h.sameWays_insert h.ne_nil bytes).keepsWays, fun other old hget => ?_⟩
  by_cases heq : other = key
  · rw [heq, get?_insert_self h.ne_nil]
    exact ⟨bytes, rfl⟩
  · rw [get?_insert_of_ne heq]
    exact ⟨old, hget⟩

/-- A file that is written lets the tree grow, and no way changes. -/
theorem grows_of_write (h : t.write p bytes = .ok t') : Grows t t' ∧ SameWays t t' := by
  obtain ⟨key, hfound, rfl⟩ := findsAt_of_write h
  have hw := hfound.2.writable
  exact ⟨hw.grows_insert bytes, hw.sameWays_insert hw.ne_nil bytes⟩

/-- Directories that are made above a path let the tree grow. -/
theorem grows_createDirectories (t : FileTree) {dir : Path} (hdir : p.parent? = some dir) :
    Grows t (t.createDirectories dir).1 :=
  (createUpward_madeAbove _ t dir (Path.above_of_parent? hdir)).gains.grows

/-! ## Moving a file -/

/-- A path ends with a step or with a name. -/
theorem endsInStep_or_named (p : Path) :
    EndsInStep p ∨ ∃ dir name, p.segments = dir ++ [name] ∧ Path.IsName name := by
  rcases List.eq_nil_or_concat p.segments with hnil | ⟨dir, last, hp⟩
  · exact .inl (.inl hnil)
  rw [List.concat_eq_append] at hp
  rcases Path.segment_cases last with rfl | rfl | rfl | hname
  · exact .inl (.inr ⟨dir, "", hp, rfl⟩)
  · exact .inl (.inr ⟨dir, ".", hp, rfl⟩)
  · exact .inl (.inr ⟨dir, "..", hp, rfl⟩)
  · exact .inr ⟨dir, last, hp, hname⟩

/-- A path that is a link in a tree with fewer ways is a link, however it ends. -/
theorem KeepsWays.linkAt_of_linkAt (h : KeepsWays t' t) (hlink : t'.LinkAt p) : t.LinkAt p := by
  rcases endsInStep_or_named p with hend | ⟨dir, name, hp, hname⟩
  · exact absurd hlink hend.not_linkAt
  · exact h.linkAt hp hname hlink

/-- A path that leads to a file and is no link is the file. -/
theorem entry_of_read {n : Node} (hread : t.read p = .ok bytes) (hlink : ¬ t.LinkAt p)
    (hentry : t.resolve .entry p = .ok (.taken key n)) : n = .file bytes := by
  rcases endsInStep_or_named p with hend | ⟨dir, name, hp, hname⟩
  · exact absurd hread (hend.read_ne_ok bytes)
  obtain ⟨key', hkey', hget'⟩ := (read_eq_ok_iff hp hname hlink).mp hread
  obtain ⟨_, hkey, ⟨hplace, _⟩ | ⟨_, hplace, hget⟩⟩ := entry_cases hp hname hentry
  · cases hplace
  cases hplace
  rw [hkey.unique hkey', hget'] at hget
  exact (Option.some.inj hget).symm

/-- **What a move leaves**: a path to a file that is not the one moved leads to a file. -/
theorem isFile_of_rename {target : Path} (h : t.rename p target = .ok t')
    (hread : t.read p = .ok bytes) (hlink : ¬ t.LinkAt p) (hlink' : ¬ t.LinkAt target)
    (hq : t.isFile q = true) (hapart : ∀ key, t.FindsAt q key → ¬ t.FindsAt p key) :
    t'.isFile q = true := by
  obtain ⟨here, n, there, hentry, hmoved⟩ := resolve_of_rename_eq_ok h
  obtain rfl := entry_of_read hread hlink hentry
  obtain ⟨hfound, hfile⟩ := findsAt_of_resolve hentry (.inl ⟨bytes, rfl⟩)
  have hhere := writable_of_file (hfile bytes rfl)
  -- where the file is moved to nothing is in the way but a file
  have hthere : t.Writable there ∧ (t' = t ∨ t' = (t.erase here).insert there (.file bytes)) := by
    obtain ⟨hfree, hmade⟩ | ⟨n', htaken, hkind, hmade⟩ := hmoved
    · exact ⟨writable_of_none (get?_of_resolve_free hfree), .inr hmade⟩
    · refine ⟨?_, hmade.imp And.right And.right⟩
      cases n' with
      | file old => exact writable_of_file ((findsAt_of_resolve htaken (.inl ⟨old, rfl⟩)).2 old rfl)
      | directory => exact absurd rfl hkind
      | link link => exact absurd ⟨_, _, htaken⟩ hlink'
  obtain ⟨hwritable, rfl | rfl⟩ := hthere
  · exact hq
  obtain ⟨key, old, hkey, hget⟩ := isFile_iff_finds.mp hq
  have hne : key ≠ here := by
    rintro rfl
    exact hapart key hkey hfound
  have herased := hhere.sameWays_erase hhere.ne_nil
  have hwritable' := herased.writable hwritable
  have hget' : (t.erase here).get? key = some (.file old) := by rwa [get?_erase_of_ne hne]
  obtain ⟨new, hnew⟩ := (hwritable'.grows_insert bytes).file key old hget'
  have hsame := herased.trans (hwritable'.sameWays_insert hwritable'.ne_nil bytes)
  exact isFile_iff_finds.mpr ⟨key, new, hsame.findsAt hkey, hnew⟩

end SourceTutor.FileTree
