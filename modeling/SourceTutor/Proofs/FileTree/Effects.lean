import SourceTutor.Proofs.FileTree.Resolve

/-!
# What the operations do

One lemma for each operation that succeeds on a path that ends with a name: where the path leads,
what stands there before, and what the operation makes of it. A path that is no link leads to the
key that its directory and its last name make up (`PointsTo`).
-/

set_option autoImplicit false

namespace SourceTutor.FileTree

variable {t t' : FileTree} {p : Path} {dir : List String} {name : String} {key : Key}
  {bytes : ByteArray}

/-! ## Where a path points -/

/-- The path is not refused, its directory is found, and this is its last name in there. -/
def PointsTo (t : FileTree) (p : Path) (dir : List String) (name : String) (key : Key) : Prop :=
  p.fault? = none ∧ FileName.size name ≤ longestName ∧
    ∃ links k, t.Reaches p dir links k ∧ key = k ++ [name]

/-- Two names in one directory point to siblings. -/
theorem PointsTo.sibling {q : Path} {name' : String} {key' : Key} (h : t.PointsTo p dir name key)
    (h' : t.PointsTo q dir name' key') (hhome : p.home = q.home) :
    ∃ k, key = k ++ [name] ∧ key' = k ++ [name'] := by
  obtain ⟨_, _, links, k, hl, rfl⟩ := h
  obtain ⟨_, _, links', k', hl', rfl⟩ := h'
  rw [Reaches, ← hhome] at hl'
  exact ⟨k, rfl, by rw [hl'.unique hl]⟩

/-- A path points to one key only. -/
theorem PointsTo.unique {key' : Key} (h : t.PointsTo p dir name key)
    (h' : t.PointsTo p dir name key') : key = key' := by
  obtain ⟨k, rfl, rfl⟩ := h.sibling h' rfl
  rfl

theorem PointsTo.ordinary (h : t.PointsTo p dir name key) (hname : Path.IsName name)
    (hroot : name ≠ "/") : Ordinary key := by
  obtain ⟨_, _, _, k, _, rfl⟩ := h
  exact ordinary_concat k hname.2.2 hroot

/-- A path points into a directory. -/
theorem PointsTo.parent (h : t.PointsTo p dir name key) (ht : t.WellFormed) :
    ∃ k, t.IsDirectory k ∧ key = k ++ [name] := by
  obtain ⟨_, _, _, k, hl, rfl⟩ := h
  exact ⟨k, hl.isDirectory ht (isDirectory_home t p), rfl⟩

/-- A tree stays well-formed when something is put where a path points to. -/
theorem PointsTo.wellFormed_insert (h : t.PointsTo p dir name key) (ht : t.WellFormed)
    (hw : t.get? key ≠ some .directory) (n : Node) : (t.insert key n).WellFormed := by
  obtain ⟨k, hdir, rfl⟩ := h.parent ht
  exact ht.insert hdir hw

theorem KeepsWays.pointsTo (h : KeepsWays t t') (hkey : t.PointsTo p dir name key) :
    t'.PointsTo p dir name key := by
  obtain ⟨hfault, hsize, links, k, hl, heq⟩ := hkey
  exact ⟨hfault, hsize, links, k, Leads.congr hl h, heq⟩

theorem SameWays.pointsTo_iff (h : SameWays t t') :
    t'.PointsTo p dir name key ↔ t.PointsTo p dir name key :=
  ⟨h.back.pointsTo, h.keepsWays.pointsTo⟩

/-- A path that is no link points to none. -/
theorem PointsTo.not_link (h : t.PointsTo p dir name key) (hp : p.segments = dir ++ [name])
    (hname : Path.IsName name) (hlink : ¬ t.LinkAt p) (target : Path) :
    t.get? key ≠ some (.link target) := by
  obtain ⟨hfault, hsize, links, k, hl, rfl⟩ := h
  intro hget
  exact hlink ((linkAt_iff hp hname).mpr ⟨hfault, hsize, links, k, target, hl, hget⟩)

/-- A path is no link if none stands where it points to. -/
theorem PointsTo.not_linkAt (h : t.PointsTo p dir name key) (hp : p.segments = dir ++ [name])
    (hname : Path.IsName name) (hget : ∀ target, t.get? key ≠ some (.link target)) :
    ¬ t.LinkAt p := by
  intro hlink
  obtain ⟨hfault, hsize, links, k, target, hl, hget'⟩ := (linkAt_iff hp hname).mp hlink
  obtain rfl : key = k ++ [name] := h.unique ⟨hfault, hsize, links, k, hl, rfl⟩
  exact hget target hget'

/-- The directory of the path is reached without what stands under its last name. -/
def Outside (t : FileTree) (p : Path) : Prop :=
  ∀ dir name key, p.segments = dir ++ [name] → Path.IsName name → t.PointsTo p dir name key →
    (t.erase key).PointsTo p dir name key

theorem SameWays.outside (h : SameWays t t') (hout : t.Outside p) : t'.Outside p := by
  intro dir name key hp hname hkey
  have herased := hout dir name key hp hname (h.pointsTo_iff.mp hkey)
  obtain ⟨_, _, _, k, _, heq⟩ := hkey
  have hne : key ≠ [] := by simp [heq]
  exact (h.erase hne).pointsTo_iff.mpr herased

/-! ## What stands where a path leads -/

/-- What is found under a path that is no link. -/
theorem PointsTo.resolve_eq (h : t.PointsTo p dir name key) (hp : p.segments = dir ++ [name])
    (hname : Path.IsName name) (hlink : ∀ target, t.get? key ≠ some (.link target)) (aim : Aim) :
    t.resolve aim p =
      .ok (match t.get? key with
        | none => .free key false
        | some n => .taken key n) := by
  obtain ⟨hfault, hsize, links, k, hl, rfl⟩ := h
  rw [hl.resolve_eq hp hname hfault, walkFrom_name hname, if_neg (Nat.not_lt_of_le hsize)]
  cases hget : t.get? (k ++ [name]) with
  | none => rfl
  | some n =>
      cases n with
      | file bytes => rfl
      | directory => rfl
      | link target => exact absurd hget (hlink target)

/-- What stands where a path leads. -/
theorem place_cases {aim : Aim} {place : Place} (hp : p.segments = dir ++ [name])
    (hname : Path.IsName name) (h : t.resolve aim p = .ok place) :
    ∃ key, t.PointsTo p dir name key ∧
      ((place = .free key false ∧ t.get? key = none) ∨
        (∃ bytes, place = .taken key (.file bytes) ∧ t.get? key = some (.file bytes)) ∨
        (place = .taken key .directory ∧ t.get? key = some .directory) ∨
        ∃ target, (aim = .entry → place = .taken key (.link target)) ∧
          t.get? key = some (.link target)) := by
  obtain ⟨hfault, hsize, links, k, hl, hwalk⟩ := reaches_of_resolve_ok hp hname h
  refine ⟨k ++ [name], ⟨hfault, hsize, links, k, hl, rfl⟩, ?_⟩
  rcases (walkFrom_name_cases hname hwalk).2 with
    ⟨hget, _, _, hplace⟩ | ⟨bytes, hget, _, hplace⟩ | ⟨hget, hwalk⟩ | ⟨target, hget, hlink⟩
  · exact .inl ⟨hplace, hget⟩
  · exact .inr (.inl ⟨bytes, hplace, hget⟩)
  · rw [walkFrom.eq_1] at hwalk
    exact .inr (.inr (.inl ⟨(Except.ok.inj hwalk).symm, hget⟩))
  · -- the link is what is found only if the path is not to be followed
    refine .inr (.inr (.inr ⟨target, ?_, hget⟩))
    rintro rfl
    rw [walkFrom_name hname, if_neg (Nat.not_lt_of_le hsize), hget] at hwalk
    exact (Except.ok.inj hwalk).symm

/-- The place of a path that is no link. -/
theorem place_cases_of_not_link {aim : Aim} {place : Place} (hp : p.segments = dir ++ [name])
    (hname : Path.IsName name) (hlink : ¬ t.LinkAt p) (h : t.resolve aim p = .ok place) :
    ∃ key, t.PointsTo p dir name key ∧
      ((place = .free key false ∧ t.get? key = none) ∨
        (∃ bytes, place = .taken key (.file bytes) ∧ t.get? key = some (.file bytes)) ∨
        (place = .taken key .directory ∧ t.get? key = some .directory)) := by
  obtain ⟨key, hkey, hfree | hfile | hdir | ⟨target, _, hget⟩⟩ := place_cases hp hname h
  · exact ⟨key, hkey, .inl hfree⟩
  · exact ⟨key, hkey, .inr (.inl hfile)⟩
  · exact ⟨key, hkey, .inr (.inr hdir)⟩
  · exact absurd hget (hkey.not_link hp hname hlink target)

/-- What is found under a path that ends with a name. -/
theorem entry_cases {place : Place} (hp : p.segments = dir ++ [name]) (hname : Path.IsName name)
    (h : t.resolve .entry p = .ok place) :
    ∃ key, t.PointsTo p dir name key ∧
      ((place = .free key false ∧ t.get? key = none) ∨
        ∃ n, place = .taken key n ∧ t.get? key = some n) := by
  obtain ⟨key, hkey, hfree | ⟨bytes, htaken⟩ | htaken | ⟨target, htaken, hget⟩⟩ :=
    place_cases hp hname h
  · exact ⟨key, hkey, .inl hfree⟩
  · exact ⟨key, hkey, .inr ⟨_, htaken⟩⟩
  · exact ⟨key, hkey, .inr ⟨_, htaken⟩⟩
  · exact ⟨key, hkey, .inr ⟨_, htaken rfl, hget⟩⟩

/-! ## The operations -/

/-- A file is read where the path leads to one. -/
theorem read_eq_ok_iff (hp : p.segments = dir ++ [name]) (hname : Path.IsName name)
    (hlink : ¬ t.LinkAt p) :
    t.read p = .ok bytes ↔ ∃ key, t.PointsTo p dir name key ∧ t.get? key = some (.file bytes) := by
  constructor
  · intro h
    obtain ⟨key, hok⟩ := resolve_of_read_eq_ok h
    obtain ⟨key', hkey, ⟨hplace, _⟩ | ⟨found, hplace, hget⟩ | ⟨hplace, _⟩⟩ :=
      place_cases_of_not_link hp hname hlink hok
    · cases hplace
    · cases hplace
      exact ⟨key, hkey, hget⟩
    · cases hplace
  · rintro ⟨key, hkey, hget⟩
    rw [read, hkey.resolve_eq hp hname (hkey.not_link hp hname hlink), hget]
    rfl

/-- Where something is read, something stands. -/
theorem pointsTo_of_read (hp : p.segments = dir ++ [name]) (hname : Path.IsName name)
    (h : t.read p = .ok bytes) : ∃ key n, t.PointsTo p dir name key ∧ t.get? key = some n := by
  obtain ⟨key, hok⟩ := resolve_of_read_eq_ok h
  obtain ⟨key', hkey, ⟨hplace, _⟩ | ⟨_, _, hget⟩ | ⟨_, hget⟩ | ⟨_, _, hget⟩⟩ :=
    place_cases hp hname hok
  · cases hplace
  · exact ⟨key', _, hkey, hget⟩
  · exact ⟨key', _, hkey, hget⟩
  · exact ⟨key', _, hkey, hget⟩

/-- A file is written in place of a file or of nothing. -/
theorem of_write_eq_ok (hp : p.segments = dir ++ [name]) (hname : Path.IsName name)
    (hlink : ¬ t.LinkAt p) (h : t.write p bytes = .ok t') :
    ∃ key, t.PointsTo p dir name key ∧ t.Writable key ∧ t' = t.insert key (.file bytes) := by
  obtain ⟨key, hins, ⟨old, hok⟩ | ⟨slash, hok⟩⟩ := resolve_of_write_eq_ok h
  · obtain ⟨key', hkey, ⟨hplace, _⟩ | ⟨found, hplace, hget⟩ | ⟨hplace, _⟩⟩ :=
      place_cases_of_not_link hp hname hlink hok
    · cases hplace
    · cases hplace
      exact ⟨key, hkey, writable_of_file hget, hins⟩
    · cases hplace
  · obtain ⟨key', hkey, ⟨hplace, hget⟩ | ⟨found, hplace, _⟩ | ⟨hplace, _⟩⟩ :=
      place_cases_of_not_link hp hname hlink hok
    · cases hplace
      exact ⟨key, hkey, writable_of_none hget, hins⟩
    · cases hplace
    · cases hplace

/-- A file or a link that is removed was there. -/
theorem of_removeFile_eq_ok (hp : p.segments = dir ++ [name]) (hname : Path.IsName name)
    (h : t.removeFile p = .ok t') :
    ∃ key, t.PointsTo p dir name key ∧ t.get? key ≠ some .directory ∧ t' = t.erase key := by
  obtain ⟨key, n, hok, hkind, _, herased⟩ := resolve_of_removeFile_eq_ok h
  rw [Path.withoutEndSlashes_of_ne hp hname.1] at hok
  obtain ⟨key', hkey, ⟨hplace, _⟩ | ⟨n', hplace, hget⟩⟩ := entry_cases hp hname hok
  · cases hplace
  · cases hplace
    exact ⟨key, hkey, by simpa [hget] using hkind, herased⟩

/-- What is there is found when it is to be removed. -/
theorem removeFile_ne_notFound {n : Node} (hp : p.segments = dir ++ [name])
    (hname : Path.IsName name) (hkey : t.PointsTo p dir name key) (hget : t.get? key = some n) :
    t.removeFile p ≠ .error .notFound := by
  obtain ⟨hfault, hsize, links, k, hl, rfl⟩ := hkey
  rw [removeFile, Path.withoutEndSlashes_of_ne hp hname.1, hl.resolve_eq hp hname hfault,
    walkFrom_name hname, if_neg (Nat.not_lt_of_le hsize), hget]
  cases n <;> by_cases hslash : p.endsWithSlash <;> simp [hslash, bind, Except.bind]

/-- A directory is made where nothing is. -/
theorem of_createDirectory_eq_ok (hp : p.segments = dir ++ [name]) (hname : Path.IsName name)
    (h : t.createDirectory p = .ok t') :
    ∃ key, t.PointsTo p dir name key ∧ t.get? key = none ∧ t' = t.insert key .directory := by
  obtain ⟨key, slash, hok, hmade⟩ := resolve_of_createDirectory_eq_ok h
  obtain ⟨key', hkey, ⟨hplace, hget⟩ | ⟨n, hplace, _⟩⟩ := entry_cases hp hname hok
  · cases hplace
    exact ⟨key, hkey, hget, hmade⟩
  · cases hplace

/-- What is moved takes the place of anything but a directory. -/
theorem of_rename_eq_ok {target : Path} {dir' : List String} {name' : String}
    (hp : p.segments = dir ++ [name]) (hname : Path.IsName name)
    (hp' : target.segments = dir' ++ [name']) (hname' : Path.IsName name')
    (h : t.rename p target = .ok t') :
    ∃ key key' n, t.PointsTo p dir name key ∧ t.get? key = some n ∧
      t.PointsTo target dir' name' key' ∧ t.get? key' ≠ some .directory ∧
        (key' = key ∧ t' = t ∨ key' ≠ key ∧ t' = (t.erase key).insert key' n) := by
  obtain ⟨key, n, there, hok, hmoved⟩ := resolve_of_rename_eq_ok h
  obtain ⟨_, hkey, ⟨hplace, _⟩ | ⟨_, hplace, hget⟩⟩ := entry_cases hp hname hok
  · cases hplace
  cases hplace
  -- the target is free, or there is a file or a link, which may be the source itself
  refine ⟨key, there, n, ?_⟩
  rcases hmoved with ⟨hok', hins⟩ | ⟨n', hok', hkind, hmoved⟩
  · obtain ⟨_, hkey', ⟨hplace, hget'⟩ | ⟨_, hplace, _⟩⟩ := entry_cases hp' hname' hok'
    · cases hplace
      have hne : there ≠ key := by
        rintro rfl
        rw [hget] at hget'
        cases hget'
      exact ⟨hkey, hget, hkey', by simp [hget'], .inr ⟨hne, hins⟩⟩
    · cases hplace
  · obtain ⟨_, hkey', ⟨hplace, _⟩ | ⟨_, hplace, hget'⟩⟩ := entry_cases hp' hname' hok'
    · cases hplace
    · cases hplace
      exact ⟨hkey, hget, hkey', by simpa [hget'] using hkind, hmoved⟩

end SourceTutor.FileTree
