import SourceTutor.Proofs.FileTree.Walk

/-!
# What a path leads to

What an operation that succeeds has found is said once for each operation
(`resolve_of_write_eq_ok` and the like). A path is resolved in two halves: its directory, to which
the path `Reaches`, and its last name. Two trees with the same directories and the same links have
the same ways through them (`SameWays`). Putting a file in place of a file or of nothing, or taking
one away, leaves the ways as they are.
-/

set_option autoImplicit false

namespace SourceTutor

namespace Path

theorem fault?_eq_none {p : Path} : p.fault? = none ↔
    0 ∉ p.bytes ∧ p.bytes ≠ [] ∧ p.bytes.length < FileTree.longestPath := by
  rw [fault?]
  split
  · simp_all
  split
  · simp_all
  split
  · simp_all
  · simp_all

/-- The bytes of two halves of a path, with a slash between them. -/
theorem bytes_append {front back : List String} (hfront : front ≠ []) (hback : back ≠ []) :
    bytes ⟨front ++ back⟩ = bytes ⟨front⟩ ++ 0x2F :: bytes ⟨back⟩ := by
  induction front with
  | nil => exact absurd rfl hfront
  | cons first front ih =>
      cases front with
      | nil =>
          obtain ⟨next, back, rfl⟩ := List.exists_cons_of_ne_nil hback
          simp [bytes, List.intercalate_cons_cons]
      | cons second front =>
          have ih := ih (List.cons_ne_nil _ _)
          simp only [bytes, List.cons_append, List.map_cons, List.intercalate_cons_cons] at ih ⊢
          rw [ih]
          simp

/-- What is in front of a name, with the name, is no worse a path than what goes on behind it. -/
theorem fault?_front {front back : List String} {name : String} (hname : FileName.bytes name ≠ [])
    (h : (⟨front ++ name :: back⟩ : Path).fault? = none) :
    (⟨front ++ [name]⟩ : Path).fault? = none := by
  rw [List.append_cons] at h
  by_cases hback : back = []
  · rwa [hback, List.append_nil] at h
  have hlast : (⟨front ++ [name]⟩ : Path).bytes ≠ [] := by
    by_cases hfront : front = []
    · simpa [hfront, bytes] using hname
    · rw [bytes_append hfront (List.cons_ne_nil _ _)]
      simp
  rw [fault?_eq_none, bytes_append (by simp) hback] at h
  obtain ⟨hzero, -, hlength⟩ := h
  rw [List.mem_append, not_or] at hzero
  rw [List.length_append] at hlength
  exact fault?_eq_none.mpr ⟨hzero.1, hlast, Nat.lt_of_le_of_lt (Nat.le_add_right _ _) hlength⟩

end Path

/-- Only slashes are cut off at the end of a path. -/
theorem Path.withoutEndSlashes_of_ne {p : Path} {dir : List String} {name : String}
    (hp : p.segments = dir ++ [name]) (hname : name ≠ "") : p.withoutEndSlashes = p := by
  obtain ⟨segments⟩ := p
  obtain rfl : segments = dir ++ [name] := hp
  have hlast : (name == "") = false := by simpa using hname
  rw [Path.withoutEndSlashes, List.reverse_append, List.reverse_singleton,
    List.singleton_append, List.dropWhile_cons, hlast, if_neg Bool.false_ne_true,
    List.reverse_cons, List.reverse_reverse]
  cases dir <;> rfl

/-- The path is a single name, which the system takes. -/
structure Path.IsBare (p : Path) (name : String) : Prop where
  segments : p.segments = [name]
  isName : IsName name
  size : FileName.size name ≤ FileTree.longestName
  fault : p.fault? = none

namespace FileTree

variable {t t' : FileTree} {p : Path} {dir : List String} {name : String} {links : Nat} {k : Key}

theorem resolve_of_fault {e : IoFault} (h : p.fault? = some e) (t : FileTree) (aim : Aim) :
    t.resolve aim p = .error e := by
  rw [resolve, h]

theorem resolve_of_no_fault (h : p.fault? = none) (t : FileTree) (aim : Aim) :
    t.resolve aim p = t.walkFrom aim linkBudget p.home p.segments := by
  rw [resolve, h]
  rfl

/-- A path of a single name leads to what stands under it at the top. -/
theorem resolve_bare (h : p.IsBare name) (t : FileTree) (aim : Aim) :
    t.resolve aim p = t.walkFrom aim linkBudget [] [name] := by
  have hhome : p.home = [] := by
    rw [Path.home, Path.isAbsolute, h.segments]
    simp
  rw [resolve_of_no_fault h.fault, hhome, h.segments]

theorem resolve_bare_free (h : p.IsBare name) (hget : t.get? [name] = none) (aim : Aim) :
    t.resolve aim p = .ok (.free [name] false) := by
  rw [resolve_bare h, walkFrom_name h.isName, if_neg (Nat.not_lt.mpr h.size), List.nil_append, hget]

theorem resolve_bare_taken (h : p.IsBare name) {n : Node} (hget : t.get? [name] = some n)
    (hlink : ∀ target, n ≠ .link target) (aim : Aim) :
    t.resolve aim p = .ok (.taken [name] n) := by
  rw [resolve_bare h, walkFrom_name h.isName, if_neg (Nat.not_lt.mpr h.size), List.nil_append, hget]
  cases n with
  | file bytes => rfl
  | directory => rfl
  | link target => exact absurd rfl (hlink target)

/-- Nothing is read or found under a single name that is free. -/
theorem read_bare_free (h : p.IsBare name) (hget : t.get? [name] = none) :
    t.read p = .error .notFound ∧ t.contains p = false ∧ t.isDirectory p = false := by
  have hfree := resolve_bare_free h hget .target
  refine ⟨?_, ?_, ?_⟩
  · rw [FileTree.read, hfree]
    rfl
  · rw [contains, node?, hfree]
    rfl
  · rw [isDirectory, node?, hfree]

/-- A file under a single name is read. -/
theorem read_bare_file (h : p.IsBare name) {bytes : ByteArray}
    (hget : t.get? [name] = some (.file bytes)) : t.read p = .ok bytes := by
  rw [FileTree.read, resolve_bare_taken h hget (by simp)]
  rfl

/-- A directory under a single name is found, and is not read. -/
theorem read_bare_directory (h : p.IsBare name) (hget : t.get? [name] = some .directory) :
    t.read p = .error .isADirectory ∧ t.isDirectory p = true := by
  have htaken := resolve_bare_taken h hget (by simp) .target
  constructor
  · rw [FileTree.read, htaken]
    rfl
  · rw [isDirectory, node?, htaken]

/-- A path that is resolved is not refused, and a walk along its segments ends there. -/
theorem walkFrom_of_resolve_eq_ok {aim : Aim} {place : Place} (h : t.resolve aim p = .ok place) :
    p.fault? = none ∧ t.walkFrom aim linkBudget p.home p.segments = .ok place := by
  cases hfault : p.fault? with
  | some e =>
      rw [resolve_of_fault hfault] at h
      cases h
  | none =>
      rw [resolve_of_no_fault hfault] at h
      exact ⟨rfl, h⟩

/-! ## What an operation that succeeds has found -/

/-- What is read is the file that the path leads to. -/
theorem resolve_of_read_eq_ok {bytes : ByteArray} (h : t.read p = .ok bytes) :
    ∃ key, t.resolve .target p = .ok (.taken key (.file bytes)) := by
  rw [read] at h
  cases hok : t.resolve .target p with
  | error e =>
      rw [hok] at h
      cases h
  | ok place =>
      rw [hok] at h
      cases place with
      | free key slash => cases h
      | taken key n =>
          cases n with
          | file found =>
              cases h
              exact ⟨key, rfl⟩
          | directory => cases h
          | link target => cases h

/-- A file is written in place of the one that the path leads to, or where there is none. -/
theorem resolve_of_write_eq_ok {bytes : ByteArray} (h : t.write p bytes = .ok t') :
    ∃ key, t' = t.insert key (.file bytes) ∧
      ((∃ old, t.resolve .creation p = .ok (.taken key (.file old))) ∨
        ∃ slash, t.resolve .creation p = .ok (.free key slash)) := by
  rw [write] at h
  cases hok : t.resolve .creation p with
  | error e =>
      rw [hok] at h
      cases h
  | ok place =>
      rw [hok] at h
      cases place with
      | free key slash =>
          cases h
          exact ⟨key, rfl, .inr ⟨slash, rfl⟩⟩
      | taken key n =>
          cases n with
          | file old =>
              cases h
              exact ⟨key, rfl, .inl ⟨old, rfl⟩⟩
          | directory => cases h
          | link target => cases h

/-- A directory is made where nothing is. -/
theorem resolve_of_createDirectory_eq_ok (h : t.createDirectory p = .ok t') :
    ∃ key slash, t.resolve .entry p = .ok (.free key slash) ∧ t' = t.insert key .directory := by
  rw [createDirectory] at h
  cases hok : t.resolve .entry p with
  | error e =>
      rw [hok] at h
      cases h
  | ok place =>
      rw [hok] at h
      cases place with
      | taken key n => cases h
      | free key slash =>
          cases h
          exact ⟨key, slash, rfl, rfl⟩

/-- What is removed is there, and is no directory. -/
theorem resolve_of_removeFile_eq_ok (h : t.removeFile p = .ok t') :
    ∃ key n, t.resolve .entry p.withoutEndSlashes = .ok (.taken key n) ∧ n ≠ .directory ∧
      p.endsWithSlash = false ∧ t' = t.erase key := by
  rw [removeFile] at h
  cases hok : t.resolve .entry p.withoutEndSlashes with
  | error e =>
      rw [hok] at h
      cases h
  | ok place =>
      rw [hok] at h
      cases place with
      | free key slash => cases h
      | taken key n =>
          have hkind : n ≠ .directory := by
            rintro rfl
            cases h
          by_cases hslash : p.endsWithSlash = true
          · cases n <;> simp [hslash, bind, Except.bind] at h
          · rw [Bool.not_eq_true] at hslash
            refine ⟨key, n, rfl, hkind, hslash, ?_⟩
            cases n with
            | directory => exact absurd rfl hkind
            | _ =>
                simp only [hslash, bind, Except.bind] at h
                exact (Except.ok.inj h).symm

/-- What is moved is there, and takes the place of nothing or of anything but a directory. -/
theorem resolve_of_rename_eq_ok {target : Path} (h : t.rename p target = .ok t') :
    ∃ key n there, t.resolve .entry p = .ok (.taken key n) ∧
      (t.resolve .entry target = .ok (.free there false) ∧ t' = (t.erase key).insert there n ∨
        ∃ n', t.resolve .entry target = .ok (.taken there n') ∧ n' ≠ .directory ∧
          (there = key ∧ t' = t ∨ there ≠ key ∧ t' = (t.erase key).insert there n)) := by
  rw [rename] at h
  cases hok : t.resolve .entry p with
  | error e =>
      rw [hok] at h
      cases h
  | ok place =>
      rw [hok] at h
      cases place with
      | free key slash => cases h
      | taken key n =>
          cases hok' : t.resolve .entry target with
          | error e =>
              simp only [hok', bind, Except.bind] at h
              cases h
          | ok place' =>
              simp only [hok', bind, Except.bind] at h
              cases place' with
              | free there slash =>
                  cases slash with
                  | true => cases h
                  | false => exact ⟨key, n, there, rfl, .inl ⟨rfl, (Except.ok.inj h).symm⟩⟩
              | taken there n' =>
                  have hkind : n' ≠ .directory := by
                    rintro rfl
                    cases h
                  refine ⟨key, n, there, rfl, .inr ⟨n', rfl, hkind, ?_⟩⟩
                  cases n' with
                  | directory => exact absurd rfl hkind
                  | _ =>
                      by_cases heq : there = key
                      · simp only [if_pos heq] at h
                        exact .inl ⟨heq, (Except.ok.inj h).symm⟩
                      · simp only [if_neg heq] at h
                        exact .inr ⟨heq, (Except.ok.inj h).symm⟩

/-! ## The directory of a path -/

/-- The directory of a path is found, with so many links left. -/
def Reaches (t : FileTree) (p : Path) (dir : List String) (links : Nat) (k : Key) : Prop :=
  Leads t linkBudget p.home dir links k

theorem all_name (hname : Path.IsName name) : [name].all (· == "") = false := by
  simp [hname.1]

/-- A path that leads somewhere leads through its directory, and its last name is short enough. -/
theorem reaches_of_resolve_ok {aim : Aim} {place : Place} (hp : p.segments = dir ++ [name])
    (hname : Path.IsName name) (h : t.resolve aim p = .ok place) :
    p.fault? = none ∧ FileName.size name ≤ longestName ∧
      ∃ links k, t.Reaches p dir links k ∧ t.walkFrom aim links k [name] = .ok place := by
  obtain ⟨hfault, hwalk⟩ := walkFrom_of_resolve_eq_ok h
  rw [hp] at hwalk
  rcases leads_or_fault t linkBudget p.home dir with ⟨links, k, hl⟩ | ⟨e, he⟩
  · rw [hl.walkFrom_append (all_name hname)] at hwalk
    exact ⟨hfault, (walkFrom_name_cases hname hwalk).1, links, k, hl, hwalk⟩
  · rw [he aim _ (all_name hname)] at hwalk
    cases hwalk

theorem Reaches.resolve_eq (h : t.Reaches p dir links k) (hp : p.segments = dir ++ [name])
    (hname : Path.IsName name) (hfault : p.fault? = none) (aim : Aim) :
    t.resolve aim p = t.walkFrom aim links k [name] := by
  rw [resolve_of_no_fault hfault, hp, Leads.walkFrom_append h (all_name hname)]

/-! ## Links -/

/-- The path is a symbolic link. -/
def LinkAt (t : FileTree) (p : Path) : Prop :=
  ∃ k target, t.resolve .entry p = .ok (.taken k (.link target))

theorem linkAt_iff (hp : p.segments = dir ++ [name]) (hname : Path.IsName name) :
    t.LinkAt p ↔ p.fault? = none ∧ FileName.size name ≤ longestName ∧
      ∃ links k target, t.Reaches p dir links k ∧ t.get? (k ++ [name]) = some (.link target) := by
  constructor
  · rintro ⟨k, target, h⟩
    obtain ⟨hfault, hsize, links, k', hl, h⟩ := reaches_of_resolve_ok hp hname h
    refine ⟨hfault, hsize, links, k', ?_⟩
    rw [walkFrom_name hname, if_neg (Nat.not_lt_of_le hsize)] at h
    cases hget : t.get? (k' ++ [name]) with
    | none => simp [hget] at h
    | some n =>
        cases n with
        | file bytes => simp [hget] at h
        | directory => simp [hget] at h
        | link target' => exact ⟨target', hl, rfl⟩
  · rintro ⟨hfault, hsize, links, k, target, hl, hget⟩
    refine ⟨k ++ [name], target, ?_⟩
    rw [hl.resolve_eq hp hname hfault, walkFrom_name hname, if_neg (Nat.not_lt_of_le hsize), hget]
    rfl

/-! ## The same ways -/

/-- A path that is a link in a tree with fewer ways is a link. -/
theorem KeepsWays.linkAt (h : KeepsWays t' t) (hp : p.segments = dir ++ [name])
    (hname : Path.IsName name) (hlink : t'.LinkAt p) : t.LinkAt p := by
  rw [linkAt_iff hp hname] at hlink ⊢
  obtain ⟨hfault, hsize, links, k, target, hl, hget⟩ := hlink
  exact ⟨hfault, hsize, links, k, target, Leads.congr hl h, h.link _ _ hget⟩

/-- The trees have the same directories and the same links. -/
structure SameWays (t t' : FileTree) : Prop where
  keepsWays : KeepsWays t t'
  back : KeepsWays t' t

theorem SameWays.symm (h : SameWays t t') : SameWays t' t := ⟨h.back, h.keepsWays⟩

theorem SameWays.erase (h : SameWays t t') (hk : k ≠ []) : SameWays (t.erase k) (t'.erase k) :=
  ⟨h.keepsWays.erase hk, h.back.erase hk⟩

theorem Writable.sameWays_insert (h : t.Writable k) (hk : k ≠ []) (bytes : ByteArray) :
    SameWays t (t.insert k (.file bytes)) :=
  ⟨h.keepsWays_erase.trans (.of_erase_insert hk), .of_insert_file hk⟩

theorem Writable.sameWays_erase (h : t.Writable k) (hk : k ≠ []) : SameWays t (t.erase k) :=
  ⟨h.keepsWays_erase, .of_erase hk⟩

end FileTree

end SourceTutor
